/-
  Which of the layers decides on a setting.

  Every layer says something about some of the settings, and the last one that does decides
  (`of_assign`). The layers differ in what counts as saying nothing: on the command line and
  in the environment an empty text does, in a settings file it does not. In the environment
  there are two layers in one, since a variable of the dotenv file counts only if the process
  does not have it at all and an environment can hold it (`get?_extend`).

  All settings but one are texts, and what is said about one of them never touches another
  (`TextSetting.of_assign`, `TextSetting.of_override`). So the value of each follows from its
  own sources (`Sources.value`), and the environment may override them in any order. None of
  this depends on how the contents of files are decoded.
-/
import NodeScript.Invocation.Program

namespace NodeScript

/-! ### Settings one by one -/

theorem Settings.getD_nonEmpty (v w : Bytes) :
    (nonEmpty v).getD w = if v ≠ [] then v else w := by
  cases v with
  | nil => rfl
  | cons b v => rfl

/-- A value that is not there counts like an empty one. -/
theorem Settings.getD_bind_nonEmpty (x : Option Bytes) (w : Bytes) :
    (x.bind nonEmpty).getD w = if x.getD [] ≠ [] then x.getD [] else w := by
  cases x with
  | none => rfl
  | some v => exact getD_nonEmpty v w

/-- The settings that are texts. -/
inductive TextSetting where
  | dir
  | logFile
  | level
  | format
  | output
  | file
  deriving DecidableEq

namespace TextSetting

/-- The value of a setting. -/
def of (s : Settings) : TextSetting → Bytes
  | .dir => s.dir
  | .logFile => s.logFile
  | .level => s.logging.level
  | .format => s.logging.format
  | .output => s.logging.output
  | .file => s.logging.file

/-- The settings with another value for one of them. -/
def set (s : Settings) (v : Bytes) : TextSetting → Settings
  | .dir => { s with dir := v }
  | .logFile => { s with logFile := v }
  | .level => { s with logging := { s.logging with level := v } }
  | .format => { s with logging := { s.logging with format := v } }
  | .output => { s with logging := { s.logging with output := v } }
  | .file => { s with logging := { s.logging with file := v } }

/-- What a layer says about a setting, if anything. -/
def said? (a : Assignment) : TextSetting → Option Bytes
  | .dir => a.dir
  | .logFile => a.logFile
  | .level => a.level
  | .format => a.format
  | .output => a.output
  | .file => a.file

/-- The value of a setting on the command line, empty if it has none there. -/
def option (o : Options) : TextSetting → Bytes
  | .dir => o.dir
  | .logFile => o.logFile
  | .level => o.logLevel
  | _ => []

/-- The variable of the environment that overrides a setting, if one does. -/
def envName? : TextSetting → Option Bytes
  | .dir => some (utf8 "XDA_DIR")
  | .logFile => some (utf8 "XDA_LOG_FILE")
  | .level => some (utf8 "XDA_LOG_LEVEL")
  | .format => some (utf8 "XDA_LOG_FORMAT")
  | _ => none

/-- The settings that a variable overrides. -/
def overridden : List TextSetting := [.dir, .logFile, .level, .format]

/-- The value of a setting's variable in an environment, if it has one and it is set. -/
def inEnvironment? (env : Environment) (t : TextSetting) : Option Bytes := t.envName?.bind env.get?

theorem of_assign (s : Settings) (a : Assignment) (t : TextSetting) :
    t.of (s.assign a) = (t.said? a).getD (t.of s) := by
  cases t <;> rfl

theorem of_set (s : Settings) (v : Bytes) (t t' : TextSetting) :
    t.of (t'.set s v) = if t = t' then v else t.of s := by
  cases t <;> cases t' <;> rfl

theorem history_set (s : Settings) (v : Bytes) (t : TextSetting) :
    (t.set s v).history = s.history := by
  cases t <;> rfl

/-- Settings are what their values are. -/
theorem ext_of {s s' : Settings} (h : ∀ t, of s t = of s' t) (hhistory : s.history = s'.history) :
    s = s' := by
  obtain ⟨dir, logFile, history, level, format, output, file⟩ := s
  obtain ⟨dir', logFile', history', level', format', output', file'⟩ := s'
  cases h .dir
  cases h .logFile
  cases h .level
  cases h .format
  cases h .output
  cases h .file
  cases hhistory
  rfl

theorem said?_environmentLayer (env : Environment) (t : TextSetting) :
    t.said? (Settings.environmentLayer env) = (t.inEnvironment? env).bind Settings.nonEmpty := by
  cases t <;> rfl

theorem said?_optionsLayer (o : Options) (t : TextSetting) :
    t.said? (Settings.optionsLayer o) = Settings.nonEmpty (t.option o) := by
  cases t <;> rfl

/-! ### Overriding one after another -/

/-- The settings after the variable of one of them has been asked: a value that is set and
not empty overrides the setting. -/
def override (env : Environment) (s : Settings) (t : TextSetting) : Settings :=
  match t.inEnvironment? env with
  | none => s
  | some v => if v = [] then s else t.set s v

theorem override_eq (env : Environment) (s : Settings) (t : TextSetting) :
    override env s t =
      if (t.inEnvironment? env).getD [] ≠ [] then t.set s ((t.inEnvironment? env).getD [])
      else s := by
  unfold override
  cases t.inEnvironment? env with
  | none => rfl
  | some v => exact (ite_not ..).symm

theorem of_override (env : Environment) (s : Settings) (t t' : TextSetting) :
    t.of (override env s t') =
      if t = t' then ((t.inEnvironment? env).bind Settings.nonEmpty).getD (t.of s) else t.of s := by
  rw [override_eq, Settings.getD_bind_nonEmpty]
  by_cases ht : t = t'
  · subst ht
    rw [if_pos rfl, apply_ite (of · t), of_set, if_pos rfl]
  · rw [if_neg ht, apply_ite (of · t), of_set, if_neg ht, ite_self]

theorem history_override (env : Environment) (s : Settings) (t : TextSetting) :
    (override env s t).history = s.history := by
  rw [override_eq, apply_ite Settings.history, history_set, ite_self]

/-- What overriding in turn comes to for each setting. -/
theorem of_foldl_override (env : Environment) (s : Settings) (order : List TextSetting)
    (t : TextSetting) :
    t.of (order.foldl (override env) s) =
      if t ∈ order then ((t.inEnvironment? env).bind Settings.nonEmpty).getD (t.of s)
      else t.of s := by
  induction order generalizing s with
  | nil => simp
  | cons t' order ih =>
    rw [List.foldl_cons, ih, of_override]
    by_cases ht : t = t'
    · subst ht
      cases (t.inEnvironment? env).bind Settings.nonEmpty with
      | none => simp
      | some v => simp
    · simp [ht]

theorem history_foldl_override (env : Environment) (s : Settings) (order : List TextSetting) :
    (order.foldl (override env) s).history = s.history := by
  induction order generalizing s with
  | nil => rfl
  | cons t order ih => rw [List.foldl_cons, ih, history_override]

theorem inEnvironment?_of_not_mem {t : TextSetting} (h : t ∉ overridden) (env : Environment) :
    t.inEnvironment? env = none := by
  cases t with
  | output => rfl
  | file => rfl
  | _ => exact absurd (by decide) h

/-- In whatever order the settings are overridden, the result is that of the environment as
one layer. -/
theorem foldl_override_eq_assign {order : List TextSetting} (h : order.Perm overridden)
    (env : Environment) (s : Settings) :
    order.foldl (override env) s = s.assign (Settings.environmentLayer env) := by
  refine ext_of (fun t => ?_) (history_foldl_override env s order)
  rw [of_foldl_override, of_assign, said?_environmentLayer]
  by_cases ht : t ∈ overridden
  · rw [if_pos (h.mem_iff.mpr ht)]
  · rw [if_neg fun hmem => ht (h.mem_iff.mp hmem), inEnvironment?_of_not_mem ht]
    rfl

end TextSetting

/-! ### Sources -/

/-- All that can decide on the value of a setting: its value on the command line, empty if
there is none; its variable in the environment of the process and in the dotenv file, and its
value in the settings file, each if it is there; and the default. -/
structure Sources where
  commandLine : Bytes
  process : Option Bytes
  dotenv : Option Bytes
  file : Option Bytes
  standard : Bytes

namespace Sources

/-- The variable as the environment has it in the end. One that the process has, even with an
empty value, hides that of the dotenv file, and a value that no variable can have does not
count. -/
def inEnvironment? (x : Sources) : Option Bytes :=
  x.process.or (x.dotenv.filter Environment.isValue)

/-- The value of the variable, empty if there is none. -/
def environment (x : Sources) : Bytes := x.inEnvironment?.getD []

/-- The value that the sources give to the setting. -/
def value (x : Sources) : Bytes :=
  if x.commandLine ≠ [] then x.commandLine
  else if x.environment ≠ [] then x.environment
  else x.file.getD x.standard

theorem value_eq (x : Sources) :
    x.value = (Settings.nonEmpty x.commandLine).getD
      ((x.inEnvironment?.bind Settings.nonEmpty).getD (x.file.getD x.standard)) := by
  rw [value, environment, Settings.getD_nonEmpty, Settings.getD_bind_nonEmpty]

end Sources

/-- The sources of a setting. -/
def TextSetting.sources (o : Options) (env vars : Environment) (file : Assignment)
    (t : TextSetting) : Sources where
  commandLine := t.option o
  process := t.inEnvironment? env
  dotenv := t.inEnvironment? vars
  file := t.said? file
  standard := t.of {}

/-! ### Layers -/

namespace Environment

theorem get?_filter (p : Bytes → Bool) (env : Environment) (name : Bytes) :
    get? (env.filter fun v => p v.1) name = if p name then env.get? name else none := by
  unfold get?
  induction env with
  | nil => simp
  | cons v env ih =>
    obtain ⟨other, value⟩ := v
    cases hname : name == other with
    | true =>
      obtain rfl := beq_iff_eq.mp hname
      cases hp : p name with
      | true => simp [hp]
      | false => simpa [hp] using ih
    | false =>
      -- Whether this variable is kept or not, it is not the one that is looked for.
      cases hp : p other with
      | true => simpa [hp, List.lookup_cons, hname] using ih
      | false => simpa [hp, List.lookup_cons, hname] using ih

/-- A variable that is set stays, and one that is not is set if it can be. -/
theorem get?_extend (env more : Environment) (name : Bytes) :
    (env.extend more).get? name =
      (env.get? name).or (if isName name then (more.get? name).filter isValue else none) := by
  have hnew := get?_filter
    (fun n => (env.get? n).isNone && isName n && (more.get? n).all isValue) more name
  unfold get? at hnew ⊢
  rw [extend, List.lookup_append]
  cases henv : env.lookup name with
  | some v => rfl
  | none =>
    rw [Option.none_or, Option.none_or]
    refine hnew.trans ?_
    rw [henv]
    cases isName name with
    | false => rfl
    | true =>
      cases more.lookup name with
      | none => rfl
      | some v => cases hv : isValue v <;> simp [hv, Option.filter]

end Environment

theorem TextSetting.inEnvironment?_extend (env more : Environment) (t : TextSetting) :
    t.inEnvironment? (env.extend more) =
      (t.inEnvironment? env).or ((t.inEnvironment? more).filter Environment.isValue) := by
  have hnames : ∀ t' name, envName? t' = some name → Environment.isName name = true := by
    intro t' name h
    cases t' <;> cases h <;> decide
  unfold inEnvironment?
  cases hname : t.envName? with
  | none => rfl
  | some name =>
    have hget := env.get?_extend more name
    rwa [hnames t name hname] at hget

namespace Settings

/-- The settings file at a path says `file`: it can be read, its extension stands for a
format, and its content decodes to `file`. Without a path nothing is said. -/
def FileSays (decoders : Decoders) (d : Disk) (env : Environment) (path : Bytes)
    (file : Assignment) : Prop :=
  path = [] ∧ file = {} ∨
    path ≠ [] ∧ ∃ content format, d.read path = .ok content ∧
      FileFormat.ofExtension? (lowerCase (Path.extension path)) = some format ∧
      format.decode decoders env content = .ok file

/-- The dotenv file has the variables `vars`; a file that is missing has none. -/
def DotenvHas (decoders : Decoders) (d : Disk) (env vars : Environment) : Prop :=
  (∃ why, d.read (dotenvPath env) = .error why ∧ why.isMissing = true ∧ vars = []) ∨
    ∃ content, d.read (dotenvPath env) = .ok content ∧ decoders.dotenv content = some vars

variable {decoders : Decoders} {d : Disk} {env vars : Environment} {file : Assignment}
  {path : Bytes}

theorem extendEnvironment_eq (h : DotenvHas decoders d env vars) :
    extendEnvironment d env decoders = .ok (env.extend vars) := by
  unfold extendEnvironment
  rcases h with ⟨why, hread, hmissing, rfl⟩ | ⟨content, hread, hdecode⟩
  · have hsame : env.extend [] = env := List.append_nil env
    simp only [hread, hmissing, hsame, if_true]
  · simp only [hread, hdecode]

theorem load_eq (hfile : FileSays decoders d env path file)
    (hdotenv : DotenvHas decoders d env vars) :
    load d env path decoders =
      .ok ((({} : Settings).assign file).assign (environmentLayer (env.extend vars)),
        env.extend vars) := by
  have henv := extendEnvironment_eq hdotenv
  rcases hfile with ⟨rfl, rfl⟩ | ⟨hpath, content, format, hread, hformat, hdecode⟩
  · rw [load, henv]
    rfl
  · have hlayer : fileLayer d env path decoders = .ok file := by
      simp only [fileLayer, hread, hformat, hdecode]
    rw [load, if_neg (by simpa using hpath), hlayer, henv]
    rfl

/-- The layers that make up the settings. -/
theorem inEffect_eq {o : Options} (hfile : FileSays decoders d env o.config file)
    (hdotenv : DotenvHas decoders d env vars) :
    inEffect d env o decoders =
      .ok (((({} : Settings).assign file).assign (environmentLayer (env.extend vars))).assign
        (optionsLayer o), env.extend vars) := by
  rw [inEffect, load_eq hfile hdotenv]
  rfl

end Settings

/-- A run that has been set up writes the sink that its settings name. -/
theorem Run.sink_of_prepare {decoders : Decoders} {args : List Bytes} {g : Given} {o : Options}
    {s : Settings} {env : Environment} {r : Run}
    (hcall : Call.ofArguments args g.terminal = .ok (.run o))
    (hsettings : Settings.inEffect g.disk g.env o decoders = .ok (s, env))
    (h : prepare args g decoders = .ok r) :
    r.interpreter.sink = if s.logFile = [] then utf8 "log.txt" else s.logFile := by
  simp only [prepare, hcall, hsettings] at h
  split at h
  · cases h
  · cases h
    show (if s.logFile.isEmpty then Interpreter.defaultSink else s.logFile) = _
    simp only [List.isEmpty_iff]
    rfl

/-- **Which source decides on a setting.** Let the settings file say `file` and let the dotenv
file have the variables `vars`, whatever the decoders are. Then there are settings in effect, and
each of them is what its own sources make it: the value on the command line if that is not empty,
else the value of its variable if that is not empty, else what the file says, be it empty, else
the default. A variable that the process has hides the one of the dotenv file, even with an empty
value, and a value with a zero byte in the dotenv file counts as none. Only the directory, the sink
and the level are settings of the command line, and only these and the format have a variable;
whether lines are kept is up to the file alone. The variables may be applied in any order. And a
run that is set up with these settings writes the sink that they name, or `log.txt` if the name is
empty. -/
theorem settings_follow_their_sources {decoders : Decoders} {d : Disk} {env vars : Environment}
    {o : Options} {file : Assignment} (hfile : Settings.FileSays decoders d env o.config file)
    (hdotenv : Settings.DotenvHas decoders d env vars) :
    ∃ s env', Settings.inEffect d env o decoders = .ok (s, env') ∧
      (∀ t : TextSetting, t.of s = (t.sources o env vars file).value) ∧
      s.history = file.history.getD true ∧
      (∀ name, env'.get? name = (env.get? name).or
        (if Environment.isName name then (vars.get? name).filter Environment.isValue else none)) ∧
      (∀ order : List TextSetting, order.Perm TextSetting.overridden →
        s = (order.foldl (TextSetting.override env') (({} : Settings).assign file)).assign
          (Settings.optionsLayer o)) ∧
      ∀ args (g : Given) r, Call.ofArguments args g.terminal = .ok (.run o) →
        Run.prepare args { g with disk := d, env } decoders = .ok r →
        r.interpreter.sink = if s.logFile = [] then utf8 "log.txt" else s.logFile := by
  have hsettings := Settings.inEffect_eq hfile hdotenv
  refine ⟨_, _, hsettings, fun t => ?_, rfl, env.get?_extend vars, fun order horder => ?_,
    fun args g r hcall hrun => ?_⟩
  · rw [TextSetting.of_assign, TextSetting.of_assign, TextSetting.of_assign,
      TextSetting.said?_optionsLayer, TextSetting.said?_environmentLayer,
      TextSetting.inEnvironment?_extend, Sources.value_eq]
    rfl
  · rw [TextSetting.foldl_override_eq_assign horder]
  · exact Run.sink_of_prepare (g := { g with disk := d, env }) hcall hsettings hrun

/-- The process has an empty variable for the directory, which hides the one of the dotenv file
and overrides nothing. The level comes from the dotenv file, where the format has a zero byte and
does not count. The empty name of the sink, which the settings file gives, stands, so that the run
writes `log.txt`. -/
theorem settings_follow_their_sources_past_empty_ones :
    let content := utf8 "dir = \"out\"\nlog_file = \"\"\n[logging]\nlevel = \"error\"\n"
    let dotenv := utf8 "XDA_DIR=hidden\nXDA_LOG_LEVEL=info\nXDA_LOG_FORMAT=j\x00n\n"
    let d := Disk.put (Disk.put {} (.file content) [utf8 "a.toml"]) (.file dotenv) [utf8 ".env"]
    let env : Environment := [(utf8 "XDA_DIR", [])]
    let vars : Environment :=
      [(utf8 "XDA_LOG_FORMAT", utf8 "j\x00n"), (utf8 "XDA_LOG_LEVEL", utf8 "info"),
        (utf8 "XDA_DIR", utf8 "hidden")]
    let file : Assignment :=
      { dir := some (utf8 "out"), logFile := some [], level := some (utf8 "error") }
    let args := [utf8 "--config", utf8 "a.toml", utf8 "-c", utf8 "<LOG>"]
    Settings.FileSays .standard d env (utf8 "a.toml") file ∧
      Settings.DotenvHas .standard d env vars ∧
      ∃ r, Run.prepare args { disk := d, env } = .ok r ∧ r.interpreter.host.dir = utf8 "out" ∧
        r.interpreter.host.journal.threshold = .info ∧
        r.interpreter.host.journal.format = .console ∧
        r.interpreter.sink = utf8 "log.txt" := by
  intro content dotenv d env vars file args
  let o : Options := { command := utf8 "<LOG>", config := utf8 "a.toml" }
  have hdecode : Toml.decode (Settings.tomlVersion env) content = some file := by decide +kernel
  have hfile : Settings.FileSays .standard d env o.config file := by
    refine .inr ⟨by decide, content, .toml, by rfl, by decide +kernel, ?_⟩
    show (Toml.decode (Settings.tomlVersion env) content).elim _ _ = _
    rw [hdecode]
    rfl
  have hdotenv : Settings.DotenvHas .standard d env vars :=
    .inr ⟨dotenv, by rfl, by decide +kernel⟩
  have hcall : Call.ofArguments args false = .ok (.run o) := by rfl
  obtain ⟨s, env', hsettings, hvalues, hhistory, -, -, hsink⟩ :=
    settings_follow_their_sources hfile hdotenv
  have hs : s = { dir := utf8 "out", logFile := [], logging := { level := utf8 "info" } } := by
    refine TextSetting.ext_of (fun t => ?_) hhistory
    rw [hvalues t]
    cases t <;> decide
  let journal : Journal := { threshold := .info, format := .console, time := some [] }
  have hjournal : s.logging.openJournal [] d = .ok (journal, .stderr, d) := by
    have hformat : Format.ofBytes (utf8 "console") = .console := by decide +kernel
    have hlevel : Level.named.find? (·.2.1 = foldCase (lowerCase (utf8 "info"))) =
        some (.info, utf8 "info", utf8 "INF") := by decide +kernel
    rw [hs, Logging.openJournal_of_stderr hlevel (by decide +kernel), hformat]
  have hrun : Run.prepare args { disk := d, env } =
      .ok ⟨o, if s.history then History.path? env' else none,
        s.interpreter [] journal .stderr d⟩ := by
    simp only [Run.prepare, hcall, hsettings, hjournal]
  refine ⟨hfile, hdotenv, _, hrun, ?_, rfl, rfl, ?_⟩
  · show s.dir = _
    rw [hs]
  · rw [hsink args {} _ hcall hrun, hs]
    rfl

/-- A value of the dotenv file that no variable can have does not reach the settings, even if
nothing else decides on the directory but the default. -/
theorem dotenv_value_with_zero_byte_does_not_count :
    let name := utf8 "XDA_DIR"
    let value := utf8 "a\x00b"
    let d := Disk.put {} (.file (name ++ [equalsSign] ++ value ++ [newline])) [utf8 ".env"]
    let env : Environment := []
    let vars : Environment := [(name, value)]
    let o : Options := {}
    Settings.FileSays .standard d env o.config {} ∧ Settings.DotenvHas .standard d env vars ∧
      o.dir = [] ∧ env.get? name = none ∧ vars.get? name = some value ∧ value ≠ [] ∧
      ∃ s env', Settings.inEffect d env o = .ok (s, env') ∧ s.dir = utf8 "." ∧ s.dir ≠ value := by
  intro name value d env vars o
  have hfile : Settings.FileSays .standard d env o.config {} := .inl ⟨rfl, rfl⟩
  have hdotenv : Settings.DotenvHas .standard d env vars :=
    .inr ⟨_, by rfl, by decide +kernel⟩
  have hsettings := Settings.inEffect_eq hfile hdotenv
  refine ⟨hfile, hdotenv, rfl, rfl, by decide, by decide, _, _, hsettings, ?_, ?_⟩
  · decide
  · decide

end NodeScript
