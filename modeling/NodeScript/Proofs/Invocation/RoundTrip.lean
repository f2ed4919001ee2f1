/-
  What can be asked for on the command line, and how.

  An invocation says which settings are given, with any values, whether the mode is inverted,
  whether the script is on standard input, and where else it comes from, if it does. Each part
  of it has an argument (`Invocation.arguments`), and each of these is read by itself. In
  another order they are read as the same items in that order, and what items ask for does not
  depend on their order. Main statement: in every order, the arguments of an invocation ask for
  what it says (`invocations_are_understood`).
-/
import NodeScript.Proofs.Invocation.Items
import Mathlib.Data.List.Perm.Basic

namespace NodeScript

/-! ### Invocations -/

/-- Where a script comes from, other than standard input: the command line itself, or a file.
An empty text counts as none, and a path must not look like an option. -/
inductive Origin where
  | command (text : Bytes) (given : text ≠ [])
  | script (path : Bytes) (given : path ≠ []) (plain : path = [hyphen] ∨ path.head? ≠ some hyphen)

/-- The text of a script on the command line. -/
def Origin.command? : Origin → Option Bytes
  | .command text _ => some text
  | .script _ _ _ => none

/-- The path of a script in a file. -/
def Origin.script? : Origin → Option Bytes
  | .command _ _ => none
  | .script path _ _ => some path

/-- What can be asked for in one call, apart from texts about the program. -/
structure Invocation where
  config : Option Bytes := none
  dir : Option Bytes := none
  logFile : Option Bytes := none
  logLevel : Option Bytes := none
  out : Option Bytes := none
  /-- Whether the interactive mode is inverted. -/
  inverted : Bool := false
  /-- Whether the script is to be read from standard input. -/
  fromStdin : Bool := false
  origin : Option Origin := none

namespace Invocation

variable (i : Invocation)

def command? : Option Bytes := i.origin.bind Origin.command?

def script? : Option Bytes := i.origin.bind Origin.script?

/-- The argument that gives an option, if it is given. -/
def argument? : OptionName → Option Bytes
  | .command => i.command?.map (utf8 "--command=" ++ ·)
  | .interactive => if i.inverted then some (utf8 "-i") else none
  | .stdin => if i.fromStdin then some (utf8 "-s") else none
  | .config => i.config.map (utf8 "--config=" ++ ·)
  | .dir => i.dir.map (utf8 "--dir=" ++ ·)
  | .logFile => i.logFile.map (utf8 "--log-file=" ++ ·)
  | .logLevel => i.logLevel.map (utf8 "--log-level=" ++ ·)
  | .out => i.out.map (utf8 "--out=" ++ ·)
  | .help | .version => none

/-- The arguments of an invocation, in one of their orders. -/
def arguments : List Bytes := OptionName.all.filterMap i.argument? ++ i.script?.toList

/-- What an option is given with, if it is given. -/
def value? : OptionName → Option Bytes
  | .command => i.command?
  | .interactive => if i.inverted then some [] else none
  | .stdin => if i.fromStdin then some [] else none
  | .config => i.config
  | .dir => i.dir
  | .logFile => i.logFile
  | .logLevel => i.logLevel
  | .out => i.out
  | .help | .version => none

/-- The items that the arguments are read as. -/
def items : List Item :=
  OptionName.all.filterMap (fun name => (i.value? name).map (.given name)) ++
    i.script?.toList.map .positional

/-- The options that an invocation asks for: the mode is interactive only without a script in
the arguments. -/
def options (terminal : Bool) : Options :=
  { command := i.command?.getD []
    script := i.script?.getD []
    config := i.config.getD []
    dir := i.dir.getD []
    logFile := i.logFile.getD []
    logLevel := i.logLevel.getD []
    out := i.out.getD []
    interactive := i.origin.isNone && ((terminal && !i.fromStdin) != i.inverted) }

/-! ### Arguments and their items -/

theorem reads_value {arg : Bytes → Bytes} {name : OptionName}
    (h : ∀ v, Reads (arg v) (.given name v)) (o : Option Bytes) :
    Option.Rel Reads (o.map arg) (o.map (.given name)) := by
  cases o with
  | none => exact .none
  | some v => exact .some (h v)

theorem reads_flag {arg : Bytes} {name : OptionName} (h : Reads arg (.given name []))
    (given : Bool) :
    Option.Rel Reads (if given then some arg else none)
      ((if given then some [] else none : Option Bytes).map (.given name)) := by
  cases given with
  | false => exact .none
  | true => exact .some h

theorem reads_argument (name : OptionName) :
    Option.Rel Reads (i.argument? name) ((i.value? name).map (.given name)) := by
  cases name with
  | command => exact reads_value (reads_long .command rfl) i.command?
  | interactive => exact reads_flag (reads_letter .interactive rfl rfl (by decide)) i.inverted
  | stdin => exact reads_flag (reads_letter .stdin rfl rfl (by decide)) i.fromStdin
  | config => exact reads_value (reads_long .config rfl) i.config
  | dir => exact reads_value (reads_long .dir rfl) i.dir
  | logFile => exact reads_value (reads_long .logFile rfl) i.logFile
  | logLevel => exact reads_value (reads_long .logLevel rfl) i.logLevel
  | out => exact reads_value (reads_long .out rfl) i.out
  | help => exact .none
  | version => exact .none

theorem reads_script :
    List.Forall₂ Reads i.script?.toList (i.script?.toList.map .positional) := by
  unfold script?
  rcases i.origin with _ | ⟨text, given⟩ | ⟨path, given, plain⟩
  · exact .nil
  · exact .nil
  · exact .cons (reads_positional plain) .nil

theorem reads_arguments : List.Forall₂ Reads i.arguments i.items := by
  refine List.rel_append (List.rel_filterMap (R := Eq) ?_ ?_) i.reads_script
  · rintro name _ rfl
    exact i.reads_argument name
  · exact List.forall₂_eq_eq_eq ▸ rfl

/-- In another order, the arguments are read as the same items in that order. -/
theorem readItems_of_perm {args : List Bytes} (h : args.Perm i.arguments) :
    ∃ items, readItems programOptions args = .ok items ∧ items.Perm i.items := by
  obtain ⟨items, hread, hperm⟩ := List.perm_comp_forall₂ h i.reads_arguments
  exact ⟨items, readItems_of_reads hread, hperm⟩

/-! ### What the items say -/

theorem given_mem_items (name : OptionName) (v : Bytes) :
    .given name v ∈ i.items ↔ i.value? name = some v := by
  have hall : name ∈ OptionName.all := by cases name <;> decide
  simp [items, hall]

theorem positional_mem_items (text : Bytes) :
    .positional text ∈ i.items ↔ i.script? = some text := by
  simp [items]

theorem stranger_notMem_items : .stranger ∉ i.items := by
  simp [items]

theorem names_items :
    i.items.filterMap Item.name? = OptionName.all.filter fun name => (i.value? name).isSome := by
  have hname (name : OptionName) : ((i.value? name).map (.given name)).bind Item.name? =
      Option.guard (fun name => (i.value? name).isSome) name := by
    cases h : i.value? name <;> simp [Option.guard, Item.name?, h]
  unfold items
  rw [List.filterMap_append, List.filterMap_filterMap, List.filterMap_map]
  simp only [hname]
  simp [Item.name?, List.filterMap_eq_filter, Function.comp_def]

theorem positionals_items : i.items.filterMap Item.positional? = i.script?.toList := by
  unfold items
  rw [List.filterMap_append, List.filterMap_filterMap, List.filterMap_map]
  simp [Item.positional?, Function.comp_def]

theorem fits_items : Options.fits i.items = true := by
  have hstranger : i.items.contains .stranger = false := by
    simpa using i.stranger_notMem_items
  have hnames : (i.items.filterMap Item.name?).Nodup := by
    rw [names_items]
    exact List.Pairwise.filter _ (by decide)
  have hcommand : Options.isGiven i.items .command = i.command?.isSome :=
    Options.isGiven_eq (i.given_mem_items .command)
  simp only [Options.fits, hstranger, hnames, positionals_items, hcommand]
  -- An invocation has one origin at most, so not both a command and a script.
  unfold command? script?
  rcases i.origin with _ | _ | _ <;> rfl

/-- A script on the command line, and one in a file, is not empty. -/
theorem isEmpty_origin :
    ((i.command?.getD []).isEmpty && (i.script?.getD []).isEmpty) = i.origin.isNone := by
  unfold command? script?
  rcases i.origin with _ | ⟨text, given⟩ | ⟨path, given, plain⟩
  · rfl
  · simpa [Origin.command?, Origin.script?] using given
  · simpa [Origin.command?, Origin.script?] using given

theorem isGiven_of_perm {items : List Item} (h : items.Perm i.items) (name : OptionName) :
    Options.isGiven items name = (i.value? name).isSome := by
  apply Options.isGiven_eq
  intro v
  rw [h.mem_iff, i.given_mem_items]

theorem ofItems_of_perm {items : List Item} (h : items.Perm i.items) (terminal : Bool) :
    Options.ofItems items terminal = i.options terminal := by
  have hvalue (name : OptionName) : Options.value items name = (i.value? name).getD [] := by
    apply Options.value_eq
    intro v
    rw [h.mem_iff, i.given_mem_items]
  have hscript : items.findSome? Item.positional? = i.script? := by
    apply Options.positional_eq
    intro text
    rw [h.mem_iff, i.positional_mem_items]
  have hstdin : Options.isGiven items .stdin = i.fromStdin := by
    rw [i.isGiven_of_perm h, value?]
    cases i.fromStdin <;> rfl
  have hinverted : Options.isGiven items .interactive = i.inverted := by
    rw [i.isGiven_of_perm h, value?]
    cases i.inverted <;> rfl
  simp only [Options.ofItems, options, hvalue, hscript, hstdin, hinverted, value?, isEmpty_origin]

end Invocation

/-- Whatever values are given, and in whatever order the arguments stand, the options are those
that the invocation asks for. -/
theorem invocations_are_understood (i : Invocation) (args : List Bytes)
    (hargs : args.Perm i.arguments) (terminal : Bool) :
    Call.ofArguments args terminal = .ok (.run (i.options terminal)) := by
  obtain ⟨items, hread, hperm⟩ := i.readItems_of_perm hargs
  have hhelp : Options.isGiven items .help = false := i.isGiven_of_perm hperm .help
  have hversion : Options.isGiven items .version = false := i.isGiven_of_perm hperm .version
  have hfits : Options.fits items = true := by
    rw [Options.fits_of_perm hperm, i.fits_items]
  have hoptions := i.ofItems_of_perm hperm terminal
  unfold Call.ofArguments
  rw [hread]
  simp only [bind, Except.bind, hhelp, hversion, hfits, hoptions, Bool.false_eq_true, if_false,
    if_true]
  rfl

/-- Values that are empty, that look like options and that have an `=` in them, a script that is
a dash, and arguments in another order. -/
theorem invocations_are_understood_scrambled :
    [utf8 "-s", utf8 "--out=--help", utf8 "-", utf8 "--dir=", utf8 "-i",
        utf8 "--config=-c=-v"].Perm
        (Invocation.arguments
          { config := some (utf8 "-c=-v"), dir := some [], out := some (utf8 "--help"),
            inverted := true, fromStdin := true,
            origin := some (.script [hyphen] (by decide) (.inl rfl)) }) ∧
      Call.ofArguments
          [utf8 "-s", utf8 "--out=--help", utf8 "-", utf8 "--dir=", utf8 "-i",
            utf8 "--config=-c=-v"] true =
        .ok (.run { script := utf8 "-", config := utf8 "-c=-v", out := utf8 "--help" }) := by
  refine ⟨?hperm, invocations_are_understood _ _ ?hperm true⟩
  decide

end NodeScript
