/-
  Scripts that are run as a whole.

  A script can be at fault in its log commands only, and whatever it does prints nothing,
  as long as the journal is kept elsewhere (`StaysQuiet.of_rewrites`). What the program
  prints is therefore the output log at its end, and this is the log of the script with one
  more line if it was exported (`exportIfAsked_cases`). Neither a fault nor a failed export
  keeps the program from what is left to do, but both show in its exit status.

  All this is so in any surroundings that keep apart what is printed, what is said about
  faults, and the files (`BatchHost`), for whatever reasons they may refuse a file
  (`runSource_spec`). A run of the program is an instance.
-/
import NodeScript.Invocation.Program
import NodeScript.Proofs.Files.Following
import NodeScript.Proofs.Interpreter.Sink

namespace NodeScript

/-! ### Faults -/

/-- Only log commands can be at fault as long as nothing is exported. -/
theorem Interpreter.of_mem_faults {σ : Type} [Host σ] {cs : List Command}
    (hcs : ∀ c ∈ cs, ¬ c.Exports) {i : Interpreter σ} {f : Fault} (hf : f ∈ (i.evaluateAll cs).2) :
    f.command ∈ cs ∧ f.command.kind = .log := by
  induction cs generalizing i with
  | nil => cases hf
  | cons c cs ih =>
    rw [evaluateAll_cons, List.mem_append, Option.mem_toList] at hf
    rcases hf with hf | hf
    · have hlog : c.kind = .log := by
        by_contra hlog
        rw [(evaluate_of_ne_log hlog (hcs c (List.mem_cons_self ..)) i).2] at hf
        cases hf
      have hcommand : f.command = c := by
        rw [fault_evaluate] at hf
        split at hf
        · rw [← Option.some.inj hf]
        · cases hf
      rw [hcommand]
      exact ⟨List.mem_cons_self .., hlog⟩
    · obtain ⟨hmem, hlog⟩ := ih (fun d hd => hcs d (List.mem_cons_of_mem _ hd)) hf
      exact ⟨List.mem_cons_of_mem _ hmem, hlog⟩

/-! ### Surroundings -/

/-- Surroundings of a run: they show what has been printed and what has become of the files,
and events can be kept out of what is printed. A file may be refused for any reason, but not
because something went wrong before and was said. -/
class BatchHost (σ : Type) (φ : outParam Type) extends ErrorHost σ where
  printed : σ → Bytes
  files : σ → φ
  /-- Events are not printed. -/
  Quiet : σ → Prop
  printed_print : ∀ (host : σ) (text : Bytes), printed (print host text) = printed host ++ text
  printed_printError : ∀ (host : σ) (text : Bytes), printed (printError host text) = printed host
  printed_write : ∀ (host : σ) (name content : Bytes),
    printed (write host name content).1 = printed host
  printed_report : ∀ {host : σ}, Quiet host → ∀ e : Event, printed (report host e) = printed host
  quiet_printError : ∀ {host : σ}, Quiet host → ∀ text : Bytes, Quiet (printError host text)
  quiet_write : ∀ {host : σ}, Quiet host → ∀ name content : Bytes,
    Quiet (write host name content).1
  quiet_report : ∀ {host : σ}, Quiet host → ∀ e : Event, Quiet (report host e)
  files_print : ∀ (host : σ) (text : Bytes), files (print host text) = files host
  files_printError : ∀ (host : σ) (text : Bytes), files (printError host text) = files host
  write_printError : ∀ (host : σ) (text name content : Bytes),
    write (printError host text) name content =
      (printError (write host name content).1 text, (write host name content).2)

namespace BatchHost

variable {σ φ : Type} [BatchHost σ φ] {host host' host'' : σ}

/-- On the way from `host` to `host'` nothing was printed, and events are still not printed. -/
structure StaysQuiet (host host' : σ) : Prop where
  printed : printed host' = printed host
  quiet : Quiet host'

namespace StaysQuiet

theorem refl (h : Quiet host) : StaysQuiet host host := ⟨rfl, h⟩

theorem trans (h : StaysQuiet host host') (h' : StaysQuiet host' host'') :
    StaysQuiet host host'' :=
  ⟨h'.printed.trans h.printed, h'.quiet⟩

theorem printError (h : Quiet host) (text : Bytes) :
    StaysQuiet host (ErrorHost.printError host text) :=
  ⟨printed_printError host text, quiet_printError h text⟩

theorem write (h : Quiet host) (name content : Bytes) :
    StaysQuiet host (Host.write host name content).1 :=
  ⟨printed_write host name content, quiet_write h name content⟩

theorem report (h : Quiet host) (e : Event) : StaysQuiet host (Host.report host e) :=
  ⟨printed_report h e, quiet_report h e⟩

theorem perform (h : Quiet host) (sink : Bytes) (errand : Errand) :
    StaysQuiet host (errand.perform sink host) := by
  cases errand with
  | report e => exact .report h e
  | write content => exact .write h sink content

/-- Nothing is printed as long as nothing but events and the sink are written. -/
theorem of_rewrites {i j : Interpreter σ} {times : Nat} (h : i.Rewrites j times)
    (hquiet : Quiet i.host) : StaysQuiet i.host j.host := by
  exact h.preserves (fun host errand hhost => hhost.trans (.perform hhost.quiet ..)) (.refl hquiet)

end StaysQuiet

end BatchHost

/-! ### Runs in any surroundings -/

namespace Interpreter

variable {σ φ : Type} [BatchHost σ φ] {i : Interpreter σ}

open BatchHost

theorem complain_spec (hquiet : Quiet i.host) (problem : Option Problem) :
    (i.complain problem).simulation = i.simulation ∧
      files (i.complain problem).host = files i.host ∧
      StaysQuiet i.host (i.complain problem).host := by
  cases problem with
  | none => exact ⟨rfl, rfl, .refl hquiet⟩
  | some p => exact ⟨rfl, files_printError .., .printError hquiet _⟩

/-- The surroundings after the output log was to be exported, and why that fails if it does. -/
def exported (i : Interpreter σ) (out : Bytes) : σ × Option Refusal :=
  Host.write i.host out (Bytes.join [newline] i.simulation.output)

theorem save_eq (i : Interpreter σ) (out : Bytes) :
    i.save out =
      ({ i with host := (i.exported out).1 }, (i.exported out).2.map (WriteFailure.mk out)) := rfl

/-- An export that is not asked for does nothing; one that succeeds adds a line to the output
log, and one that fails does not. -/
theorem exportIfAsked_cases (hquiet : Quiet i.host) (out : Bytes) :
    StaysQuiet i.host (i.exportIfAsked out).1.host ∧
      ((out = [] ∧ i.exportIfAsked out = (i, none)) ∨
        (out ≠ [] ∧ (i.exported out).2 = none ∧ (i.exportIfAsked out).2 = none ∧
          files (i.exportIfAsked out).1.host = files (i.exported out).1 ∧
          (i.exportIfAsked out).1.simulation =
            i.simulation.append (utf8 "Output exported to " ++ out)) ∨
        (out ≠ [] ∧ (i.exported out).2 ≠ none ∧ (i.exportIfAsked out).2 ≠ none ∧
          (i.exportIfAsked out).1.simulation = i.simulation)) := by
  by_cases hout : out = []
  · rw [exportIfAsked, if_pos (by rw [hout]; rfl)]
    exact ⟨.refl hquiet, .inl ⟨hout, rfl⟩⟩
  · have hwrite : StaysQuiet i.host (i.exported out).1 := .write hquiet ..
    rw [exportIfAsked, if_neg (by rwa [List.isEmpty_iff]), exportOutput, save_eq]
    cases (i.exported out).2 with
    | none => exact ⟨hwrite, .inr (.inl ⟨hout, rfl, rfl, rfl, rfl⟩)⟩
    | some why =>
      refine ⟨hwrite.trans (.report hwrite.quiet _), .inr (.inr ⟨hout, ?_, ?_, rfl⟩)⟩
      · simp
      · simp

/-- What is said about a problem goes elsewhere than files, so an export goes as it would have
gone. -/
theorem exported_complain (i : Interpreter σ) (problem : Option Problem) (out : Bytes) :
    ((i.complain problem).exported out).2 = (i.exported out).2 ∧
      files ((i.complain problem).exported out).1 = files (i.exported out).1 := by
  cases problem with
  | none => exact ⟨rfl, rfl⟩
  | some p =>
    have hwrite : (i.complain (some p)).exported out = _ := write_printError i.host ..
    rw [hwrite]
    exact ⟨rfl, files_printError ..⟩

/-- A script prints nothing. -/
theorem staysQuiet_execute (hquiet : Quiet i.host) (label script : Bytes) :
    StaysQuiet i.host (i.execute label script).1.host := by
  have hcommands : ∀ c ∈ readScript label script, ¬ c.Exports := fun c => not_exports
  exact .of_rewrites (rewrites_evaluateAll hcommands i) hquiet

/-- What a script and its export come to, in whatever surroundings. The log is printed as it
is at the end, whether anything went wrong or not. -/
theorem runSource_spec (hquiet : Quiet i.host) (source : Source) (out : Bytes) :
    let outcome := i.execute source.label source.text
    let exported := outcome.1.exported out
    let result := i.runSource source out
    result.2 = (if outcome.2 = [] ∧ (out = [] ∨ exported.2 = none) then .success else .failure) ∧
    printed result.1.host = printed i.host ++ Bytes.lines result.1.simulation.output ∧
    (out = [] ∨ exported.2 ≠ none → result.1.simulation = outcome.1.simulation) ∧
    (out ≠ [] → exported.2 = none →
      result.1.simulation = outcome.1.simulation.append (utf8 "Output exported to " ++ out) ∧
        files result.1.host = files exported.1) := by
  intro outcome exported result
  have hscript : StaysQuiet i.host outcome.1.host := staysQuiet_execute hquiet ..
  set told := outcome.1.complain (problem? outcome.2)
  obtain ⟨hexported, hexportedFiles⟩ : (told.exported out).2 = exported.2 ∧
    files (told.exported out).1 = files exported.1 := exported_complain ..
  obtain ⟨htoldSimulation, -, htold⟩ := complain_spec hscript.quiet (problem? outcome.2)
  obtain ⟨hattempt, hcases⟩ := exportIfAsked_cases htold.quiet out
  rw [hexported, hexportedFiles, htoldSimulation] at hcases
  set attempt := told.exportIfAsked out
  obtain ⟨hsimulation, hlastFiles, hlast⟩ :=
    complain_spec hattempt.quiet (attempt.2.map WriteFailure.problem)
  have hstatus : result.2 =
      if outcome.2.isEmpty && attempt.2.isNone then .success else .failure := rfl
  have hprinted : printed result.1.host =
      printed i.host ++ Bytes.lines result.1.simulation.output := by
    have hquiet := ((hscript.trans htold).trans hattempt).trans hlast
    rw [← hquiet.printed]
    exact printed_print ..
  have hsimulation : result.1.simulation = attempt.1.simulation := hsimulation
  have hfiles : files result.1.host = files attempt.1.host := by
    rw [← hlastFiles]
    exact files_print ..
  rw [hstatus]
  rcases hcases with ⟨hout, hnone⟩ | ⟨hout, hdone, hnone, hwritten, hlog⟩ |
    ⟨hout, hfailed, hsome, hlog⟩
  -- No export, one that succeeds, and one that fails.
  · have hkept : attempt.1.simulation = outcome.1.simulation := by rw [hnone, htoldSimulation]
    refine ⟨?_, hprinted, fun _ => hsimulation.trans hkept, fun h => absurd hout h⟩
    simp [hnone, hout]
  · refine ⟨?_, hprinted, ?_, fun _ _ => ⟨hsimulation.trans hlog, hfiles.trans hwritten⟩⟩
    · simp [hnone, hdone]
    · rintro (h | h)
      · exact absurd h hout
      · exact absurd hdone h
  · refine ⟨?_, hprinted, fun _ => hsimulation.trans hlog, fun _ h => absurd h hfailed⟩
    simp [hsome, hout, hfailed]

end Interpreter

/-! ### Runs on a desk -/

theorem Machine.stdout_writeTo {outlet : Outlet} (h : outlet ≠ .stdout) (m : Machine) (s : Bytes) :
    (m.writeTo s outlet).stdout = m.stdout := by
  cases outlet with
  | stdout => exact absurd rfl h
  | stderr => rfl
  | file path =>
    simp only [writeTo]
    cases m.disk.append path s with
    | ok disk => rfl
    | error why => rfl

instance : BatchHost Desk Disk where
  printed d := d.machine.stdout.text
  files d := d.machine.disk
  Quiet d := d.outlet ≠ .stdout
  printed_print _ _ := Transcript.text_write ..
  printed_printError _ _ := rfl
  printed_write _ _ _ := rfl
  printed_report h _ := congrArg Transcript.text (Machine.stdout_writeTo h ..)
  quiet_printError h _ := h
  quiet_write h _ _ := h
  quiet_report h _ := h
  files_print _ _ := rfl
  files_printError _ _ := rfl
  write_printError _ _ _ _ := rfl

/-- An export goes to a file below the directory. -/
theorem Interpreter.exported_desk (i : Interpreter Desk) (out : Bytes) :
    let written := i.host.machine.disk.writeBelow i.host.dir out
      (List.intercalate [newline] i.simulation.output)
    (i.exported out).2 = written.2 ∧ BatchHost.files (i.exported out).1 = written.1 := by
  rw [exported, Bytes.join_eq_intercalate]
  exact ⟨rfl, rfl⟩

/-- A script leaves the directory as it is. -/
theorem Interpreter.dir_execute (i : Interpreter Desk) (label script : Bytes) :
    (i.execute label script).1.host.dir = i.host.dir := by
  have hcommands : ∀ c ∈ readScript label script, ¬ c.Exports := fun c => not_exports
  refine (rewrites_evaluateAll hcommands i).preserves (P := (·.dir = i.host.dir))
    (fun desk errand hdesk => ?_) rfl
  cases errand with
  | report e => exact hdesk
  | write content => exact hdesk

/-- The interpreter of a run starts with a new simulation, and nothing has been printed. -/
theorem Settings.interpreter_spec (s : Settings) (id : Bytes) (journal : Journal)
    {outlet : Outlet} (houtlet : outlet ≠ .stdout) (disk : Disk) :
    let i := s.interpreter id journal outlet disk
    i.simulation = { id } ∧ BatchHost.printed i.host = [] ∧ i.host.dir = s.dir ∧
      BatchHost.Quiet i.host := by
  intro i
  let desk : Desk := { machine := { disk }, dir := s.dir, journal, outlet }
  have hquiet : BatchHost.StaysQuiet desk i.host := .report houtlet _
  exact ⟨rfl, hquiet.printed, rfl, hquiet.quiet⟩

theorem runProgram_eq_runSource {args : List Bytes} {g : Given} {o : Options} {s : Settings}
    {env : Environment} {journal : Journal} {outlet : Outlet} {disk : Disk} {source : Source}
    (hcall : Call.ofArguments args g.terminal = .ok (.run o)) (hbatch : o.interactive = false)
    (hsettings : Settings.inEffect g.disk g.env o = .ok (s, env))
    (hjournal : s.logging.openJournal g.time g.disk = .ok (journal, outlet, disk))
    (hsource : Source.ofOptions o (s.interpreter g.id journal outlet disk).host.machine.disk
      g.stdin = .ok source) :
    let result := (s.interpreter g.id journal outlet disk).runSource source o.out
    runProgram args g = (result.2, result.1.host.machine) := by
  simp only [runProgram, Run.prepare, hcall, hsettings, hjournal, Run.carryOut, hbatch, hsource]
  rfl

/-- **What a script that is run as a whole reports.** Let all that the program needs be there: the
options, the settings, the journal and the script. Then it prints the output log as it is in the
end, each line with a newline behind it, and this is the log of the script, carried out on a new
simulation, with one more line if it was exported. The exit status is 0 if no log command of the
script was at fault and no export failed, and 1 otherwise. What was exported is the log of the
script with newlines between its lines, whatever went wrong before. -/
theorem batch_reports_log_and_status {args : List Bytes} {g : Given} {o : Options} {s : Settings}
    {env : Environment} {journal : Journal} {outlet : Outlet} {disk : Disk} {source : Source}
    (hcall : Call.ofArguments args g.terminal = .ok (.run o)) (hbatch : o.interactive = false)
    (hsettings : Settings.inEffect g.disk g.env o = .ok (s, env))
    (hjournal : s.logging.openJournal g.time g.disk = .ok (journal, outlet, disk))
    (houtlet : outlet ≠ .stdout)
    (hsource : Source.ofOptions o (s.interpreter g.id journal outlet disk).host.machine.disk
      g.stdin = .ok source) :
    let i := s.interpreter g.id journal outlet disk
    let outcome := i.execute source.label source.text
    let log := outcome.1.simulation.output
    let content := List.intercalate [newline] log
    let written := outcome.1.host.machine.disk.writeBelow s.dir o.out content
    let final := (i.runSource source o.out).1.simulation.output
    let result := runProgram args g
    i.simulation = { id := g.id } ∧
    (∀ f ∈ outcome.2, f.command ∈ readScript source.label source.text ∧ f.command.kind = .log) ∧
    (result.1.code =
      if (∀ f ∈ outcome.2, f.command.kind ≠ .log) ∧ (o.out = [] ∨ written.2 = none) then 0
      else 1) ∧
    result.2.stdout.text = Bytes.lines final ∧
    (o.out = [] ∨ written.2 ≠ none → final = log) ∧
    (o.out ≠ [] → written.2 = none →
      final = log ++ [utf8 "Output exported to " ++ o.out] ∧
        result.2.disk.read (Path.below s.dir o.out) = .ok content) := by
  intro i outcome log content written final result
  obtain ⟨hsimulation, hstdout, hdir, hquiet⟩ := s.interpreter_spec g.id journal houtlet disk
  obtain ⟨hstatus, hprinted, hkept, hadded⟩ := Interpreter.runSource_spec hquiet source o.out
  have hresult : result = _ := runProgram_eq_runSource hcall hbatch hsettings hjournal hsource
  have hwritten : (outcome.1.exported o.out).2 = written.2 ∧
      BatchHost.files (outcome.1.exported o.out).1 = written.1 := by
    have hsame : outcome.1.host.dir = s.dir := (i.dir_execute ..).trans hdir
    have hdesk := outcome.1.exported_desk o.out
    rwa [hsame] at hdesk
  have hfaults : ∀ f ∈ outcome.2,
      f.command ∈ readScript source.label source.text ∧ f.command.kind = .log :=
    fun f hf => Interpreter.of_mem_faults (fun c => not_exports) hf
  -- A fault is always one of a log command, so there is none without one.
  have hnone : (∀ f ∈ outcome.2, f.command.kind ≠ .log) ↔ outcome.2 = [] := by
    rw [List.eq_nil_iff_forall_not_mem]
    exact forall_congr' fun f => ⟨fun h hf => h hf (hfaults f hf).2, fun h hf => absurd hf h⟩
  rw [hwritten.1] at hstatus hkept hadded
  rw [hwritten.2] at hadded
  rw [hresult]
  refine ⟨hsimulation, hfaults, ?_, ?_, ?_, ?_⟩
  · simp only [hstatus, hnone]
    split
    · rfl
    · rfl
  · show BatchHost.printed (i.runSource source o.out).1.host = _
    rw [hprinted, hstdout, List.nil_append]
  · intro h
    exact congrArg Simulation.output (hkept h)
  · intro hout hdone
    obtain ⟨hlog, hdisk⟩ := hadded hout hdone
    refine ⟨congrArg Simulation.output hlog, ?_⟩
    show (BatchHost.files (i.runSource source o.out).1.host).read _ = _
    rw [hdisk]
    exact Disk.read_of_writeBelow (Prod.ext rfl hdone)

/-- A script whose log command is at fault, because a directory has the name of the sink, and
whose log is exported all the same, to a directory that was not there. -/
theorem batch_reports_log_and_status_of_fault :
    let args := [utf8 "-c", utf8 "<send(1)><LOG>", utf8 "--out", utf8 "a/shown.txt"]
    let g : Given := { disk := Disk.put {} .directory [utf8 "log.txt"] }
    (runProgram args g).1.code = 1 ∧
      (runProgram args g).2.stdout.text =
        utf8 "Sent argument: 1\nOutput exported to a/shown.txt\n" ∧
      (runProgram args g).2.disk.read (utf8 "a/shown.txt") = .ok (utf8 "Sent argument: 1") := by
  intro args g
  let o : Options := { command := utf8 "<send(1)><LOG>", out := utf8 "a/shown.txt" }
  let journal : Journal := { threshold := .warn, format := .console, time := some [] }
  let i := Settings.interpreter {} [] journal .stderr g.disk
  let outcome := i.execute (utf8 "command") o.command
  have hcall : Call.ofArguments args g.terminal = .ok (.run o) := by rfl
  have hsettings : Settings.inEffect g.disk g.env o = .ok ({}, []) := by rfl
  have hjournal : Logging.openJournal {} g.time g.disk = .ok (journal, .stderr, g.disk) := by
    have hformat : Format.ofBytes (utf8 "console") = .console := by decide +kernel
    have hlevel : Level.named.find? (·.2.1 = foldCase (lowerCase (utf8 "warn"))) =
        some (.warn, utf8 "warn", utf8 "WRN") := by decide +kernel
    rw [Logging.openJournal_of_stderr hlevel (by decide +kernel), hformat]
  have hsource : Source.ofOptions o i.host.machine.disk g.stdin =
    .ok ⟨utf8 "command", o.command⟩ := by rfl
  have hfault : ¬ ∀ f ∈ outcome.2, f.command.kind ≠ .log := by decide +kernel
  have hlog : outcome.1.simulation.output = [utf8 "Sent argument: 1"] := by decide +kernel
  obtain ⟨-, -, hcode, hstdout, -, hexported⟩ :=
    batch_reports_log_and_status hcall rfl hsettings hjournal (by decide) hsource
  obtain ⟨hfinal, hread⟩ := hexported (by decide) (by decide +kernel)
  refine ⟨?_, ?_, ?_⟩
  · rw [hcode]
    exact if_neg fun h => hfault h.1
  · rw [hstdout, hfinal]
    show Bytes.lines (outcome.1.simulation.output ++ _) = _
    rw [hlog]
    decide
  · have hpath : Path.below (utf8 ".") (utf8 "a/shown.txt") = utf8 "a/shown.txt" := by decide
    rw [← hpath]
    refine hread.trans ?_
    show Except.ok (List.intercalate [newline] outcome.1.simulation.output) = _
    rw [hlog]
    rfl

end NodeScript
