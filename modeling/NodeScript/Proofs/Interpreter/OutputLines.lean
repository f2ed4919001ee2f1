/-
  Lines of the output log.

  Every text in the output log is one line: it is not empty and has no newline. To carry
  this through a run it has to be said of more than the log. The API and the name of the
  sink have no newline either, since they become parts of lines; and a line begins with a
  byte that is not white space, since trimming must leave something of it. All that an
  interpreter can be asked to do keeps this (`Lined.performAll`): fixed texts are so, and
  what a pattern captures has no newline, whatever the text of the command is.

  So an exported log can be read back: the file that an export leaves is empty if the log
  was, and otherwise cutting it at its newlines gives the lines of the log.
-/
import NodeScript.Proofs.Interpreter.Failures
import NodeScript.Proofs.Simulation.Records

namespace NodeScript

/-! ### Lines -/

/-- A text that is one line and does not begin with white space. -/
def IsLine (l : Bytes) : Prop := l.head?.any isSolid = true ∧ newline ∉ l

instance (l : Bytes) : Decidable (IsLine l) := inferInstanceAs (Decidable (_ ∧ _))

namespace IsLine

variable {l t : Bytes}

theorem ne_nil (h : IsLine l) : l ≠ [] := by
  rintro rfl
  exact Bool.false_ne_true h.1

theorem append (h : IsLine l) (ht : newline ∉ t) : IsLine (l ++ t) := by
  refine ⟨?_, ?_⟩
  · rw [List.head?_append_of_ne_nil l h.ne_nil]
    exact h.1
  · rw [List.mem_append, not_or]
    exact ⟨h.2, ht⟩

theorem trim (h : IsLine l) : IsLine (trim l) := by
  obtain ⟨hsolid, hline⟩ := h
  refine ⟨?_, fun hmem => hline ((isInfix_trim l).mem hmem)⟩
  cases hhead : l.head? with
  | none =>
    rw [hhead] at hsolid
    cases hsolid
  | some b =>
    rw [hhead] at hsolid
    rw [head?_trim hhead hsolid]
    exact hsolid

end IsLine

theorem isLine_of_mem_records {t : NodeTable} {l : Bytes} (h : l ∈ t.records) : IsLine l := by
  refine ⟨?_, NodeTable.newline_not_mem_records h⟩
  obtain ⟨e, -, rfl⟩ := List.mem_map.mp h
  rfl

/-! ### Simulations -/

/-- The lines of the output log are lines, and the API can be a part of one. -/
structure Simulation.Lined (s : Simulation) : Prop where
  api : newline ∉ s.api
  output : ∀ l ∈ s.output, IsLine l

namespace Simulation.Lined

variable {s : Simulation}

theorem new (id : Bytes) : Lined { id } := ⟨List.not_mem_nil, by simp⟩

theorem clear (h : s.Lined) : s.clear.Lined := ⟨h.api, by simp [Simulation.clear]⟩

theorem start (h : s.Lined) (n : Int) : (s.start n).Lined := ⟨h.api, h.output⟩

theorem stopAll (h : s.Lined) : s.stopAll.Lined := ⟨h.api, h.output⟩

theorem setApi (h : s.Lined) {api : Bytes} (hapi : newline ∉ api) : (s.setApi api).Lined :=
  ⟨hapi, h.output⟩

theorem appendAll (h : s.Lined) {ls : List Bytes} (hls : ∀ l ∈ ls, IsLine l) :
    (s.appendAll ls).Lined := by
  refine ⟨h.api, fun l hl => ?_⟩
  rcases List.mem_append.mp hl with hl | hl
  · exact h.output l hl
  · exact hls l hl

theorem append (h : s.Lined) {l : Bytes} (hl : IsLine l) : (s.append l).Lined := by
  refine h.appendAll fun l' hl' => ?_
  rwa [List.mem_singleton.mp hl']

theorem compress (h : s.Lined) : s.compress.Lined := by
  refine ⟨h.api, fun l hl => ?_⟩
  obtain ⟨line, hline, rfl⟩ := List.mem_map.mp hl
  exact (h.output line hline).trim

end Simulation.Lined

/-! ### Interpreters -/

/-- All that can become a part of a line has no newline. -/
structure Interpreter.Lined {σ : Type} (i : Interpreter σ) : Prop where
  sink : newline ∉ i.sink
  simulation : i.simulation.Lined

namespace Action

section

variable {σ : Type} {i : Interpreter σ}

theorem lined_start (h : i.Lined) (text : Bytes) : (start i text).1.Lined := by
  unfold start
  split
  · exact h
  · dsimp only
    split
    · refine ⟨h.sink, (h.simulation.start _).append ?_⟩
      have hnumber := Bytes.not_mem_ofNat (b := newline) (by decide)
      exact (IsLine.append (by decide) (hnumber _)).append (by decide)
    · exact h

theorem lined_stop (h : i.Lined) (text : Bytes) : (stop i text).1.Lined := by
  unfold stop
  split
  · exact ⟨h.sink, h.simulation.stopAll.append (by decide)⟩
  · exact h

theorem lined_stat (h : i.Lined) (text : Bytes) : (stat i text).1.Lined := by
  unfold stat
  split
  · refine ⟨h.sink, h.simulation.appendAll fun l hl => ?_⟩
    rcases List.mem_cons.mp hl with rfl | hl
    · decide
    · exact isLine_of_mem_records hl
  · exact ⟨h.sink, h.simulation.append (by decide)⟩

theorem lined_setApi (h : i.Lined) (text : Bytes) : (setApi i text).1.Lined := by
  unfold setApi
  split
  · exact h
  · next api hfind =>
    have hapi : newline ∉ api := Pattern.newline_not_mem_of_find? hfind
    refine ⟨h.sink, (h.simulation.setApi hapi).append ?_⟩
    exact (IsLine.append (by decide) hapi).append (by decide)

/-- Here the API that an earlier command set becomes a part of a line. -/
theorem lined_connect (h : i.Lined) (text : Bytes) : (connect i text).1.Lined := by
  refine ⟨h.sink, h.simulation.append ?_⟩
  split
  · decide
  · exact (IsLine.append (by decide) h.simulation.api).append (by decide)

theorem lined_send (h : i.Lined) (text : Bytes) : (send i text).1.Lined := by
  unfold send
  split
  · exact h
  · next argument hfind =>
    have hargument : newline ∉ argument := Pattern.newline_not_mem_of_find? hfind
    exact ⟨h.sink, h.simulation.append (IsLine.append (by decide) hargument)⟩

theorem lined_confirm {written : Interpreter σ × Option WriteFailure} (h : written.1.Lined)
    {line : Bytes} (hline : IsLine line) : (confirm written line).1.Lined := by
  obtain ⟨i, _ | failure⟩ := written
  · exact ⟨h.sink, h.simulation.append hline⟩
  · exact h

end

variable {σ : Type} [Host σ] {i : Interpreter σ}

theorem lined_log (h : i.Lined) (text : Bytes) : (log i text).1.Lined := by
  have hwrite : (i.write i.sink (Bytes.lines i.simulation.nodes.records)).1.Lined :=
    ⟨h.sink, h.simulation⟩
  refine lined_confirm hwrite ?_
  exact (IsLine.append (by decide) h.sink).append (by decide)

theorem lined_exportOutput (h : i.Lined) (text : Bytes) : (exportOutput i text).1.Lined := by
  unfold exportOutput
  split
  · exact h
  · next path hfind =>
    have hpath : newline ∉ path := Pattern.newline_not_mem_of_find? hfind
    have hsave : (i.save path).1.Lined := ⟨h.sink, h.simulation⟩
    refine lined_confirm hsave ?_
    exact (IsLine.append (by decide) hpath).append (by decide)

theorem lined_ofKind? {kind : Kind} {action : Action σ} (haction : ofKind? kind = some action)
    (h : i.Lined) (text : Bytes) : (action i text).1.Lined := by
  cases kind <;> cases haction
  case start => exact lined_start h text
  case stop => exact lined_stop h text
  case setApi => exact lined_setApi h text
  case connect => exact lined_connect h text
  case stat => exact lined_stat h text
  case log => exact lined_log h text
  case exportOutput => exact lined_exportOutput h text
  case compress => exact ⟨h.sink, h.simulation.compress.append (by decide)⟩
  case standalone => exact ⟨h.sink, h.simulation.append (by decide)⟩
  case send => exact lined_send h text

end Action

/-! ### Runs -/

namespace Interpreter

namespace Lined

section

variable {σ : Type} {i : Interpreter σ}

theorem new (host : σ) (id : Bytes) {sink : Bytes} (h : newline ∉ sink) :
    (Interpreter.new host id sink).Lined := by
  refine ⟨?_, .new id⟩
  show newline ∉ if sink.isEmpty then defaultSink else sink
  split
  · decide
  · exact h

/-- What an export writes tells the lines of the log. -/
theorem recalls (h : i.Lined) :
    Bytes.Recalls (Bytes.join [newline] i.simulation.output) i.simulation.output := by
  refine Bytes.recalls_join fun l hl => ?_
  have hline := h.simulation.output l hl
  exact ⟨hline.ne_nil, hline.2⟩

end

variable {σ : Type} [Host σ] {i : Interpreter σ}

theorem evaluate (h : i.Lined) (c : Command) : (i.evaluate c).1.Lined := by
  cases haction : Action.ofKind? (σ := σ) c.kind with
  | none =>
    rw [evaluate_of_none haction]
    exact ⟨h.sink, h.simulation⟩
  | some action =>
    have hannounce : (i.announce c).Lined := ⟨h.sink, h.simulation⟩
    have houtcome := Action.lined_ofKind? haction hannounce c.text
    rw [evaluate_of_some haction]
    revert houtcome
    generalize action (i.announce c) c.text = outcome
    intro houtcome
    -- What is reported in the end does not touch the simulation.
    obtain ⟨j, _ | _ | failure⟩ := outcome
    · exact houtcome
    · exact ⟨houtcome.sink, houtcome.simulation⟩
    · exact ⟨houtcome.sink, houtcome.simulation⟩

theorem evaluateAll (h : i.Lined) (cs : List Command) : (i.evaluateAll cs).1.Lined := by
  induction cs generalizing i with
  | nil => exact h
  | cons c cs ih => exact ih (h.evaluate c)

theorem exportOutput (h : i.Lined) {path : Bytes} (hpath : newline ∉ path) :
    (i.exportOutput path).1.Lined := by
  have hsave : (i.save path).1.Lined := ⟨h.sink, h.simulation⟩
  unfold Interpreter.exportOutput
  revert hsave
  generalize i.save path = written
  intro hsave
  obtain ⟨j, _ | failure⟩ := written
  · exact ⟨hsave.sink, hsave.simulation.append (IsLine.append (by decide) hpath)⟩
  · exact ⟨hsave.sink, hsave.simulation⟩

theorem perform (h : i.Lined) {deed : Deed}
    (hdeed : ∀ path, deed = .exportOutput path → newline ∉ path) : (i.perform deed).Lined := by
  cases deed with
  | evaluate c => exact h.evaluate c
  | execute label script => exact h.evaluateAll _
  | run script =>
    have hclear : (i.update Simulation.clear).Lined := ⟨h.sink, h.simulation.clear⟩
    exact hclear.evaluateAll _
  | exportOutput path => exact h.exportOutput (hdeed path rfl)
  | reset => exact ⟨h.sink, .new _⟩

theorem performAll (h : i.Lined) {deeds : List Deed}
    (hdeeds : ∀ path, .exportOutput path ∈ deeds → newline ∉ path) :
    (i.performAll deeds).Lined := by
  induction deeds generalizing i with
  | nil => exact h
  | cons deed deeds ih =>
    refine ih (h.perform fun path hpath => ?_) fun path hpath => ?_
    · exact hdeeds path (hpath ▸ List.mem_cons_self ..)
    · exact hdeeds path (List.mem_cons_of_mem _ hpath)

end Lined

/-! ### Exports -/

variable {σ : Type} [Host σ] {i j : Interpreter σ}

theorem host_write {name content : Bytes} (h : i.write name content = (j, none)) :
    Host.write i.host name content = (j.host, none) := by
  unfold write at h
  obtain ⟨hj, hrefusal⟩ := Prod.mk.inj h
  rw [← hj]
  exact Prod.ext rfl (Option.map_eq_none_iff.mp hrefusal)

/-- An export on behalf of the caller that succeeds is one write of the output log. -/
theorem host_write_exportOutput {path : Bytes} (h : (i.exportOutput path).2 = none) :
    Host.write i.host path (Bytes.join [newline] i.simulation.output) =
      ((i.exportOutput path).1.host, none) := by
  unfold exportOutput at h ⊢
  rcases hsave : i.save path with ⟨j, _ | failure⟩
  · have hwrite := host_write hsave
    exact hwrite
  · rw [hsave] at h
    cases h

/-- So is the export of a command that succeeds. -/
theorem host_write_evaluate {c : Command} (hkind : c.kind = .exportOutput)
    (h : i.ending c = .success) :
    ∃ path, Pattern.exportPath.find? c.text = some path ∧
      Host.write (i.announce c).host path (Bytes.join [newline] i.simulation.output) =
        ((i.evaluate c).1.host, none) := by
  have haction : Action.ofKind? (σ := σ) c.kind = some Action.exportOutput := by rw [hkind]; rfl
  rw [ending_of_some haction] at h
  rw [evaluate_of_some haction]
  unfold Action.exportOutput at h ⊢
  cases hfind : Pattern.exportPath.find? c.text with
  | none =>
    rw [hfind] at h
    cases h
  | some path =>
    rw [hfind] at h
    dsimp only at h ⊢
    rcases hsave : (i.announce c).save path with ⟨j, _ | failure⟩
    · have hwrite := host_write hsave
      exact ⟨path, rfl, hwrite⟩
    · rw [hsave] at h
      cases h

theorem read_of_host_write {b b' : Bench} {name content : Bytes}
    (h : Host.write b name content = (b', none)) : b'.files.read name = .ok content := by
  have hstore := FileHost.files_write b name content
  rw [h] at hstore
  exact read_of_store hstore.symm

end Interpreter

/-- **The output log is made of lines, and an export loses none of them.** Take a sink
whose name has no newline, and ask a new interpreter for anything, commands of any kind and
any text included, except for exports to names with newlines. Then every line of the output
log has something in it and no newline, and the API has no newline. An export that succeeds
now, on behalf of the caller or of a command, writes a content that tells the log: it is
empty if the log is, and otherwise cutting it at its newlines gives the lines of the log.
On a bench, that content is then in the file. -/
theorem exported_log_recalls_lines {sink : Bytes} {deeds : List Deed} (hsink : newline ∉ sink)
    (hpaths : ∀ path, .exportOutput path ∈ deeds → newline ∉ path) :
    (∀ (σ : Type) [Host σ] (host : σ) (id : Bytes),
      let i := (Interpreter.new host id sink).performAll deeds
      (∀ l ∈ i.simulation.output, l ≠ [] ∧ newline ∉ l) ∧
      newline ∉ i.simulation.api ∧
      ∃ content, Bytes.Recalls content i.simulation.output ∧
        (∀ path, (i.exportOutput path).2 = none →
          Host.write i.host path content = ((i.exportOutput path).1.host, none)) ∧
        ∀ c, c.kind = .exportOutput → i.ending c = .success →
          ∃ path, Pattern.exportPath.find? c.text = some path ∧
            Host.write (i.announce c).host path content = ((i.evaluate c).1.host, none)) ∧
    ∀ (bench : Bench) (id : Bytes),
      let i := (Interpreter.new bench id sink).performAll deeds
      (∀ path, (i.exportOutput path).2 = none →
        ∃ content, (i.exportOutput path).1.host.files.read path = .ok content ∧
          Bytes.Recalls content i.simulation.output) ∧
      ∀ c, c.kind = .exportOutput → i.ending c = .success →
        ∃ path content, Pattern.exportPath.find? c.text = some path ∧
          (i.evaluate c).1.host.files.read path = .ok content ∧
          Bytes.Recalls content i.simulation.output := by
  have hlined : ∀ (σ : Type) [Host σ] (host : σ) (id : Bytes),
      ((Interpreter.new host id sink).performAll deeds).Lined := by
    intro σ _ host id
    exact (Interpreter.Lined.new host id hsink).performAll hpaths
  refine ⟨fun σ _ host id => ?_, fun bench id => ?_⟩
  · intro i
    have hi : i.Lined := hlined σ host id
    refine ⟨fun l hl => ?_, hi.simulation.api, _, hi.recalls, fun path => ?_, fun c => ?_⟩
    · have hline := hi.simulation.output l hl
      exact ⟨hline.ne_nil, hline.2⟩
    · exact Interpreter.host_write_exportOutput
    · exact Interpreter.host_write_evaluate
  · intro i
    have hi : i.Lined := hlined Bench bench id
    refine ⟨fun path hsuccess => ?_, fun c hkind hsuccess => ?_⟩
    · have hwrite := Interpreter.host_write_exportOutput hsuccess
      exact ⟨_, Interpreter.read_of_host_write hwrite, hi.recalls⟩
    · obtain ⟨path, hfind, hwrite⟩ := Interpreter.host_write_evaluate hkind hsuccess
      exact ⟨path, _, hfind, Interpreter.read_of_host_write hwrite, hi.recalls⟩

/-- Lines with white space in them, a command over two lines, a log that is trimmed and
exported once already. -/
theorem exported_log_recalls_trimmed_lines :
    let place : Location := ⟨utf8 "script", 1, 1⟩
    let deeds : List Deed :=
      [.evaluate ⟨.setApi, utf8 "NodeAPI\n = \" v \"", place⟩,
        .evaluate ⟨.send, utf8 "send( )", place⟩, .evaluate ⟨.connect, [], place⟩,
        .evaluate ⟨.compress, [], place⟩, .exportOutput (utf8 "first.txt")]
    let i := (Interpreter.new ({} : Bench) [] (utf8 "log.txt")).performAll deeds
    let result := i.exportOutput (utf8 "second.txt")
    newline ∉ utf8 "log.txt" ∧ (∀ path, .exportOutput path ∈ deeds → newline ∉ path) ∧
      result.2 = none ∧
      ∃ content, result.1.host.files.read (utf8 "second.txt") = .ok content ∧
        Bytes.Recalls content i.simulation.output := by
  intro place deeds i result
  have hsink : newline ∉ utf8 "log.txt" := by decide
  have hpaths : ∀ path, .exportOutput path ∈ deeds → newline ∉ path := by
    intro path hpath
    obtain rfl : path = utf8 "first.txt" := by simpa [deeds] using hpath
    decide
  have hsuccess : result.2 = none := by rfl
  refine ⟨hsink, hpaths, hsuccess, ?_⟩
  exact ((exported_log_recalls_lines hsink hpaths).2 {} []).1 _ hsuccess

end NodeScript
