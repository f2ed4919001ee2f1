/-
  Where the script of a run comes from.

  The items that are accepted have at most one value for each option, and at most one of them
  is a script. So a command that is given with a text is the script that is run, and a path
  that is given is the path of the script that is run; in both cases no lines are asked for,
  and standard input is left alone (`supplied_script_is_run`). What is empty, however, counts
  as not given even where it is given.
-/
import Mathlib.Data.List.Pairwise
import NodeScript.Invocation.Program
import NodeScript.Proofs.Invocation.Spelling

namespace NodeScript

/-! ### Items that fit -/

theorem eq_of_nodup_filterMap {α β : Type} {f : α → Option β} {l : List α} {a b : α} {c : β}
    (h : (l.filterMap f).Nodup) (ha : a ∈ l) (hb : b ∈ l) (hac : f a = some c)
    (hbc : f b = some c) : a = b := by
  let Same (a b : α) : Prop := f a = some c → f b = some c → a = b
  have hsame : l.Pairwise Same := by
    refine (List.pairwise_filterMap.mp h).imp fun hne hac hbc => ?_
    exact absurd rfl (hne c hac c hbc)
  have hsymm : Std.Symm Same := ⟨fun a b h hbc hac => (h hac hbc).symm⟩
  exact hsame.forall_of_forall (fun _ _ _ _ => rfl) ha hb hac hbc

namespace Options

variable {items : List Item} {name : OptionName} {v path : Bytes}

theorem fits_iff :
    fits items = true ↔ .stranger ∉ items ∧ (items.filterMap Item.name?).Nodup ∧
      (items.filterMap Item.positional?).length +
        (if isGiven items .command then 1 else 0) ≤ 1 := by
  simp only [fits, Bool.and_eq_true, Bool.not_eq_true', decide_eq_true_eq, and_assoc]
  rw [← Bool.not_eq_true, List.contains_iff_mem]

/-- The value that an option is given with is the only one. -/
theorem value_of_mem (h : fits items = true) (hv : .given name v ∈ items) :
    value items name = v := by
  obtain ⟨-, hnames, -⟩ := fits_iff.mp h
  refine value_eq (o := some v) fun w => ?_
  constructor
  · intro hw
    cases eq_of_nodup_filterMap hnames hv hw rfl rfl
    rfl
  · rintro ⟨rfl⟩
    exact hv

theorem value_of_forall_not_mem (h : ∀ v, .given name v ∉ items) : value items name = [] :=
  value_eq (o := none) fun v => ⟨fun hv => absurd hv (h v), nofun⟩

/-- Next to a command there is no script. -/
theorem positional_not_mem (h : fits items = true) (hv : .given .command v ∈ items) (path : Bytes) :
    .positional path ∉ items := by
  obtain ⟨-, -, hone⟩ := fits_iff.mp h
  intro hpath
  rw [if_pos (isGiven_iff.mpr ⟨v, hv⟩)] at hone
  have hmem : path ∈ items.filterMap Item.positional? := List.mem_filterMap.mpr ⟨_, hpath, rfl⟩
  have hpos := List.length_pos_of_mem hmem
  omega

/-- The path that is given is the only one. -/
theorem findSome?_positional (h : fits items = true) (hpath : .positional path ∈ items) :
    items.findSome? Item.positional? = some path := by
  obtain ⟨-, -, hone⟩ := fits_iff.mp h
  have hmem {p : Bytes} (hp : .positional p ∈ items) : p ∈ items.filterMap Item.positional? :=
    List.mem_filterMap.mpr ⟨_, hp, rfl⟩
  obtain ⟨p, hall⟩ := List.length_eq_one_iff.mp
    (Nat.le_antisymm (Nat.le_of_add_right_le hone) (List.length_pos_of_mem (hmem hpath)))
  -- A list with one member has no other.
  rw [hall] at hmem
  refine positional_eq fun q => ?_
  constructor
  · intro hq
    rw [List.mem_singleton.mp (hmem hpath), List.mem_singleton.mp (hmem hq)]
  · rintro ⟨rfl⟩
    exact hpath

theorem findSome?_positional_of_forall_not_mem (h : ∀ path, .positional path ∉ items) :
    items.findSome? Item.positional? = none :=
  positional_eq fun path => ⟨fun hpath => absurd hpath (h path), nofun⟩

/-! ### What the options say -/

/-- A command that is given is all there is to run. -/
theorem ofItems_of_command (h : fits items = true) (hv : .given .command v ∈ items)
    (terminal : Bool) :
    (ofItems items terminal).command = v ∧ (ofItems items terminal).script = [] := by
  refine ⟨value_of_mem h hv, ?_⟩
  show (items.findSome? Item.positional?).getD [] = []
  rw [findSome?_positional_of_forall_not_mem (positional_not_mem h hv)]
  rfl

/-- A script that is given is all there is to run. -/
theorem ofItems_of_positional (h : fits items = true) (hpath : .positional path ∈ items)
    (terminal : Bool) :
    (ofItems items terminal).command = [] ∧ (ofItems items terminal).script = path := by
  constructor
  · exact value_of_forall_not_mem fun v hv => positional_not_mem h hv path hpath
  · show (items.findSome? Item.positional?).getD [] = path
    rw [findSome?_positional h hpath]
    rfl

/-- An empty command counts as none, and so does an empty script. -/
theorem ofItems_of_empty (h : fits items = true)
    (hcommand : ∀ v, .given .command v ∈ items → v = [])
    (hscript : ∀ path, .positional path ∈ items → path = []) (terminal : Bool) :
    (ofItems items terminal).command = [] ∧ (ofItems items terminal).script = [] := by
  -- An empty command keeps scripts out as any other does.
  by_cases hgiven : ∃ v, .given .command v ∈ items
  · obtain ⟨v, hv⟩ := hgiven
    rw [← hcommand v hv]
    obtain ⟨hv', hnone⟩ := ofItems_of_command h hv terminal
    exact ⟨hv', hnone.trans (hcommand v hv).symm⟩
  · refine ⟨value_of_forall_not_mem fun v hv => hgiven ⟨v, hv⟩, ?_⟩
    by_cases hpositional : ∃ path, .positional path ∈ items
    · obtain ⟨path, hpath⟩ := hpositional
      rw [(ofItems_of_positional h hpath terminal).2, hscript path hpath]
    · show (items.findSome? Item.positional?).getD [] = []
      rw [findSome?_positional_of_forall_not_mem fun path hpath => hpositional ⟨path, hpath⟩]
      rfl

end Options

theorem Call.ofArguments_cases {args : List Bytes} {terminal : Bool} {o : Options}
    (h : Call.ofArguments args terminal = .ok (.run o)) :
    ∃ items, readItems programOptions args = .ok items ∧ Options.fits items = true ∧
      o = Options.ofItems items terminal := by
  unfold Call.ofArguments at h
  cases hread : readItems programOptions args with
  | error mistake =>
    rw [hread] at h
    cases h
  | ok items =>
    rw [hread] at h
    change (if _ then _ else _) = _ at h
    split at h
    · cases h
    split at h
    · cases h
    split at h
    · next hfits =>
      cases h
      exact ⟨items, rfl, hfits, rfl⟩
    · cases h

/-! ### Standard input -/

/-- Whether a run with these arguments does the same whatever standard input holds. -/
def LeavesInput (args : List Bytes) (terminal : Bool) : Prop :=
  ∀ (g : Given) (stdin : Except Refusal Bytes), g.terminal = terminal →
    runProgram args { g with stdin } = runProgram args g

theorem Run.options_of_prepare {args : List Bytes} {g : Given} {r : Run}
    (h : Run.prepare args g = .ok r) : Call.ofArguments args g.terminal = .ok (.run r.options) := by
  simp only [Run.prepare] at h
  split at h
  · cases h
  · cases h
  next o hcall =>
    split at h
    · cases h
    split at h
    · cases h
    · cases h
      exact hcall

theorem leavesInput_of_source {args : List Bytes} {terminal : Bool} {o : Options}
    (hcall : Call.ofArguments args terminal = .ok (.run o)) (hbatch : o.interactive = false)
    (hsource : ∀ d stdin stdin', Source.ofOptions o d stdin = Source.ofOptions o d stdin') :
    LeavesInput args terminal := by
  rintro g stdin rfl
  -- A run is set up before standard input is looked at.
  have hprepare : Run.prepare args { g with stdin } = Run.prepare args g := rfl
  unfold runProgram
  rw [hprepare]
  cases hr : Run.prepare args g with
  | error done => rfl
  | ok r =>
    have hoptions : r.options = o := by
      rw [Run.options_of_prepare hr] at hcall
      injection hcall with hcall
      injection hcall
    have hsame : r.carryOut stdin = r.carryOut g.stdin := by
      unfold Run.carryOut
      rw [hoptions, hbatch, hsource _ stdin g.stdin]
      rfl
    simp only [hsame]

/-! ### Scripts that are supplied -/

namespace Source

variable {o : Options} {v path : Bytes}

theorem ofOptions_of_command (h : o.command = v) (hv : v ≠ []) (d : Disk)
    (stdin : Except Refusal Bytes) : ofOptions o d stdin = .ok ⟨utf8 "command", v⟩ := by
  subst h
  exact if_pos (by simpa using hv)

theorem ofOptions_of_script (hcommand : o.command = []) (h : o.script = path) (hpath : path ≠ [])
    (d : Disk) (stdin : Except Refusal Bytes) :
    ofOptions o d stdin = (d.read path).map (Source.mk path) := by
  subst h
  unfold ofOptions
  rw [if_neg (by simp [hcommand]), if_pos (by simpa using hpath)]
  cases d.read o.script with
  | error why => rfl
  | ok text => rfl

theorem ofOptions_of_none (hcommand : o.command = []) (hscript : o.script = []) (d : Disk)
    (stdin : Except Refusal Bytes) :
    ofOptions o d stdin = stdin.map (Source.mk (utf8 "stdin")) := by
  unfold ofOptions
  rw [if_neg (by simp [hcommand]), if_neg (by simp [hscript])]
  cases stdin with
  | error why => rfl
  | ok text => rfl

end Source

/-- **A script that is supplied is what runs.** Arguments that are accepted for a run spell one
list of items. If these have a command with a text, no lines are asked for, the script is that
text, and standard input has no say in the run; if they have the path of a script, the same holds
with what is read from the path. A text or path that is empty counts as none: then the mode
depends on the terminal and the script is on standard input. -/
theorem supplied_script_is_run {args : List Bytes} {terminal : Bool} {o : Options}
    (hcall : Call.ofArguments args terminal = .ok (.run o)) :
    ∃ items, (∀ items', Spelling args items' ↔ items' = items) ∧
      (∀ v, .given .command v ∈ items → v ≠ [] →
        o.interactive = false ∧
        (∀ d stdin, Source.ofOptions o d stdin = .ok ⟨utf8 "command", v⟩) ∧
        LeavesInput args terminal) ∧
      (∀ path, .positional path ∈ items → path ≠ [] →
        o.interactive = false ∧
        (∀ d stdin, Source.ofOptions o d stdin = (d.read path).map (Source.mk path)) ∧
        LeavesInput args terminal) ∧
      ((∀ v, .given .command v ∈ items → v = []) → (∀ path, .positional path ∈ items → path = []) →
        o.interactive = ((terminal && !Options.isGiven items .stdin) !=
          Options.isGiven items .interactive) ∧
        ∀ d stdin, Source.ofOptions o d stdin = stdin.map (Source.mk (utf8 "stdin"))) := by
  obtain ⟨items, hread, hfits, rfl⟩ := Call.ofArguments_cases hcall
  obtain ⟨hstranger, -, -⟩ := Options.fits_iff.mp hfits
  have hmode : (Options.ofItems items terminal).interactive =
      ((Options.ofItems items terminal).command.isEmpty &&
        (Options.ofItems items terminal).script.isEmpty &&
        ((terminal && !Options.isGiven items .stdin) != Options.isGiven items .interactive)) := rfl
  refine ⟨items, fun items' => ?_, fun v hv hsome => ?_, fun path hpath hsome => ?_,
    fun hcommand hscript => ?_⟩
  · rw [← readItems_eq_ok_iff, hread, Except.ok.injEq]
    constructor
    · rintro ⟨rfl, -⟩
      rfl
    · rintro rfl
      exact ⟨rfl, hstranger⟩
  · obtain ⟨htext, -⟩ := Options.ofItems_of_command hfits hv terminal
    have hbatch : (Options.ofItems items terminal).interactive = false := by
      rw [hmode, htext]
      simp [hsome]
    have hsource := Source.ofOptions_of_command htext hsome
    exact ⟨hbatch, hsource,
      leavesInput_of_source hcall hbatch fun d _ _ => by rw [hsource, hsource]⟩
  · obtain ⟨hnone, hpath⟩ := Options.ofItems_of_positional hfits hpath terminal
    have hbatch : (Options.ofItems items terminal).interactive = false := by
      rw [hmode, hpath]
      simp [hsome]
    have hsource := Source.ofOptions_of_script hnone hpath hsome
    exact ⟨hbatch, hsource,
      leavesInput_of_source hcall hbatch fun d _ _ => by rw [hsource, hsource]⟩
  · obtain ⟨hnone, hnoScript⟩ := Options.ofItems_of_empty hfits hcommand hscript terminal
    refine ⟨?_, Source.ofOptions_of_none hnone hnoScript⟩
    rw [hmode, hnone, hnoScript]
    rfl

/-- A command behind the letters of other options, next to a setting that is cut short. -/
theorem supplied_script_is_run_of_letters :
    let args := [utf8 "-isc<LOG>", utf8 "--ou", utf8 "a.txt"]
    ∃ o, Call.ofArguments args true = .ok (.run o) ∧ o.interactive = false ∧
      Source.ofOptions o {} (.ok (utf8 "<stat>")) = .ok ⟨utf8 "command", utf8 "<LOG>"⟩ := by
  intro args
  let o : Options := { command := utf8 "<LOG>", out := utf8 "a.txt" }
  have hcall : Call.ofArguments args true = .ok (.run o) := by rfl
  have hread : readItems programOptions args =
    .ok [.given .interactive [], .given .stdin [], .given .command (utf8 "<LOG>"),
      .given .out (utf8 "a.txt")] := by rfl
  obtain ⟨items, hitems, hcommand, -, -⟩ := supplied_script_is_run hcall
  have hspelled := (hitems _).mp (readItems_eq_ok_iff.mp ⟨hread, by decide⟩)
  obtain ⟨hbatch, hsource, -⟩ := hcommand (utf8 "<LOG>") (by rw [← hspelled]; decide) (by decide)
  exact ⟨o, hcall, hbatch, hsource {} _⟩

/-- An empty command is given all the same, but on a terminal lines are asked for, and elsewhere
the script is read from standard input. -/
theorem empty_command_is_not_run :
    let args := [utf8 "-c", []]
    Spelling args [.given .command []] ∧
      Call.ofArguments args true = .ok (.run { interactive := true }) ∧
      Call.ofArguments args false = .ok (.run {}) ∧
      Source.ofOptions {} {} (.ok (utf8 "<LOG>")) = .ok ⟨utf8 "stdin", utf8 "<LOG>"⟩ := by
  intro args
  have hread : readItems programOptions args = .ok [.given .command []] := by rfl
  exact ⟨readItems_eq_ok_iff.mp ⟨hread, by decide⟩, by rfl, by rfl, by rfl⟩

end NodeScript
