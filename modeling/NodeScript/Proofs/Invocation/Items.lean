/-
  Arguments and the items they stand for.

  An argument is read by itself (`Reads`) if it is a long option in full with its value behind
  the `=`, whatever that value looks like; a letter of an option without a value; or anything
  that does not look like an option. Such arguments are read as their items one by one
  (`readItems_of_reads`). What the items ask for depends only on which items there are, not on
  their order: the value of an option is the one that it was given with (`value_eq`).
-/
import NodeScript.Invocation.Options
import NodeScript.Proofs.Text.Joining
import Mathlib.Data.List.Forall2

namespace NodeScript

/-- Whether an argument is read as an item, whatever arguments come behind it. -/
def Reads (arg : Bytes) (item : Item) : Prop :=
  ∀ args, readItems programOptions (arg :: args) =
    (readItems programOptions args).map (item :: ·)

/-! ### Arguments that are read by themselves -/

theorem candidates_long (name : OptionName) :
    LongOption.candidates programOptions name.long = [.known name] := by
  cases name <;> decide

theorem splitValue_long (name : OptionName) (v : Bytes) :
    splitValue (name.long ++ equalsSign :: v) = (name.long, some v) := by
  have hnot : equalsSign ∉ name.long := by cases name <;> decide
  -- The value may have more of them, but the name has none.
  have hcut : Bytes.cutAt? equalsSign (name.long ++ equalsSign :: v) = some (name.long, v) :=
    Bytes.cutAt?_eq_some_iff.mpr ⟨rfl, hnot⟩
  unfold splitValue
  rw [hcut]

/-- A long option in full, with its value behind the `=`. -/
theorem reads_long (name : OptionName) (hname : name.takesValue = true) (v : Bytes) :
    Reads (name.long ++ equalsSign :: v) (.given name v) := by
  intro args
  have hnot : name.long ++ equalsSign :: v ≠ terminator := by
    intro h
    have hmem : equalsSign ∈ terminator := by rw [← h]; simp
    exact absurd hmem (by decide)
  have hlong : terminator.isPrefixOf (name.long ++ equalsSign :: v) = true := by
    have hbegins : terminator <+: name.long := by cases name <;> decide
    exact List.isPrefixOf_iff_prefix.mpr (hbegins.trans (List.prefix_append ..))
  have hknown : (LongOption.known name).takesValue = true := hname
  rw [readItems, if_neg hnot, if_pos hlong, splitValue_long]
  dsimp only
  rw [candidates_long]
  dsimp only
  rw [hknown]
  cases readItems programOptions args with
  | error mistake => rfl
  | ok items => rfl

/-- The letter of an option without a value. -/
theorem reads_letter (name : OptionName) {b : UInt8} (hname : name.takesValue = false)
    (hletter : OptionName.ofShort? b = some name) (hb : b ≠ hyphen) :
    Reads [hyphen, b] (.given name []) := by
  intro args
  have hnot : [hyphen, b] ≠ terminator := by
    intro h
    exact hb (List.cons.inj (List.cons.inj h).2).1
  have hshort : ¬ terminator.isPrefixOf [hyphen, b] = true := by
    intro h
    exact hnot ((List.isPrefixOf_iff_prefix.mp h).eq_of_length rfl).symm
  have hletters : List.dropWhile (· == hyphen) [hyphen, b] = [b] := by
    simp [hb]
  rw [readItems, if_neg hnot, if_neg hshort, if_pos ⟨rfl, by simp⟩, hletters, readShorts, hletter]
  simp only [hname, readShorts]
  cases readItems programOptions args with
  | error mistake => rfl
  | ok items => rfl

/-- An argument that does not look like an option. -/
theorem reads_positional {text : Bytes} (h : text = [hyphen] ∨ text.head? ≠ some hyphen) :
    Reads text (.positional text) := by
  intro args
  have hlong : ¬ terminator.isPrefixOf text = true := by
    intro hbegins
    obtain ⟨rest, rfl⟩ := List.isPrefixOf_iff_prefix.mp hbegins
    rcases h with h | h
    · cases h
    · exact h rfl
  have hnot : text ≠ terminator := by
    rintro rfl
    exact hlong rfl
  have hshort : ¬ (text.head? = some hyphen ∧ text ≠ [hyphen]) := by
    rintro ⟨hhead, hne⟩
    exact h.elim hne fun hnot => hnot hhead
  rw [readItems, if_neg hnot, if_neg hlong, if_neg hshort]
  cases readItems programOptions args with
  | error mistake => rfl
  | ok items => rfl

theorem readItems_of_reads {args : List Bytes} {items : List Item}
    (h : List.Forall₂ Reads args items) : readItems programOptions args = .ok items := by
  induction h with
  | nil => rfl
  | cons hread _ ih =>
    rw [hread, ih]
    rfl

/-! ### What items ask for -/

/-- The first answer is the only one there is. -/
theorem findSome?_eq_of_iff {α β : Type} {f : α → Option β} {l : List α} {o : Option β}
    (h : ∀ b, (∃ a ∈ l, f a = some b) ↔ o = some b) : l.findSome? f = o := by
  cases hfind : l.findSome? f with
  | none =>
    cases o with
    | none => rfl
    | some b =>
      obtain ⟨a, ha, hab⟩ := (h b).mpr rfl
      rw [List.findSome?_eq_none_iff.mp hfind a ha] at hab
      cases hab
  | some b =>
    have hexists := List.exists_of_findSome?_eq_some hfind
    exact ((h b).mp hexists).symm

namespace Options

variable {items : List Item} {name : OptionName} {o : Option Bytes}

theorem value_eq (h : ∀ v, .given name v ∈ items ↔ o = some v) : value items name = o.getD [] := by
  unfold value
  rw [findSome?_eq_of_iff]
  intro v
  rw [← h]
  constructor
  · rintro ⟨item, hitem, hvalue⟩
    cases item with
    | given n w =>
      by_cases hn : n = name
      · subst hn
        simp only [if_true, Option.some.injEq] at hvalue
        rwa [← hvalue]
      · simp [hn] at hvalue
    | stranger => cases hvalue
    | positional text => cases hvalue
  · intro hmem
    exact ⟨_, hmem, if_pos rfl⟩

theorem isGiven_iff : isGiven items name = true ↔ ∃ v, .given name v ∈ items := by
  rw [isGiven, List.any_eq_true]
  constructor
  · rintro ⟨item, hitem, hname⟩
    cases item with
    | given n v =>
      obtain rfl : n = name := by simpa [Item.name?] using hname
      exact ⟨v, hitem⟩
    | stranger => cases hname
    | positional text => cases hname
  · rintro ⟨v, hv⟩
    exact ⟨_, hv, by simp [Item.name?]⟩

theorem isGiven_eq (h : ∀ v, .given name v ∈ items ↔ o = some v) :
    isGiven items name = o.isSome := by
  rw [Bool.eq_iff_iff, isGiven_iff, Option.isSome_iff_exists]
  exact exists_congr h

theorem positional_eq (h : ∀ t, .positional t ∈ items ↔ o = some t) :
    items.findSome? Item.positional? = o := by
  apply findSome?_eq_of_iff
  intro t
  rw [← h]
  constructor
  · rintro ⟨item, hitem, htext⟩
    cases item with
    | given n v => cases htext
    | stranger => cases htext
    | positional text =>
      obtain rfl : text = t := Option.some.inj htext
      exact hitem
  · intro hmem
    exact ⟨_, hmem, rfl⟩

/-- Whether items fit does not depend on their order. -/
theorem fits_of_perm {items' : List Item} (h : items'.Perm items) : fits items' = fits items := by
  have hstranger : items'.contains .stranger = items.contains .stranger := by
    rw [Bool.eq_iff_iff, List.contains_iff_mem, List.contains_iff_mem, h.mem_iff]
  have hnames : (items'.filterMap Item.name?).Nodup ↔ (items.filterMap Item.name?).Nodup :=
    (h.filterMap _).nodup_iff
  have hpositionals :
      (items'.filterMap Item.positional?).length = (items.filterMap Item.positional?).length :=
    (h.filterMap _).length_eq
  have hcommand : isGiven items' .command = isGiven items .command := by
    rw [Bool.eq_iff_iff, isGiven, isGiven, List.any_eq_true, List.any_eq_true]
    simp only [h.mem_iff]
  unfold fits
  simp only [hstranger, hnames, hpositionals, hcommand]

end Options

end NodeScript
