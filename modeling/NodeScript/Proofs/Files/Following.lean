/-
  Following paths on a disk that has changed.

  A position knows the trees that its names were looked up in. As long as these are the
  trees of the disk (`Position.Rests`), what is below the position is what stands at its
  place, and a path leads to the same place in every tree that has all the directories of
  the first (`Position.Rests.foldlM_enter`). A file is never written in the stead of a
  directory, so the path of a file leads to it again after it was written, and what was
  written is read there (`read_of_replace`).
-/
import Mathlib.Data.List.Basic
import NodeScript.Files.Disk

namespace NodeScript

/-- A computation that gives a result has done so in each of its steps. -/
theorem exists_of_bind_eq_ok {ε α β : Type} {x : Except ε α} {f : α → Except ε β} {b : β}
    (h : x >>= f = .ok b) : ∃ a, x = .ok a ∧ f a = .ok b := by
  cases x with
  | error e => cases h
  | ok a => exact ⟨a, rfl, h⟩

/-- Every directory of a tree is a directory in another tree, too. -/
def Tree.KeepsDirectories (t t' : Tree) : Prop :=
  ∀ place, t.get? place = some .directory → t'.get? place = some .directory

theorem Tree.keepsDirectories_put {t : Tree} {place : List Bytes}
    (h : t.get? place ≠ some .directory) (e : Entry) : t.KeepsDirectories (t.put e place) := by
  intro other hother
  have hne : other ≠ place := by
    rintro rfl
    exact h hother
  rw [get?_put_of_isSome t e hne (by rw [hother]; rfl), hother]

namespace Disk

/-! ### Positions -/

namespace Position

variable {t t' : Tree} {p p' q : Position} {name : Bytes}

/-- The names that lead to the position were looked up in the tree. -/
inductive Rests (t : Tree) : Position → Prop
  | top : Rests t { tree := t }
  | down {p q : Position} {name : Bytes} : Rests t p → p.down? name = some q → Rests t q

theorem down?_eq_some_iff :
    p.down? name = some q ↔
      p.tree.child? name = some q.tree ∧ q.way = (name, p.tree) :: p.way := by
  unfold down?
  rw [Option.map_eq_some_iff]
  constructor
  · rintro ⟨u, hu, rfl⟩
    exact ⟨hu, rfl⟩
  · rintro ⟨hu, hway⟩
    exact ⟨q.tree, hu, by rw [← hway]⟩

theorem place_of_down? (h : p.down? name = some q) : q.place = p.place ++ [name] := by
  obtain ⟨-, hway⟩ := down?_eq_some_iff.mp h
  rw [place, hway, List.map_cons, List.reverse_cons]
  rfl

theorem place_up (p : Position) : p.up.place = p.place.dropLast := by
  obtain ⟨u, _ | ⟨⟨name, v⟩, way⟩⟩ := p
  · rfl
  · simp [up, place]

theorem directory_eq_ok_iff : p.directory = .ok q ↔ p.tree.entry = .directory ∧ q = p := by
  unfold directory
  split
  · next hentry =>
    rw [Except.ok.injEq]
    exact ⟨fun h => ⟨hentry, h.symm⟩, fun h => h.2.symm⟩
  · next hentry => simp [hentry]

/-- All that a name can lead to. -/
theorem enter_cases (h : p.enter name = .ok q) :
    p.tree.entry = .directory ∧
      ((name = [period] ∧ q = p) ∨ (name ≠ [period] ∧ name = Path.parent ∧ q = p.up) ∨
        (name ≠ [period] ∧ name ≠ Path.parent ∧ name.length ≤ nameLimit ∧
          p.down? name = some q)) := by
  obtain ⟨p', hdirectory, hname⟩ := exists_of_bind_eq_ok h
  obtain ⟨hentry, rfl⟩ := directory_eq_ok_iff.mp hdirectory
  refine ⟨hentry, ?_⟩
  split at hname
  · next hdot => exact .inl ⟨hdot, (Except.ok.inj hname).symm⟩
  split at hname
  · next hdot hparent => exact .inr (.inl ⟨hdot, hparent, (Except.ok.inj hname).symm⟩)
  split at hname
  · cases hname
  next hdot hparent hlength =>
    split at hname
    · next r hdown =>
      obtain rfl := Except.ok.inj hname
      exact .inr (.inr ⟨hdot, hparent, Nat.le_of_not_lt hlength, hdown⟩)
    · cases hname

theorem enter_eq_of_directory (h : p.tree.entry = .directory) (name : Bytes) :
    p.enter name =
      if name = [period] then .ok p
      else if name = Path.parent then .ok p.up
      else if nameLimit < name.length then .error .tooLong
      else match p.down? name with
        | some q => .ok q
        | none => .error .missing := by
  simp only [enter, directory, h]
  rfl

namespace Rests

/-- What is below a position is what stands at its place. -/
theorem get?_place_append (h : Rests t p) (more : List Bytes) :
    t.get? (p.place ++ more) = p.tree.get? more := by
  induction h generalizing more with
  | top => rfl
  | down hp hdown ih =>
    obtain ⟨hchild, -⟩ := down?_eq_some_iff.mp hdown
    rw [place_of_down? hdown, List.append_assoc, ih, List.singleton_append, Tree.get?, hchild]

theorem get?_place (h : Rests t p) : t.get? p.place = some p.tree.entry := by
  have hget := h.get?_place_append []
  rwa [List.append_nil] at hget

theorem up (h : Rests t p) : Rests t p.up := by
  cases h with
  | top => exact .top
  | down hp hdown =>
    obtain ⟨-, hway⟩ := down?_eq_some_iff.mp hdown
    rw [Position.up, hway]
    exact hp

theorem get?_place_concat (h : Rests t p) (name : Bytes) :
    t.get? (p.place ++ [name]) = (p.tree.child? name).map Tree.entry := by
  rw [h.get?_place_append, Tree.get?]
  cases p.tree.child? name with
  | none => rfl
  | some u => rfl

/-- Where something stands under a name, the name leads to it. -/
theorem exists_down? (h : Rests t p) {e : Entry} (hget : t.get? (p.place ++ [name]) = some e) :
    ∃ q, p.down? name = some q ∧ Rests t q ∧ q.tree.entry = e := by
  rw [h.get?_place_concat, Option.map_eq_some_iff] at hget
  obtain ⟨u, hchild, hentry⟩ := hget
  have hdown : p.down? name = some ⟨u, (name, p.tree) :: p.way⟩ := by
    rw [down?, hchild]
    rfl
  exact ⟨_, hdown, .down h hdown, hentry⟩

theorem of_enter (hp : Rests t p) (h : p.enter name = .ok q) : Rests t q := by
  obtain ⟨-, ⟨-, rfl⟩ | ⟨-, -, rfl⟩ | ⟨-, -, -, hdown⟩⟩ := enter_cases h
  · exact hp
  · exact hp.up
  · exact .down hp hdown

theorem of_foldlM_enter {names : List Bytes} (hp : Rests t p)
    (h : names.foldlM Position.enter p = .ok q) : Rests t q := by
  induction names generalizing p with
  | nil =>
    obtain rfl := Except.ok.inj h
    exact hp
  | cons name names ih =>
    rw [List.foldlM_cons] at h
    obtain ⟨r, hr, hrest⟩ := exists_of_bind_eq_ok h
    exact ih (hp.of_enter hr) hrest

theorem entry_of_keepsDirectories (hdirs : t.KeepsDirectories t') (hp : Rests t p)
    (hp' : Rests t' p') (hplace : p'.place = p.place) (h : p.tree.entry = .directory) :
    p'.tree.entry = .directory := by
  have hget := hdirs p.place (by rw [hp.get?_place, h])
  rw [← hplace, hp'.get?_place] at hget
  exact Option.some.inj hget

/-- One name leads to the same place in every tree that has all the directories. -/
theorem enter (hdirs : t.KeepsDirectories t') (hp : Rests t p) (hp' : Rests t' p')
    (hplace : p'.place = p.place) (h : p.enter name = .ok q) (hq : q.tree.entry = .directory) :
    ∃ q', p'.enter name = .ok q' ∧ Rests t' q' ∧ q'.place = q.place := by
  have hrests := hp.of_enter h
  obtain ⟨hentry, hcases⟩ := enter_cases h
  rw [enter_eq_of_directory (hp.entry_of_keepsDirectories hdirs hp' hplace hentry)]
  rcases hcases with ⟨hdot, rfl⟩ | ⟨hdot, hparent, rfl⟩ | ⟨hdot, hparent, hlength, hdown⟩
  · rw [if_pos hdot]
    exact ⟨p', rfl, hp', hplace⟩
  · rw [if_neg hdot, if_pos hparent]
    exact ⟨p'.up, rfl, hp'.up, by rw [place_up, place_up, hplace]⟩
  · have hget := hdirs q.place (by rw [hrests.get?_place, hq])
    rw [place_of_down? hdown, ← hplace] at hget
    obtain ⟨q', hdown', hrests', -⟩ := hp'.exists_down? hget
    rw [if_neg hdot, if_neg hparent, if_neg (Nat.not_lt.mpr hlength), hdown']
    exact ⟨q', rfl, hrests', by rw [place_of_down? hdown', place_of_down? hdown, hplace]⟩

end Rests

/-- What leads to a directory starts at one. -/
theorem entry_of_foldlM_enter {names : List Bytes} (h : names.foldlM enter p = .ok q)
    (hq : q.tree.entry = .directory) : p.tree.entry = .directory := by
  cases names with
  | nil =>
    obtain rfl := Except.ok.inj h
    exact hq
  | cons name names =>
    rw [List.foldlM_cons] at h
    obtain ⟨r, hr, -⟩ := exists_of_bind_eq_ok h
    exact (enter_cases hr).1

/-- Names that lead to a directory lead to the same place in every tree that has all the
directories. -/
theorem Rests.foldlM_enter (hdirs : t.KeepsDirectories t') {names : List Bytes} (hp : Rests t p)
    (hp' : Rests t' p') (hplace : p'.place = p.place)
    (h : names.foldlM Position.enter p = .ok q) (hq : q.tree.entry = .directory) :
    ∃ q', names.foldlM Position.enter p' = .ok q' ∧ Rests t' q' ∧ q'.place = q.place := by
  induction names generalizing p p' with
  | nil =>
    obtain rfl := Except.ok.inj h
    exact ⟨p', rfl, hp', hplace⟩
  | cons name names ih =>
    rw [List.foldlM_cons] at h ⊢
    obtain ⟨r, hr, hrest⟩ := exists_of_bind_eq_ok h
    -- Whatever comes before the end of the way is a directory, too.
    have hentry := entry_of_foldlM_enter hrest hq
    obtain ⟨r', hr', hrests', hplace'⟩ := hp.enter hdirs hp' hplace hr hentry
    rw [hr']
    exact ih (hp.of_enter hr) hrests' hplace' hrest

end Position

/-! ### Paths -/

variable {d d' : Disk} {path content : Bytes}

theorem follow_eq (d : Disk) (rooted : Bool) (names : List Bytes) :
    d.follow rooted names =
      ((if rooted then [] else d.current) ++ names).foldlM Position.enter { tree := d.tree } := by
  rw [follow, List.foldlM_append]
  cases rooted <;> rfl

theorem lastStep_cases {p : Position} {last : Option Bytes}
    (h : d.lastStep path = .ok (p, last)) :
    ∃ r, Route.ofBytes path = .ok r ∧ d.follow r.rooted r.names.dropLast = .ok p ∧
      p.tree.entry = .directory ∧ last = r.names.getLast?.filter (!isDots ·) := by
  obtain ⟨r, hroute, hrest⟩ := exists_of_bind_eq_ok h
  obtain ⟨q, hfollow, hlast⟩ := exists_of_bind_eq_ok hrest
  obtain ⟨q', hdirectory, hpair⟩ := exists_of_bind_eq_ok hlast
  obtain ⟨hentry, rfl⟩ := Position.directory_eq_ok_iff.mp hdirectory
  obtain ⟨rfl, rfl⟩ := Prod.mk.inj (Except.ok.inj hpair)
  exact ⟨r, hroute, hfollow, hentry, rfl⟩

/-- All that is known of a path whose file can be written. -/
theorem fileToWrite_cases {place : List Bytes} {old : Bytes}
    (h : d.fileToWrite path = .ok (place, old)) :
    ∃ r p name, Route.ofBytes path = .ok r ∧ path.getLast? ≠ some Path.slash ∧
      r.names.getLast? = some name ∧ isDots name = false ∧ name.length ≤ nameLimit ∧
      d.follow r.rooted r.names.dropLast = .ok p ∧ p.tree.entry = .directory ∧
      place = p.place ++ [name] ∧ (p.tree.child? name).map Tree.entry ≠ some .directory := by
  obtain ⟨⟨p, last⟩, hstep, hwrite⟩ := exists_of_bind_eq_ok h
  obtain ⟨r, hroute, hfollow, hentry, rfl⟩ := lastStep_cases hstep
  cases hlast : r.names.getLast?.filter (!isDots ·) with
  | none =>
    rw [hlast] at hwrite
    cases hwrite
  | some name =>
    rw [hlast] at hwrite
    obtain ⟨hname, hdots⟩ := Option.filter_eq_some_iff.mp hlast
    dsimp only at hwrite
    split at hwrite
    · cases hwrite
    split at hwrite
    · cases hwrite
    next hslash hlength =>
      refine ⟨r, p, name, hroute, hslash, hname, by simpa using hdots,
        Nat.le_of_not_lt hlength, hfollow, hentry, ?_⟩
      split at hwrite
      · cases hwrite
      · next hchild =>
        rw [hchild]
        exact ⟨(Prod.mk.inj (Except.ok.inj hwrite)).1.symm, by simp⟩
      · next hchild =>
        rw [hchild]
        exact ⟨(Prod.mk.inj (Except.ok.inj hwrite)).1.symm, by simp⟩

theorem Route.slashed_of_ofBytes {r : Route} (h : Route.ofBytes path = .ok r) :
    r.slashed = decide (path.getLast? = some Path.slash) := by
  unfold Route.ofBytes at h
  split at h
  · cases h
  split at h
  · cases h
  split at h
  · cases h
  · rw [← Except.ok.inj h]

theorem find_eq_of_follow {r : Route} {q : Position} (hroute : Route.ofBytes path = .ok r)
    (hslash : path.getLast? ≠ some Path.slash) (h : d.follow r.rooted r.names = .ok q) :
    d.find path = .ok q := by
  have hslashed : r.slashed = false := by
    rw [Route.slashed_of_ofBytes hroute]
    exact decide_eq_false hslash
  unfold find
  rw [hroute]
  show (d.follow r.rooted r.names >>= fun p => if r.slashed then p.directory else pure p) = _
  rw [h]
  show (if r.slashed then q.directory else pure q) = _
  rw [hslashed]
  rfl

theorem read_eq_of_find {q : Position} (h : d.find path = .ok q) :
    d.read path = contentOf path q.tree.entry := by
  unfold read openToRead
  rw [h]
  rfl

/-- What was written at a path is read there. -/
theorem read_of_replace (h : d.replace path content = .ok d') : d'.read path = .ok content := by
  unfold replace update at h
  split at h
  · cases h
  next place old hfile =>
  split at h
  · cases h
  have hd' := Except.ok.inj h
  obtain ⟨r, p, name, hroute, hslash, hname, hdots, hlength, hfollow, hentry, hplace, hchild⟩ :=
    fileToWrite_cases hfile
  rw [follow_eq] at hfollow
  have hrests : Position.Rests d.tree p := Position.Rests.top.of_foldlM_enter hfollow
  have htree : d'.tree = d.tree.put (.file content) place := by rw [← hd']; rfl
  -- No directory has been replaced, so the same names lead to the same directory.
  have hdirs : d.tree.KeepsDirectories d'.tree := by
    rw [htree]
    apply Tree.keepsDirectories_put
    rwa [hplace, hrests.get?_place_concat]
  obtain ⟨p', hfollow', hrests', hplace'⟩ :=
    Position.Rests.top.foldlM_enter hdirs .top rfl hfollow hentry
  have hentry' := hrests.entry_of_keepsDirectories hdirs hrests' hplace' hentry
  have hget : d'.tree.get? (p'.place ++ [name]) = some (.file content) := by
    rw [hplace', ← hplace, htree, Tree.get?_put_self]
  obtain ⟨q, hdown, -, hcontent⟩ := hrests'.exists_down? hget
  have henter : p'.enter name = .ok q := by
    rw [isDots, Bool.or_eq_false_iff, beq_eq_false_iff_ne, beq_eq_false_iff_ne] at hdots
    rw [Position.enter_eq_of_directory hentry', if_neg hdots.1, if_neg hdots.2,
      if_neg (Nat.not_lt.mpr hlength), hdown]
  have hfollowed : d'.follow r.rooted r.names = .ok q := by
    have hcurrent : d'.current = d.current := by rw [← hd']; rfl
    rw [follow_eq, hcurrent, ← List.dropLast_append_getLast? name hname, ← List.append_assoc,
      List.foldlM_append, hfollow']
    show [name].foldlM Position.enter p' = _
    rw [List.foldlM_cons, henter]
    rfl
  rw [read_eq_of_find (find_eq_of_follow hroute hslash hfollowed), hcontent]
  rfl

/-- What was written below a directory is read there. -/
theorem read_of_writeBelow {dir name : Bytes} (h : d.writeBelow dir name content = (d', none)) :
    d'.read (Path.below dir name) = .ok content := by
  unfold writeBelow at h
  split at h
  · cases h
  dsimp only at h
  split at h
  · cases h
  split at h
  · next hreplace =>
    obtain ⟨rfl, -⟩ := Prod.mk.inj h
    exact read_of_replace hreplace
  · cases h

end Disk

end NodeScript
