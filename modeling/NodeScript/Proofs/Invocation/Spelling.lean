/-
  The spellings of options.

  An option can be given in full or cut short, with its value behind an `=` or as an argument
  of its own, or by its letter, alone or behind the letters of options without a value
  (`Stands`). A command line is a row of such spellings and of other arguments, and may end in
  arguments that all are positional (`Spelling`). This is a description of command lines apart
  from how they are read. Main statement: the arguments that are read as items, none of which
  is a stranger, are exactly those that spell them (`readItems_eq_ok_iff`).
-/
import NodeScript.Proofs.Invocation.Items

namespace NodeScript

/-! ### Long options -/

/-- Whether a text stands for an option: it is the beginning of the option's long form, and of
no other. -/
def Abbreviates (text : Bytes) (name : OptionName) : Prop :=
  ∀ n : OptionName, text <+: n.long ↔ n = name

theorem long_prefix_iff (n m : OptionName) : n.long <+: m.long ↔ n = m := by
  cases n <;> cases m <;> decide

theorem filter_programOptions_eq_iff {p : LongOption → Bool} {name : OptionName} :
    programOptions.filter p = [.known name] ↔ ∀ n, p (.known n) = true ↔ n = name := by
  constructor
  · intro h n
    have hmem : LongOption.known n ∈ programOptions.filter p ↔ n = name := by rw [h]; simp
    have hall : LongOption.known n ∈ programOptions := by cases n <;> decide
    rwa [List.mem_filter, and_iff_right hall] at hmem
  · intro h
    have hone : programOptions.filter (· = .known name) = [.known name] := by
      cases name <;> decide
    rw [← hone]
    apply List.filter_congr
    intro o ho
    obtain ⟨n, -, rfl⟩ := List.mem_map.mp ho
    rw [Bool.eq_iff_iff, h, decide_eq_true_eq, LongOption.known.injEq]

/-- A text in full is a special case, since no long form is the beginning of another. -/
theorem candidates_eq_singleton_iff {text : Bytes} {name : OptionName} :
    LongOption.candidates programOptions text = [.known name] ↔ Abbreviates text name := by
  unfold LongOption.candidates
  split
  · rw [filter_programOptions_eq_iff]
    exact forall_congr' fun n => by rw [List.isPrefixOf_iff_prefix]; rfl
  -- Where the text is a long form in full, being that form and beginning it are the same.
  · next hspelled =>
    obtain ⟨o, ho⟩ := List.exists_mem_of_ne_nil _ hspelled
    obtain ⟨hmem, hlong⟩ := List.mem_filter.mp ho
    obtain ⟨m, -, rfl⟩ := List.mem_map.mp hmem
    have htext : m.long = text := beq_iff_eq.mp hlong
    rw [filter_programOptions_eq_iff, ← htext]
    have hsame (n : OptionName) :
        (LongOption.known n).long == m.long ↔ m.long <+: n.long := by
      rw [long_prefix_iff, beq_iff_eq]
      constructor
      · intro h
        exact (long_prefix_iff m n).mp (h ▸ List.prefix_rfl)
      · rintro rfl
        rfl
    exact forall_congr' fun n => by rw [hsame]

namespace Abbreviates

variable {text : Bytes} {name : OptionName}

/-- A text that stands for one option has more in it than the two dashes. -/
theorem terminator_prefix (h : Abbreviates text name) :
    terminator <+: text ∧ text ≠ terminator := by
  have hlong (n : OptionName) : terminator <+: n.long := by cases n <;> decide
  -- Two dashes or less begin all long forms alike.
  have hmore : ¬ text <+: terminator := by
    intro hless
    have hcommand := (h .command).mp (hless.trans (hlong _))
    have hdir := (h .dir).mp (hless.trans (hlong _))
    exact absurd (hcommand.trans hdir.symm) (by decide)
  have htext : text <+: name.long := (h name).mpr rfl
  refine ⟨(List.prefix_or_prefix_of_prefix htext (hlong name)).resolve_left hmore, ?_⟩
  rintro rfl
  exact hmore List.prefix_rfl

theorem equals_not_mem (h : Abbreviates text name) : equalsSign ∉ text := by
  have hnot : equalsSign ∉ name.long := by cases name <;> decide
  exact fun hmem => hnot (((h name).mpr rfl).subset hmem)

end Abbreviates

theorem splitValue_eq_some_iff {arg text v : Bytes} :
    splitValue arg = (text, some v) ↔ arg = text ++ equalsSign :: v ∧ equalsSign ∉ text := by
  rw [← Bytes.cutAt?_eq_some_iff, splitValue]
  cases Bytes.cutAt? equalsSign arg with
  | none => simp
  | some parts => simp [Prod.ext_iff]

theorem splitValue_eq_none {arg text : Bytes} (h : splitValue arg = (text, none)) :
    arg = text := by
  unfold splitValue at h
  split at h
  · cases h
  · exact (Prod.mk.inj h).1

theorem splitValue_prefix {arg text : Bytes} {value? : Option Bytes}
    (h : splitValue arg = (text, value?)) : text <+: arg := by
  cases value? with
  | some v =>
    obtain ⟨rfl, -⟩ := splitValue_eq_some_iff.mp h
    exact List.prefix_append ..
  | none =>
    obtain rfl := splitValue_eq_none h
    exact List.prefix_rfl

/-- A text that stands for an option has no value in it. -/
theorem Abbreviates.splitValue_eq {text : Bytes} {name : OptionName} (h : Abbreviates text name) :
    splitValue text = (text, none) := by
  cases hcut : Bytes.cutAt? equalsSign text with
  | none => rw [splitValue, hcut]
  | some parts =>
    obtain ⟨htext, -⟩ := Bytes.cutAt?_eq_some_iff.mp hcut
    have hmem : equalsSign ∈ text := by rw [htext]; simp
    exact absurd hmem h.equals_not_mem

/-! ### Spellings -/

/-- The letters of options, one after another. -/
def letters (names : List OptionName) : Bytes := names.filterMap OptionName.short?

/-- The items of options without a value. -/
def flags (names : List OptionName) : List Item := names.map (.given · [])

/-- Whether one argument, or two that belong together, stand for items, wherever they occur. -/
inductive Stands : List Bytes → List Item → Prop
  /-- The long form of an option without a value. -/
  | long {text : Bytes} {name : OptionName} (htext : Abbreviates text name)
      (hname : name.takesValue = false) : Stands [text] [.given name []]
  /-- The long form of an option, and its value behind an `=`. -/
  | longJoined {text : Bytes} {name : OptionName} (htext : Abbreviates text name)
      (hname : name.takesValue = true) (v : Bytes) :
      Stands [text ++ equalsSign :: v] [.given name v]
  /-- The long form of an option, and its value as the next argument. -/
  | longApart {text v : Bytes} {name : OptionName} (htext : Abbreviates text name)
      (hname : name.takesValue = true) (hv : v ≠ terminator) : Stands [text, v] [.given name v]
  /-- The letters of options without a value. -/
  | short {names : List OptionName} (hnames : ∀ n ∈ names, n.takesValue = false)
      (hsome : names ≠ []) : Stands [hyphen :: letters names] (flags names)
  /-- The letter of an option and its value, behind the letters of options without one. -/
  | shortJoined {names : List OptionName} {name : OptionName} {b : UInt8} {v : Bytes}
      (hnames : ∀ n ∈ names, n.takesValue = false) (hname : name.takesValue = true)
      (hletter : name.short? = some b) (hv : v ≠ []) :
      Stands [hyphen :: (letters names ++ b :: v)] (flags names ++ [.given name v])
  /-- The letter of an option behind the letters of options without a value, and its value as
  the next argument. -/
  | shortApart {names : List OptionName} {name : OptionName} {b : UInt8} {v : Bytes}
      (hnames : ∀ n ∈ names, n.takesValue = false) (hname : name.takesValue = true)
      (hletter : name.short? = some b) (hv : v ≠ terminator) :
      Stands [hyphen :: (letters names ++ [b]), v] (flags names ++ [.given name v])
  /-- An argument that does not look like an option. -/
  | positional {text : Bytes} (htext : text = [hyphen] ∨ text.head? ≠ some hyphen) :
      Stands [text] [.positional text]

/-- Whether arguments spell items. Two dashes make all arguments from there on positional. -/
inductive Spelling : List Bytes → List Item → Prop
  | nil : Spelling [] []
  | terminated (args : List Bytes) :
      Spelling (terminator :: args) ((terminator :: args).map .positional)
  | append {front args : List Bytes} {items items' : List Item} (hfront : Stands front items)
      (hargs : Spelling args items') : Spelling (front ++ args) (items ++ items')

/-! ### What is spelled is read -/

theorem ofShort?_eq_some_iff {b : UInt8} {name : OptionName} :
    OptionName.ofShort? b = some name ↔ name.short? = some b := by
  constructor
  · intro h
    simpa using List.find?_some h
  · intro h
    cases name <;> cases h <;> rfl

/-- Every option without a value has a letter. -/
theorem letters_cons {n : OptionName} (hn : n.takesValue = false) (names : List OptionName) :
    ∃ b, n.short? = some b ∧ letters (n :: names) = b :: letters names := by
  obtain ⟨b, hb⟩ : ∃ b, n.short? = some b := by
    cases n <;> first | exact ⟨_, rfl⟩ | cases hn
  exact ⟨b, hb, List.filterMap_cons_some hb⟩

theorem readShorts_letters {names : List OptionName} (hnames : ∀ n ∈ names, n.takesValue = false)
    (left : Bytes) :
    readShorts (letters names ++ left) =
      (flags names ++ (readShorts left).1, (readShorts left).2) := by
  induction names with
  | nil => rfl
  | cons n names ih =>
    rw [List.forall_mem_cons] at hnames
    obtain ⟨hn, hnames⟩ := hnames
    obtain ⟨b, hb, hcons⟩ := letters_cons hn names
    rw [hcons, List.cons_append, readShorts, ofShort?_eq_some_iff.mpr hb]
    simp only [hn, Bool.false_eq_true, if_false, ih hnames]
    rfl

theorem short?_ne_dash (name : OptionName) : name.short? ≠ some hyphen := by
  cases name <;> decide

theorem head?_letters_append (names : List OptionName) (left : Bytes)
    (hleft : left.head? ≠ some hyphen) : (letters names ++ left).head? ≠ some hyphen := by
  cases hletters : letters names with
  | nil => exact hleft
  | cons b ls =>
    intro hhead
    have hmem : b ∈ letters names := by rw [hletters]; exact List.mem_cons_self ..
    obtain ⟨name, -, hname⟩ := List.mem_filterMap.mp hmem
    exact short?_ne_dash name (hname.trans hhead)

theorem readItems_short (options : List LongOption) {ls : Bytes} (hsome : ls ≠ [])
    (hhead : ls.head? ≠ some hyphen) (args : List Bytes) :
    readItems options ((hyphen :: ls) :: args) =
      match readShorts ls with
      | (items, none) => do return items ++ (← readItems options args)
      | (items, some (name, letter)) =>
        match args with
        | [] => .error (.lacking [hyphen, letter])
        | value :: args =>
          if value = terminator then .error (.lacking [hyphen, letter])
          else do return items ++ .given name value :: (← readItems options args) := by
  obtain ⟨b, ls, rfl⟩ := List.exists_cons_of_ne_nil hsome
  have hb : b ≠ hyphen := by simpa using hhead
  have hlong : ¬ terminator.isPrefixOf (hyphen :: b :: ls) = true := by
    simp [terminator, Ne.symm hb]
  have hnot : hyphen :: b :: ls ≠ terminator := by
    intro h
    rw [h] at hlong
    exact hlong rfl
  have hletters : (hyphen :: b :: ls).dropWhile (· == hyphen) = b :: ls := by
    simp [hb]
  rw [readItems, if_neg hnot, if_neg hlong, if_pos ⟨rfl, by simp⟩, hletters]
  obtain ⟨items, _ | ⟨name, letter⟩⟩ := readShorts (b :: ls)
  · rfl
  · rfl

theorem readItems_long {arg text : Bytes} {value? : Option Bytes} {name : OptionName}
    (htext : Abbreviates text name) (args : List Bytes) : splitValue arg = (text, value?) →
    readItems programOptions (arg :: args) =
      match name.takesValue, value? with
      | false, some _ => .error (.needless name.long)
      | false, none => do return .given name [] :: (← readItems programOptions args)
      | true, some value => do return .given name value :: (← readItems programOptions args)
      | true, none =>
        match args with
        | [] => .error (.lacking name.long)
        | value :: args =>
          if value = terminator then .error (.lacking name.long)
          else do return .given name value :: (← readItems programOptions args) := by
  intro hsplit
  obtain ⟨hdashes, hmore⟩ := htext.terminator_prefix
  have harg : text <+: arg := splitValue_prefix hsplit
  have hnot : arg ≠ terminator := by
    rintro rfl
    exact hmore (harg.eq_of_length_le hdashes.length_le)
  have hlong : terminator.isPrefixOf arg = true :=
    List.isPrefixOf_iff_prefix.mpr (hdashes.trans harg)
  rw [readItems, if_neg hnot, if_pos hlong, hsplit]
  dsimp only
  rw [candidates_eq_singleton_iff.mpr htext]
  cases hname : name.takesValue <;> cases value? <;> simp only [LongOption.takesValue, hname]
  · rfl
  · rfl
  · rfl
  · rfl

/-- What stands for items is read as these, whatever arguments come behind. -/
theorem Stands.readItems_append {front : List Bytes} {items : List Item} (h : Stands front items)
    (args : List Bytes) :
    readItems programOptions (front ++ args) =
      (readItems programOptions args).map (items ++ ·) := by
  have hdo (its : List Item) :
      (do return its ++ (← readItems programOptions args)) =
        (readItems programOptions args).map (its ++ ·) := by
    cases readItems programOptions args with
    | error mistake => rfl
    | ok items => rfl
  cases h with
  | @long text name htext hname =>
    rw [List.singleton_append, readItems_long htext args htext.splitValue_eq, hname]
    exact hdo [.given name []]
  | @longJoined text name htext hname v =>
    have hsplit : splitValue (text ++ equalsSign :: v) = (text, some v) :=
      splitValue_eq_some_iff.mpr ⟨rfl, htext.equals_not_mem⟩
    rw [List.singleton_append, readItems_long htext args hsplit, hname]
    exact hdo [.given name v]
  | @longApart text v name htext hname hv =>
    rw [List.cons_append, List.singleton_append,
      readItems_long htext (v :: args) htext.splitValue_eq, hname]
    dsimp only
    rw [if_neg hv]
    exact hdo [.given name v]
  | @short names hnames hsome =>
    have hread : readShorts (letters names) = (flags names, none) := by
      rw [← List.append_nil (letters names), readShorts_letters hnames, readShorts,
        List.append_nil]
    have hhead : (letters names).head? ≠ some hyphen := by
      rw [← List.append_nil (letters names)]
      exact head?_letters_append names [] (by simp)
    have hletters : letters names ≠ [] := by
      obtain ⟨n, names, rfl⟩ := List.exists_cons_of_ne_nil hsome
      obtain ⟨b, -, hcons⟩ := letters_cons (hnames n (List.mem_cons_self ..)) names
      simp [hcons]
    rw [List.singleton_append, readItems_short _ hletters hhead, hread]
    exact hdo (flags names)
  | @shortJoined names name b v hnames hname hletter hv =>
    have hhead := head?_letters_append names (b :: v)
      fun hhead => short?_ne_dash name (hletter.trans hhead)
    have hread : readShorts (b :: v) = ([.given name v], none) := by
      rw [readShorts, ofShort?_eq_some_iff.mpr hletter]
      simp [hname, hv]
    rw [List.singleton_append, readItems_short _ (by simp) hhead, readShorts_letters hnames, hread]
    exact hdo (flags names ++ [.given name v])
  | @shortApart names name b v hnames hname hletter hv =>
    have hhead := head?_letters_append names [b]
      fun hhead => short?_ne_dash name (hletter.trans hhead)
    have hread : readShorts [b] = ([], some (name, b)) := by
      rw [readShorts, ofShort?_eq_some_iff.mpr hletter]
      simp [hname]
    rw [List.cons_append, List.singleton_append, readItems_short _ (by simp) hhead,
      readShorts_letters hnames, hread]
    dsimp only
    rw [if_neg hv, ← hdo, List.append_nil]
    simp only [List.append_assoc, List.singleton_append]
  | @positional text htext =>
    rw [List.singleton_append, reads_positional htext]
    rfl

/-! ### What is read is spelled -/

theorem exists_of_return {ε α β : Type} {r : Except ε α} {f : α → β} {b : β}
    (h : (do return f (← r)) = Except.ok b) : ∃ a, r = .ok a ∧ b = f a := by
  cases r with
  | error e => cases h
  | ok a => exact ⟨a, rfl, (Except.ok.inj h).symm⟩

theorem mem_of_mem_candidates {options : List LongOption} {text : Bytes} {o : LongOption}
    (h : o ∈ LongOption.candidates options text) : o ∈ options := by
  unfold LongOption.candidates at h
  split at h
  · exact List.mem_of_mem_filter h
  · exact List.mem_of_mem_filter h

/-- Letters are those of options without a value, and behind them there may be one that takes
the rest. -/
theorem readShorts_cases {ls : Bytes} (h : .stranger ∉ (readShorts ls).1) :
    ∃ names : List OptionName, (∀ n ∈ names, n.takesValue = false) ∧
      ((ls = letters names ∧ readShorts ls = (flags names, none)) ∨
        ∃ name b v, name.takesValue = true ∧ name.short? = some b ∧
          ls = letters names ++ b :: v ∧
          readShorts ls =
            if v = [] then (flags names, some (name, b))
            else (flags names ++ [.given name v], none)) := by
  induction ls with
  | nil => exact ⟨[], by simp, .inl ⟨rfl, rfl⟩⟩
  | cons b left ih =>
    rw [readShorts] at h ⊢
    cases hletter : OptionName.ofShort? b with
    | none =>
      rw [hletter] at h
      exact absurd (List.mem_cons_self ..) h
    | some name =>
      rw [hletter] at h
      have hshort := ofShort?_eq_some_iff.mp hletter
      cases hname : name.takesValue with
      -- The first option that takes a value takes all that is left.
      | true =>
        refine ⟨[], by simp, .inr ⟨name, b, left, hname, hshort, rfl, ?_⟩⟩
        simp [hname, flags]
      | false =>
        simp only [hname, Bool.false_eq_true, if_false] at h ⊢
        obtain ⟨names, hnames, hcases⟩ := ih fun hmem => h (List.mem_cons_of_mem _ hmem)
        obtain ⟨b', hshort', hcons⟩ := letters_cons hname names
        obtain rfl : b' = b := Option.some.inj (hshort'.symm.trans hshort)
        refine ⟨name :: names, List.forall_mem_cons.mpr ⟨hname, hnames⟩, ?_⟩
        rcases hcases with ⟨hls, hread⟩ | ⟨last, c, v, hlast, hc, hls, hread⟩
        · refine .inl ⟨by rw [hcons, hls], ?_⟩
          rw [hread]
          rfl
        · refine .inr ⟨last, c, v, hlast, hc, by rw [hcons, hls]; rfl, ?_⟩
          rw [hread]
          by_cases hv : v = []
          · rw [if_pos hv, if_pos hv]
            rfl
          · rw [if_neg hv, if_neg hv]
            rfl

/-- Some arguments at the front stand for the first items, and the rest is read as the others. -/
inductive StartsWith : List Bytes → List Item → Prop
  | intro {front rest : List Bytes} {items items' : List Item} (hfront : Stands front items)
      (hrest : readItems programOptions rest = .ok items') :
      StartsWith (front ++ rest) (items ++ items')

namespace StartsWith

variable {arg : Bytes} {args : List Bytes} {items : List Item}

theorem of_stands {front rest : List Bytes} {its : List Item} (hfront : Stands front its)
    (h : (do return its ++ (← readItems programOptions rest)) = Except.ok items) :
    StartsWith (front ++ rest) items := by
  obtain ⟨items', hrest, rfl⟩ := exists_of_return h
  exact .intro hfront hrest

/-- A long option that is no stranger stands for an option of the program. -/
theorem exists_abbreviates (hnot : arg ≠ terminator) (hlong : terminator.isPrefixOf arg = true)
    (h : readItems programOptions (arg :: args) = .ok items) (hstranger : .stranger ∉ items) :
    ∃ text value? name, splitValue arg = (text, value?) ∧ Abbreviates text name := by
  rw [readItems, if_neg hnot, if_pos hlong] at h
  rcases hsplit : splitValue arg with ⟨text, value?⟩
  rw [hsplit] at h
  dsimp only at h
  rcases hcandidates : LongOption.candidates programOptions text with _ | ⟨o, _ | ⟨o', os⟩⟩
  -- No candidate makes a stranger, and several make a mistake.
  · rw [hcandidates] at h
    obtain ⟨items', -, rfl⟩ := exists_of_return h
    exact absurd (List.mem_cons_self ..) hstranger
  · have ho : o ∈ LongOption.candidates programOptions text := by
      rw [hcandidates]
      exact List.mem_cons_self ..
    obtain ⟨name, -, rfl⟩ := List.mem_map.mp (mem_of_mem_candidates ho)
    exact ⟨text, value?, name, rfl, candidates_eq_singleton_iff.mp hcandidates⟩
  · rw [hcandidates] at h
    cases h

theorem of_long (hnot : arg ≠ terminator) (hlong : terminator.isPrefixOf arg = true)
    (h : readItems programOptions (arg :: args) = .ok items) (hstranger : .stranger ∉ items) :
    StartsWith (arg :: args) items := by
  obtain ⟨text, value?, name, hsplit, htext⟩ := exists_abbreviates hnot hlong h hstranger
  rw [readItems_long htext args hsplit] at h
  cases value? with
  | some v =>
    obtain ⟨rfl, -⟩ := splitValue_eq_some_iff.mp hsplit
    cases hname : name.takesValue with
    | false =>
      rw [hname] at h
      cases h
    | true =>
      rw [hname] at h
      exact of_stands (.longJoined htext hname v) h
  | none =>
    obtain rfl := splitValue_eq_none hsplit
    cases hname : name.takesValue with
    | false =>
      rw [hname] at h
      exact of_stands (.long htext hname) h
    | true =>
      rw [hname] at h
      dsimp only at h
      split at h
      · cases h
      split at h
      · cases h
      next hv => exact of_stands (.longApart htext hname hv) h

theorem of_short {ls : Bytes} (hsome : ls ≠ []) (hhead : ls.head? ≠ some hyphen)
    (h : readItems programOptions ((hyphen :: ls) :: args) = .ok items)
    (hstranger : .stranger ∉ items) : StartsWith ((hyphen :: ls) :: args) items := by
  rw [readItems_short _ hsome hhead] at h
  -- Whatever the letters are read as is among the items.
  have hletters : .stranger ∉ (readShorts ls).1 := by
    intro hmem
    apply hstranger
    rcases hread : readShorts ls with ⟨its, _ | ⟨name, letter⟩⟩ <;> rw [hread] at h hmem
    · obtain ⟨items', -, rfl⟩ := exists_of_return h
      exact List.mem_append_left _ hmem
    · dsimp only at h
      split at h
      · cases h
      split at h
      · cases h
      · obtain ⟨items', -, rfl⟩ := exists_of_return h
        exact List.mem_append_left _ hmem
  obtain ⟨names, hnames, ⟨rfl, hread⟩ | ⟨name, b, v, hname, hletter, rfl, hread⟩⟩ :=
    readShorts_cases hletters
  · rw [hread] at h
    refine of_stands (.short hnames ?_) h
    rintro rfl
    exact hsome rfl
  · rw [hread] at h
    by_cases hv : v = []
    · subst hv
      rw [if_pos rfl] at h
      dsimp only at h
      split at h
      · cases h
      split at h
      · cases h
      next value args hvalue =>
        refine of_stands (.shortApart hnames hname hletter hvalue) ?_
        simpa using h
    · rw [if_neg hv] at h
      exact of_stands (.shortJoined hnames hname hletter hv) h

theorem of_readItems (hnot : arg ≠ terminator)
    (h : readItems programOptions (arg :: args) = .ok items) (hstranger : .stranger ∉ items) :
    StartsWith (arg :: args) items := by
  by_cases hlong : terminator.isPrefixOf arg = true
  · exact of_long hnot hlong h hstranger
  by_cases hplain : arg = [hyphen] ∨ arg.head? ≠ some hyphen
  · have hshort : ¬ (arg.head? = some hyphen ∧ arg ≠ [hyphen]) := by
      rintro ⟨hhead, hne⟩
      exact hplain.elim hne fun hnot => hnot hhead
    rw [readItems, if_neg hnot, if_neg hlong, if_neg hshort] at h
    exact of_stands (.positional hplain) h
  -- What begins with one dash, and has something else behind it, is letters.
  · rw [not_or, not_not] at hplain
    obtain ⟨hdash, hhead⟩ := hplain
    obtain ⟨ls, rfl⟩ := List.head?_eq_some_iff.mp hhead
    refine of_short ?_ ?_ h hstranger
    · rintro rfl
      exact hdash rfl
    · intro hls
      obtain ⟨ls, rfl⟩ := List.head?_eq_some_iff.mp hls
      exact hlong rfl

end StartsWith

theorem Stands.stranger_not_mem {front : List Bytes} {items : List Item} (h : Stands front items) :
    .stranger ∉ items := by
  cases h <;> simp [flags]

theorem Stands.length_pos {front : List Bytes} {items : List Item} (h : Stands front items) :
    0 < front.length := by
  cases h <;> simp

theorem Spelling.of_readItems {args : List Bytes} {items : List Item}
    (h : readItems programOptions args = .ok items) (hstranger : .stranger ∉ items) :
    Spelling args items := by
  -- What stands at the front is one argument or two, so the rest is shorter.
  induction hlength : args.length using Nat.strongRecOn generalizing args items with
  | ind n ih =>
    cases args with
    | nil =>
      obtain rfl := Except.ok.inj h
      exact .nil
    | cons arg args =>
      by_cases hnot : arg = terminator
      · rw [readItems, if_pos hnot] at h
        obtain rfl := Except.ok.inj h
        rw [hnot]
        exact .terminated args
      · have hstart := StartsWith.of_readItems hnot h hstranger
        generalize arg :: args = all at hstart hlength
        obtain ⟨hfront, hrest⟩ := hstart
        rw [List.length_append] at hlength
        have hpos := hfront.length_pos
        rw [List.mem_append, not_or] at hstranger
        exact .append hfront (ih _ (by omega) hrest hstranger.2 rfl)

/-- **Command lines are read as what they spell.** Arguments are read as items with no stranger
among them exactly if they are a spelling of these items. -/
theorem readItems_eq_ok_iff {args : List Bytes} {items : List Item} :
    readItems programOptions args = .ok items ∧ .stranger ∉ items ↔ Spelling args items := by
  constructor
  · rintro ⟨h, hstranger⟩
    exact .of_readItems h hstranger
  · intro h
    induction h with
    | nil => exact ⟨rfl, by simp⟩
    | terminated args =>
      refine ⟨?_, by simp⟩
      rw [readItems, if_pos rfl]
    | append hfront _ ih =>
      obtain ⟨hread, hstranger⟩ := ih
      refine ⟨?_, ?_⟩
      · rw [hfront.readItems_append, hread]
        rfl
      · rw [List.mem_append, not_or]
        exact ⟨hfront.stranger_not_mem, hstranger⟩

end NodeScript
