/-
  The order of the rules.

  No word that a text can begin with is the beginning of another, so at most one of the rules
  that look at the beginning of a text matches it (`eq_of_matches`). Only the rule that looks
  anywhere in the text can match as well, and then one of the two has to be tried first. This
  is all that the order of the rules decides: they may be tried in any order that keeps the
  rules for starting and stopping in front of it, and it in front of the others
  (`Reordering`). Which kind they give can be told without an order (`Kind.Describes`).
-/
import NodeScript.Proofs.Text.Words
import NodeScript.Script.Classification
import Mathlib.Data.Set.Subsingleton

namespace NodeScript

/-! ### Kinds without an order -/

namespace Kind

/-- The word of a kind, empty if it has none. -/
def word : Kind → Bytes
  | .unrecognized => []
  | .start => utf8 "Start("
  | .stop => utf8 "Stop("
  | .setApi => utf8 "NodeAPI"
  | .connect => utf8 "Conect"
  | .stat => utf8 "Stat"
  | .log => utf8 "LOG"
  | .exportOutput => utf8 "out"
  | .compress => utf8 "short"
  | .standalone => utf8 "alone"
  | .send => utf8 "send"

/-- What a trimmed text of a kind looks like. -/
def Describes (t : Bytes) : Kind → Prop
  | .start => word .start <+: t
  | .stop => word .stop <+: t
  | .setApi => word .setApi <:+: t ∧ ¬ word .start <+: t ∧ ¬ word .stop <+: t
  | .unrecognized =>
    ¬ word .setApi <:+: t ∧ ∀ k, k ≠ .unrecognized → k ≠ .setApi → ¬ word k <+: t
  | k => word k <+: t ∧ ¬ word .setApi <:+: t

/-- Whether the rule of the first kind has to be tried before the rule of the second. -/
def outranks (k : Kind) : Kind → Bool
  | .setApi => k = .start || k = .stop
  | .unrecognized | .start | .stop => false
  | _ => k = .setApi

end Kind

/-- The rules in an order in which none is tried before one that outranks it. -/
structure Reordering where
  rules : List Rule
  perm : rules.Perm NodeScript.rules
  inOrder : rules.Pairwise fun r r' => r'.kind.outranks r.kind = false

variable {r r' : Rule} {s t : Bytes} {k : Kind}

/-! ### Words -/

theorem Rule.matches_iff_prefix (h : r.placement = .atStart) :
    r.matches t = true ↔ r.word <+: t := by
  unfold Rule.matches
  rw [h]
  exact List.isPrefixOf_iff_prefix

theorem Rule.matches_iff_infix (h : r.placement = .anywhere) :
    r.matches t = true ↔ r.word <:+: t := by
  unfold Rule.matches
  rw [h]
  exact Bytes.containsWord_iff

theorem word_kind (hr : r ∈ rules) : r.word = r.kind.word := by
  revert r
  decide

/-- Every kind but the unrecognized has a rule. -/
theorem exists_rule (hk : k ≠ .unrecognized) : ∃ r ∈ rules, r.kind = k := by
  cases k with
  | unrecognized => exact absurd rfl hk
  | _ => decide

theorem eq_of_kind (hr : r ∈ rules) (hr' : r' ∈ rules) (h : r.kind = r'.kind) : r = r' := by
  have hkinds : ∀ q ∈ rules, ∀ q' ∈ rules, q.kind = q'.kind → q = q' := by decide
  exact hkinds r hr r' hr' h

theorem placement_eq_anywhere_iff (hr : r ∈ rules) : r.placement = .anywhere ↔ r.kind = .setApi := by
  revert r
  decide

theorem placement_eq_atStart_iff (hr : r ∈ rules) : r.placement = .atStart ↔ r.kind ≠ .setApi := by
  revert r
  decide

/-- At most one of the rules that look at the beginning of a text matches it. -/
theorem eq_of_matches (hr : r ∈ rules) (hr' : r' ∈ rules) (hstart : r.placement = .atStart)
    (hstart' : r'.placement = .atStart) (hmatch : r.matches t = true)
    (hmatch' : r'.matches t = true) : r = r' := by
  have hwords : ∀ q ∈ rules, ∀ q' ∈ rules, q.placement = .atStart → q'.placement = .atStart →
      q.word <+: q'.word → q = q' := by decide
  have hbegins : r.word <+: t := (Rule.matches_iff_prefix hstart).mp hmatch
  have hbegins' : r'.word <+: t := (Rule.matches_iff_prefix hstart').mp hmatch'
  rcases List.prefix_or_prefix_of_prefix hbegins hbegins' with h | h
  · exact hwords r hr r' hr' hstart hstart' h
  · exact (hwords r' hr' r hr hstart' hstart h).symm

/-! ### The rule that decides -/

namespace Reordering

variable (o : Reordering)

/-- A matching rule decides if it outranks the others that match. -/
theorem classifyBy_eq (hr : r ∈ NodeScript.rules) (hmatch : r.matches (trim s) = true)
    (hothers : ∀ r' ∈ NodeScript.rules, r'.matches (trim s) = true → r' ≠ r →
      r.kind.outranks r'.kind = true) : classifyBy o.rules s = r.kind := by
  have hmem : r ∈ o.rules := o.perm.mem_iff.mpr hr
  have hsome : (o.rules.find? (·.matches (trim s))).isSome := by
    rw [List.find?_isSome]
    exact ⟨r, hmem, hmatch⟩
  obtain ⟨q, hq⟩ := Option.isSome_iff_exists.mp hsome
  have hqr : q = r := by
    by_contra hne
    obtain ⟨hqmatch, before, after, hsplit, hbefore⟩ := List.find?_eq_some_iff_append.mp hq
    have hqmem : q ∈ NodeScript.rules := o.perm.mem_iff.mp (List.mem_of_find?_eq_some hq)
    have hrank : r.kind.outranks q.kind = true := hothers q hqmem hqmatch hne
    -- The rule matches, so it does not stand before the first that does; nor behind it,
    -- because it outranks it.
    rw [hsplit] at hmem
    rcases List.mem_append.mp hmem with hin | hin
    · have hnot := hbefore r hin
      rw [hmatch] at hnot
      cases hnot
    · rcases List.mem_cons.mp hin with heq | hin
      · exact hne heq.symm
      · have horder := o.inOrder
        rw [hsplit] at horder
        have hafter := (List.pairwise_cons.mp (List.pairwise_append.mp horder).2.1).1 r hin
        rw [hrank] at hafter
        cases hafter
  unfold classifyBy
  rw [hq, hqr]

/-- A word at the beginning of a text decides, unless the rule that looks anywhere matches
and is tried before. -/
theorem classifyBy_of_prefix (hk : k ≠ .unrecognized) (hsetApi : k ≠ .setApi)
    (hword : k.word <+: trim s)
    (hrank : k.outranks .setApi = true ∨ ¬ Kind.setApi.word <:+: trim s) :
    classifyBy o.rules s = k := by
  obtain ⟨r, hr, rfl⟩ := exists_rule hk
  have hstart : r.placement = .atStart := (placement_eq_atStart_iff hr).mpr hsetApi
  have hmatch : r.matches (trim s) = true := by
    rw [Rule.matches_iff_prefix hstart, word_kind hr]
    exact hword
  apply o.classifyBy_eq hr hmatch
  intro r' hr' hmatch' hne
  cases hplace : r'.placement with
  | atStart => exact absurd (eq_of_matches hr' hr hplace hstart hmatch' hmatch) hne
  | anywhere =>
    have hkind : r'.kind = .setApi := (placement_eq_anywhere_iff hr').mp hplace
    rw [Rule.matches_iff_infix hplace, word_kind hr', hkind] at hmatch'
    rw [hkind]
    exact hrank.resolve_right (not_not_intro hmatch')

/-- Otherwise the rule that looks anywhere decides if it matches. -/
theorem classifyBy_of_infix (hword : Kind.setApi.word <:+: trim s)
    (hnostart : ¬ Kind.start.word <+: trim s) (hnostop : ¬ Kind.stop.word <+: trim s) :
    classifyBy o.rules s = .setApi := by
  obtain ⟨r, hr, hkind⟩ := exists_rule (k := .setApi) (by decide)
  have hplace : r.placement = .anywhere := (placement_eq_anywhere_iff hr).mpr hkind
  have hmatch : r.matches (trim s) = true := by
    rw [Rule.matches_iff_infix hplace, word_kind hr, hkind]
    exact hword
  rw [← hkind]
  apply o.classifyBy_eq hr hmatch
  intro r' hr' hmatch' hne
  have hrest : ∀ q ∈ NodeScript.rules, q.kind ≠ .start → q.kind ≠ .stop → q.kind ≠ .setApi →
      Kind.setApi.outranks q.kind = true := by decide
  have hkind' : r'.kind ≠ .setApi := fun h => hne (eq_of_kind hr' hr (h.trans hkind.symm))
  have hbegins : r'.kind.word <+: trim s := by
    rw [← word_kind hr', ← Rule.matches_iff_prefix ((placement_eq_atStart_iff hr').mpr hkind')]
    exact hmatch'
  rw [hkind]
  apply hrest r' hr'
  · intro h
    rw [h] at hbegins
    exact hnostart hbegins
  · intro h
    rw [h] at hbegins
    exact hnostop hbegins
  · exact hkind'

/-- If no rule matches, the text is not recognized. -/
theorem classifyBy_of_none (hnowhere : ¬ Kind.setApi.word <:+: trim s)
    (hnone : ∀ k, k ≠ .unrecognized → k ≠ .setApi → ¬ Kind.word k <+: trim s) :
    classifyBy o.rules s = .unrecognized := by
  have hfind : o.rules.find? (·.matches (trim s)) = none := by
    rw [List.find?_eq_none]
    intro r hmem hmatch
    have hr : r ∈ NodeScript.rules := o.perm.mem_iff.mp hmem
    have hrecognized : ∀ q ∈ NodeScript.rules, q.kind ≠ .unrecognized := by decide
    cases hplace : r.placement with
    | anywhere =>
      rw [Rule.matches_iff_infix hplace, word_kind hr, (placement_eq_anywhere_iff hr).mp hplace]
        at hmatch
      exact hnowhere hmatch
    | atStart =>
      rw [Rule.matches_iff_prefix hplace, word_kind hr] at hmatch
      exact hnone r.kind (hrecognized r hr) ((placement_eq_atStart_iff hr).mp hplace) hmatch
  unfold classifyBy
  rw [hfind]

/-- The kind that a text looks like is the kind that the rules give. -/
theorem classifyBy_of_describes (h : k.Describes (trim s)) : classifyBy o.rules s = k := by
  cases k with
  | unrecognized => exact o.classifyBy_of_none h.1 h.2
  | setApi => exact o.classifyBy_of_infix h.1 h.2.1 h.2.2
  | start => exact o.classifyBy_of_prefix (by decide) (by decide) h (.inl rfl)
  | stop => exact o.classifyBy_of_prefix (by decide) (by decide) h (.inl rfl)
  | _ => exact o.classifyBy_of_prefix (by decide) (by decide) h.1 (.inr h.2)

end Reordering

/-- A trimmed text looks like some kind. -/
theorem exists_describes (t : Bytes) : ∃ k, Kind.Describes t k := by
  by_cases hstart : Kind.start.word <+: t
  · exact ⟨.start, hstart⟩
  by_cases hstop : Kind.stop.word <+: t
  · exact ⟨.stop, hstop⟩
  by_cases hanywhere : Kind.setApi.word <:+: t
  · exact ⟨.setApi, hanywhere, hstart, hstop⟩
  by_cases hword : ∃ k, k ≠ .unrecognized ∧ k ≠ .setApi ∧ Kind.word k <+: t
  · obtain ⟨k, hk, hsetApi, hbegins⟩ := hword
    refine ⟨k, ?_⟩
    cases k with
    | unrecognized => exact absurd rfl hk
    | setApi => exact absurd rfl hsetApi
    | start => exact hbegins
    | stop => exact hbegins
    | _ => exact ⟨hbegins, hanywhere⟩
  · exact ⟨.unrecognized, hanywhere, fun k hk hsetApi hbegins => hword ⟨k, hk, hsetApi, hbegins⟩⟩

namespace Reordering

theorem classifyBy_eq_iff (o : Reordering) : classifyBy o.rules s = k ↔ k.Describes (trim s) := by
  constructor
  · rintro rfl
    obtain ⟨k, hk⟩ := exists_describes (trim s)
    rw [o.classifyBy_of_describes hk]
    exact hk
  · exact o.classifyBy_of_describes

/-- The order in which the rules stand. -/
def asWritten : Reordering := ⟨NodeScript.rules, .rfl, by decide⟩

end Reordering

theorem classify_eq_iff : classify s = k ↔ k.Describes (trim s) :=
  Reordering.asWritten.classifyBy_eq_iff

/-- **The order of the rules matters through one word only.** Of the rules that look at the
beginning of a text, at most one matches it. So a text is of the kind for starting or stopping
if it begins so; of the kind for setting the API if it does not and holds that word anywhere;
of any other kind if it begins with the word of that kind and does not hold that word; and
else of none. The rules give the same kind in any order that keeps the first two in front of
the one that looks anywhere, and that one in front of the others. -/
theorem order_matters_through_one_word (s : Bytes) :
    {r | r ∈ rules ∧ r.placement = .atStart ∧ r.matches (trim s) = true}.Subsingleton ∧
    (∀ k : Kind, classify s = k ↔ k.Describes (trim s)) ∧
    ∀ o : Reordering, classifyBy o.rules s = classify s := by
  refine ⟨?_, fun k => classify_eq_iff, fun o => ?_⟩
  · rintro r ⟨hr, hstart, hmatch⟩ r' ⟨hr', hstart', hmatch'⟩
    exact eq_of_matches hr hr' hstart hstart' hmatch hmatch'
  · have hdescribes : (classify s).Describes (trim s) := classify_eq_iff.mp rfl
    exact o.classifyBy_of_describes hdescribes

end NodeScript
