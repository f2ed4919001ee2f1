/-
  Renderings lose nothing.

  A command is rendered as its kind, its text in `$'…'` and its place in parentheses, a span as
  its text in double quotes and its place. The parts can be told apart whatever they hold: the
  name of a kind has no space in it, a quoted text ends where its escaping says so, and a place is
  read from its end, since line and column have no colon in them and the label may have any.
  Main statement: different commands are rendered differently, and so are different spans
  (`renderings_are_lossless`).
-/
import NodeScript.Script.Command
import NodeScript.Proofs.Text.Escapes
import NodeScript.Proofs.Text.Joining
import NodeScript.Proofs.Text.Words

namespace NodeScript

theorem Location.render_injective : Function.Injective Location.render := by
  intro p q h
  have hcolon (n : Int) : colon ∉ Bytes.ofInt n := Bytes.not_mem_ofInt (by decide) (by decide) n
  unfold render at h
  rw [List.append_assoc, List.append_assoc _ _ (Bytes.ofInt q.column)] at h
  obtain ⟨hfront, hcolumn⟩ := Bytes.eq_of_append_last (hcolon _) (hcolon _) h
  rw [List.append_assoc, List.append_assoc] at hfront
  obtain ⟨hname, hline⟩ := Bytes.eq_of_append_last (hcolon _) (hcolon _) hfront
  obtain ⟨name, line, column⟩ := p
  rw [Location.mk.injEq]
  exact ⟨hname, Bytes.ofInt_injective hline, Bytes.ofInt_injective hcolumn⟩

theorem Kind.name_injective : Function.Injective Kind.name := by
  have hall : ∀ k ∈ all, ∀ k' ∈ all, k.name = k'.name → k = k' := by decide
  have hmem : ∀ k, k ∈ all := by
    intro k
    cases k <;> decide
  exact fun k k' => hall k (hmem k) k' (hmem k')

theorem Kind.space_not_mem_name (k : Kind) : space ∉ k.name := by
  cases k <;> decide

theorem Command.render_injective : Function.Injective Command.render := by
  intro c d h
  unfold render at h
  simp only [List.append_assoc, List.singleton_append] at h
  obtain ⟨hname, hrest⟩ :=
    Bytes.eq_of_append_first c.kind.space_not_mem_name d.kind.space_not_mem_name h
  obtain ⟨htext, hrest⟩ := eq_of_dollarQuoted_append hrest
  have hplace : c.place.render = d.place.render :=
    List.append_cancel_right (List.append_cancel_left hrest)
  obtain ⟨kind, text, place⟩ := c
  rw [Command.mk.injEq]
  exact ⟨Kind.name_injective hname, htext, Location.render_injective hplace⟩

theorem Span.render_injective : Function.Injective Span.render := by
  intro s u h
  unfold render at h
  simp only [List.append_assoc] at h
  obtain ⟨htext, hrest⟩ := eq_of_doubleQuoted_append h
  have hplace : s.place.render = u.place.render :=
    List.append_cancel_right (List.append_cancel_left hrest)
  obtain ⟨text, place⟩ := s
  rw [Span.mk.injEq]
  exact ⟨htext, Location.render_injective hplace⟩

/-- **Renderings lose nothing.** Commands that are rendered alike have the same kind, text and
place, and spans the same text and place, whatever bytes the text and the label hold. In
particular the replacement character is not mistaken for a byte, stray or not, nor a rune for the
text of its escape, unless it is its own escape. -/
theorem renderings_are_lossless :
    Function.Injective Command.render ∧ Function.Injective Span.render ∧
    (∀ (k k' : Kind) (p p' : Location),
      (∀ b, (Command.mk k (utf8 "\uFFFD") p).render ≠ (Command.mk k' [b] p').render) ∧
      ∀ r : Rune, r.inDollarQuotes ≠ r.bytes →
        (Command.mk k r.bytes p).render ≠ (Command.mk k' r.inDollarQuotes p').render) ∧
    ∀ p p' : Location,
      (∀ b, (Span.mk (utf8 "\uFFFD") p).render ≠ (Span.mk [b] p').render) ∧
      ∀ r : Rune, r.inDoubleQuotes ≠ r.bytes →
        (Span.mk r.bytes p).render ≠ (Span.mk r.inDoubleQuotes p').render := by
  have hlength (b : UInt8) : utf8 "\uFFFD" ≠ [b] := by
    intro h
    have hthree : (utf8 "\uFFFD").length = 3 := by decide
    rw [h] at hthree
    cases hthree
  refine ⟨Command.render_injective, Span.render_injective, fun k k' p p' => ⟨?_, ?_⟩,
    fun p p' => ⟨?_, ?_⟩⟩
  · intro b h
    exact hlength b (congrArg Command.text (Command.render_injective h))
  · intro r hr h
    exact hr (congrArg Command.text (Command.render_injective h)).symm
  · intro b h
    exact hlength b (congrArg Span.text (Span.render_injective h))
  · intro r hr h
    exact hr (congrArg Span.text (Span.render_injective h)).symm

end NodeScript
