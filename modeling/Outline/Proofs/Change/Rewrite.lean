import Mathlib.Data.List.Basic
import Outline.Change.Plan
import Outline.Proofs.Text.Lines
import Outline.Proofs.Text.Substitution

/-!
# Rewriting the text of a symbol

What carrying out an intent makes of a text: a part of it is replaced, or a new text is put behind
the range of the symbol, or in front of the line on which it starts. The one edit that is planned
for an intent does just that, and fails when the text has no such range.
-/

namespace Outline

/-! ### The new text -/

/-- The text after an intent is carried out at a range. -/
def Intent.Rewrites (range : Range) (text new : String) : Intent → Prop
  | replace body => ∃ start stop, offset text.toList range.start = some start ∧
      offset text.toList range.stop = some stop ∧ start ≤ stop ∧
      new.toList = takeBytes start text.toList ++ body.toList ++ dropBytes stop text.toList
  | insertAfter body => ∃ stop, offset text.toList range.stop = some stop ∧
      new.toList = takeBytes stop text.toList ++ ("\n" ++ body ++ "\n").toList ++
        dropBytes stop text.toList
  | insertBefore body => ∃ front back, LinesBefore range.start.line text.toList front back ∧
      new.toList = front ++ (body ++ "\n").toList ++ back

lemma TextEdit.span?_eq_some_iff {text : List Char} {e : TextEdit} {s : Span} :
    e.span? text = some s ↔ ∃ start stop, offset text e.range.start = some start ∧
      offset text e.range.stop = some stop ∧ s = ⟨start, stop, e.newText.toList⟩ := by
  simp [span?, Option.bind_eq_some_iff, eq_comm (a := s)]

lemma Span.splice_singleton (s : Span) (text : List Char) :
    splice 0 text [s] = .ok (s.replaceIn text) := by
  rw [splice_cons_of_le (Nat.zero_le _)]
  rfl

lemma applyEdits_singleton_eq_ok_iff {text new : String} {e : TextEdit} :
    applyEdits text [e] = .ok new ↔ ∃ start stop, offset text.toList e.range.start = some start ∧
      offset text.toList e.range.stop = some stop ∧ start ≤ stop ∧
      new.toList = takeBytes start text.toList ++ e.newText.toList ++
        dropBytes stop text.toList := by
  rw [applyEdits_eq_ok_iff]
  constructor
  · rintro ⟨spans, hmap, hfwd, hsplice⟩
    obtain ⟨s, rfl⟩ : ∃ s, spans = [s] :=
      List.length_eq_one_iff.mp (by simpa using congrArg List.length hmap.symm)
    obtain ⟨start, stop, hstart, hstop, rfl⟩ :=
      TextEdit.span?_eq_some_iff.mp (List.head_eq_of_cons_eq hmap)
    rw [List.mergeSort_singleton, Span.splice_singleton] at hsplice
    exact ⟨start, stop, hstart, hstop, hfwd _ (List.mem_singleton.mpr rfl),
      (Except.ok.inj hsplice).symm⟩
  · rintro ⟨start, stop, hstart, hstop, hle, hnew⟩
    refine ⟨[⟨start, stop, e.newText.toList⟩], ?_, by simpa using hle, ?_⟩
    · rw [List.map_singleton, TextEdit.span?_eq_some_iff.mpr ⟨start, stop, hstart, hstop, rfl⟩]
      rfl
    · rw [List.mergeSort_singleton, Span.splice_singleton, hnew]
      rfl

/-- The edit of an intent rewrites the text as the intent says. -/
lemma applyEdits_edit_eq_ok_iff {text new : String} {range : Range} {intent : Intent} :
    applyEdits text [intent.edit range] = .ok new ↔ intent.Rewrites range text new := by
  rw [applyEdits_singleton_eq_ok_iff]
  cases intent with
  | replace body => rfl
  | insertAfter body =>
    constructor
    · rintro ⟨stop, stop', hstop, hstop', -, hnew⟩
      obtain rfl := Option.some.inj (hstop.symm.trans hstop')
      exact ⟨stop, hstop, hnew⟩
    · rintro ⟨stop, hstop, hnew⟩
      exact ⟨stop, stop, hstop, hstop, Nat.le_refl stop, hnew⟩
  | insertBefore body =>
    constructor
    · rintro ⟨n, n', hn, hn', -, hnew⟩
      obtain rfl := Option.some.inj (hn.symm.trans hn')
      obtain ⟨front, back, hlines, rfl⟩ := offset_lineStart_eq_some_iff.mp hn
      refine ⟨front, back, hlines, ?_⟩
      rwa [hlines.append, takeBytes_append, dropBytes_append] at hnew
    · rintro ⟨front, back, hlines, hnew⟩
      have hn := offset_lineStart_eq_some_iff.mpr ⟨front, back, hlines, rfl⟩
      refine ⟨_, _, hn, hn, Nat.le_refl _, ?_⟩
      rw [hlines.append, takeBytes_append, dropBytes_append]
      exact hnew

end Outline
