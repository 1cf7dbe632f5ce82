import Mathlib.Data.List.Basic
import Outline.Proofs.Change.Rewrite
import Outline.Proofs.Text.Offsets

/-!
# Insertions that are repeated

A position is looked up anew in every text. A text that is put at a position leaves what stands in
front of it, and when the new text begins with a line feed, the line of the position now ends there.
So a column further on is cut back to the same place. Only a carriage return would be lost from the
end of the line: it must not come to stand in front of a line feed that was not there before.
-/

namespace Outline

/-- The text after the same edits are made a number of times, each time in the text that the time
before has left. -/
def applyTimes (edits : List TextEdit) : Nat → String → Except EditError String
  | 0,     text => .ok text
  | n + 1, text => do applyEdits (← applyTimes edits n text) edits

/-- Every carriage return of a text stands directly in front of a line feed. -/
def ReturnsBeforeFeeds (text : List Char) : Prop :=
  ∀ i : Nat, text[i]? = some '\r' → text[i + 1]? = some '\n'

instance : DecidablePred ReturnsBeforeFeeds := fun text =>
  decidable_of_iff (∀ i < text.length, text[i]? = some '\r' → text[i + 1]? = some '\n')
    ⟨fun h i hi => h i (List.getElem?_eq_some_iff.mp hi).1 hi, fun h i _ => h i⟩

/-! ### A line that is cut at a column -/

/-- What is in front of a column is in front of it still when the line ends there. -/
lemma ColumnAt.cut {column : Nat} {line front : List Char} (h : ColumnAt column line front) :
    ColumnAt column front front where
  begins   := List.prefix_rfl
  short    := fun _ => rfl
  reaches  := id
  shortest := fun other hother hle => h.shortest other (hother.trans h.begins) hle

/-- A line feed ends a line at any place that is not behind a carriage return. -/
lemma LineAt.cut {n : Nat} {text lines line rest front : List Char}
    (h : LineAt n text lines line rest) (hfront : front <+: line)
    (htrimmed : front.getLast? ≠ some '\r') (back : List Char) :
    LineAt n (lines ++ front ++ '\n' :: back) lines front ('\n' :: back) where
  before   := ⟨List.append_assoc _ _ _, h.before.count, h.before.closed⟩
  feedless := fun hfeed => h.feedless (hfront.subset hfeed)
  trimmed  := htrimmed
  ended    := ⟨[], '\n' :: back, rfl, by simp, by simp⟩

lemma ReturnsBeforeFeeds.head?_eq {front back : List Char}
    (h : ReturnsBeforeFeeds (front ++ '\r' :: back)) : back.head? = some '\n' := by
  have hnext := h front.length (by simp)
  rwa [List.getElem?_append_right (Nat.le_add_right _ 1), Nat.add_sub_cancel_left,
    List.getElem?_cons_succ, ← List.head?_eq_getElem?] at hnext

/-- No place in a line is behind a carriage return. -/
lemma ReturnsBeforeFeeds.getLast?_ne {n : Nat} {text lines line rest front : List Char}
    (h : ReturnsBeforeFeeds text) (hline : LineAt n text lines line rest) (hfront : front <+: line) :
    front.getLast? ≠ some '\r' := by
  intro hlast
  obtain ⟨start, rfl⟩ := List.getLast?_eq_some_iff.mp hlast
  obtain ⟨behind, rfl⟩ := hfront
  cases behind with
  | nil => exact hline.trimmed (by simp)
  | cons c behind =>
    have hreturn : text = lines ++ start ++ '\r' :: (c :: behind ++ rest) := by
      rw [hline.before.append]
      simp
    rw [hreturn] at h
    obtain rfl : c = '\n' := Option.some.inj h.head?_eq
    exact hline.feedless (by simp)

/-- A text that is put at a position, with a line feed first, leaves the position where it is. -/
lemma offset_cut {text : List Char} {p : Position} {n : Nat} (hreturns : ReturnsBeforeFeeds text)
    (h : offset text p = some n) :
    ∃ front back, text = front ++ back ∧ n = utf8Length front ∧
      ∀ behind, offset (front ++ '\n' :: behind) p = some n := by
  obtain ⟨lines, line, rest, front, hline, hfront, rfl⟩ := offset_eq_some_iff.mp h
  obtain ⟨back, rfl⟩ := hfront.begins
  refine ⟨lines ++ front, back ++ rest, by simp [hline.before.append], by simp, fun behind => ?_⟩
  have htrimmed := hreturns.getLast?_ne hline hfront.begins
  exact offset_eq_some_iff.mpr
    ⟨lines, front, _, front, hline.cut hfront.begins htrimmed behind, hfront.cut, rfl⟩

/-! ### Runs of insertions -/

/-- Copies of a text that is put at one position again and again all stand there, when the position
stays in front of them. -/
lemma exists_applyTimes_point {text inserted : String} {p : Position} {front back : List Char}
    (htext : text.toList = front ++ back)
    (hplace : ∀ k, offset (front ++ ((List.replicate k inserted.toList).flatten ++ back)) p =
      some (utf8Length front)) (n : Nat) :
    ∃ new, applyTimes [⟨.point p, inserted⟩] n text = .ok new ∧
      new.toList = front ++ ((List.replicate n inserted.toList).flatten ++ back) := by
  induction n with
  | zero => exact ⟨text, rfl, htext⟩
  | succ n ih =>
    obtain ⟨new, hnew, hlist⟩ := ih
    have hoffset := hlist ▸ hplace n
    refine ⟨String.ofList (front ++ ((List.replicate (n + 1) inserted.toList).flatten ++ back)), ?_,
      String.toList_ofList⟩
    rw [applyTimes, hnew]
    refine applyEdits_singleton_eq_ok_iff.mpr ⟨_, _, hoffset, hoffset, Nat.le_refl _, ?_⟩
    rw [String.toList_ofList, hlist, takeBytes_append, dropBytes_append, List.replicate_succ,
      List.flatten_cons, List.append_assoc, List.append_assoc]

/-- A plan to put a text behind a symbol or in front of it can be carried out any number of times.
Every copy is put at the same place: behind the range of the symbol when the carriage returns of the
text all belong to its line ends, and at the start of the symbol's first line in any case. -/
theorem applyTimes_insertion (symbol : Symbol) (range : Range) (hrange : symbol.range = some range)
    (text body : String) (n : Nat) :
    (∀ stop, ReturnsBeforeFeeds text.toList → offset text.toList range.stop = some stop →
      ∃ edits new, planEdit symbol (.insertAfter body) = .ok ⟨[(symbol.uri, edits)]⟩ ∧
        applyTimes edits n text = .ok new ∧
        new.toList = takeBytes stop text.toList ++
          (List.replicate n ("\n" ++ body ++ "\n").toList).flatten ++ dropBytes stop text.toList) ∧
    ∀ front back, LinesBefore range.start.line text.toList front back →
      ∃ edits new, planEdit symbol (.insertBefore body) = .ok ⟨[(symbol.uri, edits)]⟩ ∧
        applyTimes edits n text = .ok new ∧
        new.toList = front ++ (List.replicate n (body ++ "\n").toList).flatten ++ back := by
  have hplan (intent : Intent) :
      planEdit symbol intent = .ok ⟨[(symbol.uri, [intent.edit range])]⟩ := by
    rw [planEdit, hrange]
  constructor
  · intro stop hreturns hstop
    obtain ⟨front, back, htext, rfl, hcut⟩ := offset_cut hreturns hstop
    have hplace (k : Nat) : offset (front ++
        ((List.replicate k ("\n" ++ body ++ "\n").toList).flatten ++ back)) range.stop =
          some (utf8Length front) := by
      cases k with
      | zero => rwa [htext] at hstop
      | succ k =>
        rw [List.replicate_succ, List.flatten_cons, String.toList_append, String.toList_append]
        exact hcut _
    obtain ⟨new, hnew, hlist⟩ := exists_applyTimes_point htext hplace n
    refine ⟨_, new, hplan _, hnew, ?_⟩
    rw [hlist, htext, takeBytes_append, dropBytes_append, List.append_assoc]
  · intro front back hlines
    have hplace (k : Nat) : offset (front ++
        ((List.replicate k (body ++ "\n").toList).flatten ++ back)) ⟨range.start.line, 0⟩ =
          some (utf8Length front) :=
      offset_lineStart_eq_some_iff.mpr ⟨front, _, ⟨rfl, hlines.count, hlines.closed⟩, rfl⟩
    obtain ⟨new, hnew, hlist⟩ := exists_applyTimes_point hlines.append hplace n
    refine ⟨_, new, hplan _, hnew, ?_⟩
    rw [hlist, List.append_assoc]

/-- A symbol that ends behind the end of its line, which has a character of two units at its end. -/
def lateSymbol : Symbol := { (default : Symbol) with
  head := { (default : SymbolHead) with range := some ⟨⟨0, 2⟩, ⟨0, 99⟩⟩ } }

theorem applyTimes_lateSymbol :
    lateSymbol.range = some ⟨⟨0, 2⟩, ⟨0, 99⟩⟩ ∧ ReturnsBeforeFeeds "fn 𝕏\r\nend".toList ∧
      offset "fn 𝕏\r\nend".toList ⟨0, 99⟩ = some 7 ∧
      LinesBefore 0 "fn 𝕏\r\nend".toList [] "fn 𝕏\r\nend".toList ∧
      (∃ edits new, planEdit lateSymbol (.insertAfter "a\nb") = .ok ⟨[(lateSymbol.uri, edits)]⟩ ∧
        applyTimes edits 2 "fn 𝕏\r\nend" = .ok new ∧
        new.toList = "fn 𝕏\na\nb\n\na\nb\n\r\nend".toList) ∧
      ∃ edits new, planEdit lateSymbol (.insertBefore "a\nb") = .ok ⟨[(lateSymbol.uri, edits)]⟩ ∧
        applyTimes edits 2 "fn 𝕏\r\nend" = .ok new ∧
        new.toList = "a\nb\na\nb\nfn 𝕏\r\nend".toList := by
  have hrange : lateSymbol.range = some ⟨⟨0, 2⟩, ⟨0, 99⟩⟩ := rfl
  have hreturns : ReturnsBeforeFeeds "fn 𝕏\r\nend".toList := by decide
  have hstop : offset "fn 𝕏\r\nend".toList ⟨0, 99⟩ = some 7 := by decide
  have hlines : LinesBefore 0 "fn 𝕏\r\nend".toList [] "fn 𝕏\r\nend".toList :=
    ⟨rfl, rfl, by simp⟩
  have hboth := applyTimes_insertion lateSymbol _ hrange "fn 𝕏\r\nend" "a\nb" 2
  refine ⟨hrange, hreturns, hstop, hlines, ?_, ?_⟩
  · obtain ⟨edits, new, hplan, hnew, hlist⟩ := hboth.1 7 hreturns hstop
    exact ⟨edits, new, hplan, hnew, hlist.trans (by decide)⟩
  · obtain ⟨edits, new, hplan, hnew, hlist⟩ := hboth.2 [] _ hlines
    exact ⟨edits, new, hplan, hnew, hlist.trans (by decide)⟩

end Outline
