import Mathlib.Data.List.Basic
import Outline.Proofs.Text.Offsets

/-!
# Slices of a text

A slice of a text is given by two byte offsets. It exists only when these stand in order and neither
falls inside a character or behind the end. Here positions are resolved and edits are applied once
more by cutting slices out of the whole text, and every slice that is asked for exists. With the
lines and columns of a text this says all about the offset of a position: when there is one, which
it is, and which positions lead back to a given offset.
-/

namespace Outline

/-! ### Slices -/

lemma isCut_iff {n : Nat} {text : List Char} : IsCut n text ↔ utf8Length (takeBytes n text) = n := by
  constructor
  · rintro ⟨front, back, rfl, rfl⟩
    rw [takeBytes_append]
  · intro h
    exact ⟨takeBytes n text, dropBytes n text, (takeBytes_append_dropBytes n text).symm, h⟩

instance (n : Nat) (text : List Char) : Decidable (IsCut n text) :=
  decidable_of_iff _ isCut_iff.symm

/-- The bytes of a text from `start` to `stop`, if there is such a slice. -/
def slice? (start stop : Nat) (text : List Char) : Option (List Char) :=
  if start ≤ stop ∧ IsCut start text ∧ IsCut stop text then
    some (dropBytes start (takeBytes stop text))
  else
    none

lemma slice?_append (front middle back : List Char) :
    slice? (utf8Length front) (utf8Length front + utf8Length middle) (front ++ middle ++ back) =
      some middle := by
  have hstart : IsCut (utf8Length front) (front ++ middle ++ back) :=
    ⟨front, middle ++ back, by rw [List.append_assoc], rfl⟩
  have hstop : IsCut (utf8Length front + utf8Length middle) (front ++ middle ++ back) :=
    ⟨front ++ middle, back, rfl, utf8Length_append front middle⟩
  rw [slice?, if_pos ⟨Nat.le_add_right _ _, hstart, hstop⟩, ← utf8Length_append,
    takeBytes_append, dropBytes_append]

lemma slice?_rest (front back : List Char) :
    slice? (utf8Length front) (utf8Length (front ++ back)) (front ++ back) = some back := by
  simpa using slice?_append front back []

/-! ### Positions by slices -/

/-- The byte offset of the first line feed. -/
def feedOffset? (cs : List Char) : Option Nat :=
  if '\n' ∈ cs then some (utf8Length (cs.takeWhile (· ≠ '\n'))) else none

/-- Where the line starts that stands `n` lines behind the one that starts at `start`, if the text
has it. The search itself comes to nothing when it asks for a slice that does not exist. -/
def lineStartBySlices (text : List Char) : (n start : Nat) → Option (Option Nat)
  | 0,     start => some (some start)
  | n + 1, start => do
    let rest ← slice? start (utf8Length text) text
    match feedOffset? rest with
    | none      => return none
    | some feed => lineStartBySlices text n (start + feed + 1)

/-- The offset of a position, if the text has it, found by way of slices. -/
def offsetBySlices (text : List Char) (p : Position) : Option (Option Nat) := do
  match ← lineStartBySlices text p.line 0 with
  | none       => return none
  | some start =>
    let rest ← slice? start (utf8Length text) text
    let stop := ((feedOffset? rest).map (start + ·)).getD (utf8Length text)
    let line ← slice? start stop text
    return some (start + columnOffset p.character (trimReturns line))

lemma afterLines_append_feed {line rest : List Char} (hline : '\n' ∉ line) (n : Nat) :
    afterLines (n + 1) (line ++ '\n' :: rest) = afterLines n rest := by
  induction line with
  | nil => simp [afterLines]
  | cons c line ih =>
    rw [List.mem_cons, not_or] at hline
    rw [List.cons_append, afterLines, if_neg (Ne.symm hline.1), ih hline.2]

lemma takeWhile_append_feed {line rest : List Char} (hline : '\n' ∉ line) :
    (line ++ '\n' :: rest).takeWhile (· ≠ '\n') = line := by
  rw [List.takeWhile_append_of_pos (by aesop), List.takeWhile_cons_of_neg (by simp),
    List.append_nil]

lemma lineStartBySlices_eq (n : Nat) (front rest : List Char) :
    lineStartBySlices (front ++ rest) n (utf8Length front) =
      some ((afterLines n rest).map fun back => utf8Length (front ++ rest) - utf8Length back) := by
  induction n generalizing front rest with
  | zero => simp [lineStartBySlices, afterLines]
  | succ n ih =>
    rw [lineStartBySlices, slice?_rest, Option.bind_eq_bind, Option.bind_some]
    by_cases hfeed : '\n' ∈ rest
    · obtain ⟨line, back, rfl, hline⟩ := List.eq_append_cons_of_mem hfeed
      have hstart : utf8Length front + utf8Length line + 1 = utf8Length (front ++ line ++ ['\n']) := by
        simp [show '\n'.utf8Size = 1 from rfl, Nat.add_assoc]
      have hrest := ih (front ++ line ++ ['\n']) back
      simp only [feedOffset?, hfeed, if_true, takeWhile_append_feed hline,
        afterLines_append_feed hline, hstart]
      simpa using hrest
    · have hnone : afterLines (n + 1) rest = none := by
        rw [afterLines_eq_none_iff, List.count_eq_zero.mpr hfeed]
        exact Nat.succ_pos n
      simp [feedOffset?, hfeed, hnone]

/-- Every slice exists that is asked for when a position is resolved. -/
lemma offsetBySlices_eq (text : List Char) (p : Position) :
    offsetBySlices text p = some (offset text p) := by
  have hstart := lineStartBySlices_eq p.line [] text
  rw [List.nil_append, utf8Length_nil] at hstart
  rw [offsetBySlices, hstart, offset]
  cases hback : afterLines p.line text with
  | none => rfl
  | some back =>
    obtain ⟨lines, rfl⟩ := afterLines_suffix hback
    have hstop : ((feedOffset? back).map (utf8Length lines + ·)).getD (utf8Length (lines ++ back)) =
        utf8Length lines + utf8Length (back.takeWhile (· ≠ '\n')) := by
      by_cases hfeed : '\n' ∈ back
      · simp [feedOffset?, hfeed]
      · have hall : back.takeWhile (· ≠ '\n') = back := by
          rw [List.takeWhile_eq_self_iff]
          aesop
        rw [hall]
        simp [feedOffset?, hfeed]
    have hslice := slice?_append lines (back.takeWhile (· ≠ '\n')) (back.dropWhile (· ≠ '\n'))
    rw [List.append_assoc, List.takeWhile_append_dropWhile] at hslice
    simp only [Option.map_some, Option.bind_eq_bind, Option.bind_some, utf8Length_append,
      Nat.add_sub_cancel]
    rw [← utf8Length_append, slice?_rest, Option.bind_some, hstop, hslice, Option.bind_some]
    rfl

/-! ### Edits by slices -/

/-- The pass over a text with ordered spans, cutting what is kept out of the whole text. -/
def Span.spliceBySlices (text : List Char) :
    (cursor : Nat) → List Span → Option (Except EditError (List Char))
  | cursor, []      => (slice? cursor (utf8Length text) text).map .ok
  | cursor, s :: ss =>
    if s.start < cursor then
      some (.error (.overlap s.start))
    else do
      let kept ← slice? cursor s.start text
      let done ← spliceBySlices text s.stop ss
      return done.map fun done => kept ++ s.newText ++ done

/-- Applies edits to a list of characters as one change, by way of slices. -/
def applyBySlices (text : List Char) (edits : List TextEdit) :
    Option (Except EditError (List Char)) :=
  match edits.mapM (TextEdit.resolve text) with
  | .error e  => some (.error e)
  | .ok spans => Span.spliceBySlices text 0 (spans.mergeSort Span.le)

lemma Span.spliceBySlices_eq (front rest : List Char) {ss : List Span}
    (hcut : ∀ s ∈ ss, s.start ≤ s.stop ∧ IsCut s.start (front ++ rest) ∧
      IsCut s.stop (front ++ rest)) :
    spliceBySlices (front ++ rest) (utf8Length front) ss =
      some (splice (utf8Length front) rest ss) := by
  induction ss generalizing front rest with
  | nil => rw [spliceBySlices, slice?_rest, splice, Option.map_some]
  | cons s ss ih =>
    obtain ⟨hle, hstart, hstop⟩ := hcut s List.mem_cons_self
    by_cases hlt : s.start < utf8Length front
    · rw [spliceBySlices, if_pos hlt, splice_cons_of_lt hlt]
    · have hfront : utf8Length front ≤ s.start := Nat.le_of_not_lt hlt
      obtain ⟨kept, removed, back, rfl, hkept, hremoved⟩ := exists_parts hle hstart hstop hfront
      have hslice : slice? (utf8Length front) s.start (front ++ (kept ++ removed ++ back)) =
          some kept := by
        simpa [hkept] using slice?_append front kept (removed ++ back)
      have hthrough : utf8Length (front ++ (kept ++ removed)) = s.stop := by
        rw [utf8Length_append, utf8Length_append]; omega
      have hrest := ih (front ++ (kept ++ removed)) back (fun t ht => by
        simpa only [List.append_assoc] using hcut t (List.mem_cons_of_mem s ht))
      rw [hthrough, List.append_assoc] at hrest
      rw [spliceBySlices, if_neg hlt, hslice, splice_cons_append hkept hremoved,
        Option.bind_eq_bind, Option.bind_some, hrest]
      rfl

/-- Every slice exists that is asked for when edits are applied. -/
lemma applyBySlices_eq (text : List Char) (edits : List TextEdit) :
    applyBySlices text edits = some (applyEditsTo text edits) := by
  rw [applyBySlices, applyEditsTo]
  cases hresolved : edits.mapM (TextEdit.resolve text) with
  | error e => rfl
  | ok spans =>
    obtain ⟨hmap, hfwd⟩ := map_resolve_eq_iff.mp (mapM_eq_ok_iff.mp hresolved)
    refine Span.spliceBySlices_eq [] text fun s hs => ?_
    have hs := List.mem_mergeSort.mp hs
    exact ⟨hfwd s hs, isCut_of_map_span? hmap hs⟩

/-! ### All about the offset of a position -/

lemma IsCut.le_utf8Length {n : Nat} {text : List Char} (h : IsCut n text) : n ≤ utf8Length text := by
  obtain ⟨front, back, rfl, rfl⟩ := h
  simp

/-- The column of an offset inside a line leads back to it. -/
lemma offset_of_isCut {l n : Nat} {text lines line rest : List Char}
    (hline : LineAt l text lines line rest) (hcut : IsCut n text) (hstart : utf8Length lines ≤ n)
    (hstop : n ≤ utf8Length lines + utf8Length line) :
    offset text ⟨l, utf16Length (takeBytes (n - utf8Length lines) line)⟩ = some n := by
  rw [hline.before.append] at hcut
  obtain ⟨front, back, rfl, hfront⟩ := (hcut.of_append hstart).of_append_left (by omega)
  rw [← hfront, takeBytes_append]
  exact offset_eq_some_iff.mpr ⟨lines, front ++ back, rest, front, hline,
    columnAt_utf16Length (List.prefix_append front back), by omega⟩

/-- A text has a position exactly when it has the line. The position then stands for the bytes of
the lines before it and of what is in front of its column, which is always a cut of the text. Every
slice exists that is asked for to find it or to apply edits. And every offset inside a line comes
from the column that the units in front of it make. -/
theorem offset_exact (text : List Char) (p : Position) :
    (offset text p = none ↔ text.count '\n' < p.line) ∧
    (∀ n, offset text p = some n ↔ ∃ lines line rest front, LineAt p.line text lines line rest ∧
      ColumnAt p.character line front ∧ n = utf8Length lines + utf8Length front) ∧
    (∀ n, offset text p = some n → IsCut n text ∧ n ≤ utf8Length text) ∧
    offsetBySlices text p = some (offset text p) ∧
    (∀ edits, applyBySlices text edits = some (applyEditsTo text edits)) ∧
    ∀ lines line rest n, LineAt p.line text lines line rest → IsCut n text →
      utf8Length lines ≤ n → n ≤ utf8Length lines + utf8Length line →
      offset text ⟨p.line, utf16Length (takeBytes (n - utf8Length lines) line)⟩ = some n := by
  refine ⟨offset_eq_none_iff, fun n => offset_eq_some_iff, fun n h => ?_, offsetBySlices_eq text p,
    applyBySlices_eq text, fun lines line rest n hline hcut hstart hstop => ?_⟩
  · have hcut := offset_isCut h
    exact ⟨hcut, hcut.le_utf8Length⟩
  · exact offset_of_isCut hline hcut hstart hstop

/-- A column inside a character counts as the one behind it. -/
example : offset ['a', '😀', 'b', '\r', '\n'] ⟨0, 2⟩ = some 5 := by decide

end Outline
