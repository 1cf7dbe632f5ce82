import Mathlib.Data.List.Basic
import Outline.Proofs.Text.Trimming
import Outline.Text.Position

/-!
# Cutting between characters

A byte offset of a text is a cut when it falls between two whole characters, or at one of the ends.
Cutting a text there loses nothing and counts the bytes right. Every position that a text has
stands for a cut of it.
-/

namespace Outline

/-! ### Cuts -/

/-- The byte offset `n` does not fall inside a character. -/
def IsCut (n : Nat) (text : List Char) : Prop :=
  ∃ front back, text = front ++ back ∧ utf8Length front = n

lemma takeBytes_zero (cs : List Char) : takeBytes 0 cs = [] := by
  cases cs with
  | nil => rfl
  | cons c cs =>
    have := c.utf8Size_pos
    rw [takeBytes, if_neg (by omega)]

lemma dropBytes_zero (cs : List Char) : dropBytes 0 cs = cs := by
  cases cs with
  | nil => rfl
  | cons c cs =>
    have := c.utf8Size_pos
    rw [dropBytes, if_neg (by omega)]

@[simp] lemma takeBytes_append (front back : List Char) :
    takeBytes (utf8Length front) (front ++ back) = front := by
  induction front with
  | nil => exact takeBytes_zero back
  | cons c cs ih =>
    rw [List.cons_append, takeBytes, utf8Length_cons, if_pos (Nat.le_add_right _ _),
      Nat.add_sub_cancel_left, ih]

@[simp] lemma dropBytes_append (front back : List Char) :
    dropBytes (utf8Length front) (front ++ back) = back := by
  induction front with
  | nil => exact dropBytes_zero back
  | cons c cs ih =>
    rw [List.cons_append, dropBytes, utf8Length_cons, if_pos (Nat.le_add_right _ _),
      Nat.add_sub_cancel_left, ih]

/-- A cut behind a part of the text is a cut of what follows that part. -/
lemma IsCut.of_append {n : Nat} {front rest : List Char} (h : IsCut n (front ++ rest))
    (hle : utf8Length front ≤ n) : IsCut (n - utf8Length front) rest := by
  obtain ⟨a, b, hab, rfl⟩ := h
  rcases List.append_eq_append_iff.mp hab with ⟨e, rfl, rfl⟩ | ⟨e, rfl, rfl⟩
  · exact ⟨e, b, rfl, by rw [utf8Length_append, Nat.add_sub_cancel_left]⟩
  · -- the cut lies in `front`, so it can only be at its end
    rw [utf8Length_append] at hle ⊢
    exact ⟨[], rest, rfl, by rw [utf8Length_nil]; omega⟩

/-- A cut in the first part of a text is a cut of that part. -/
lemma IsCut.of_append_left {n : Nat} {front rest : List Char} (h : IsCut n (front ++ rest))
    (hle : n ≤ utf8Length front) : IsCut n front := by
  obtain ⟨a, b, hab, rfl⟩ := h
  rcases List.append_eq_append_iff.mp hab with ⟨e, rfl, rfl⟩ | ⟨e, rfl, rfl⟩
  · -- the cut lies behind `front`, so it can only be at its end
    rw [utf8Length_append] at hle ⊢
    exact ⟨front, [], (List.append_nil front).symm, by omega⟩
  · exact ⟨a, e, rfl, rfl⟩

/-- Two cuts, the first one not behind the second, cut a text in three. -/
lemma IsCut.between {m n : Nat} {text : List Char} (hm : IsCut m text) (hn : IsCut n text)
    (hle : m ≤ n) :
    ∃ front middle back, text = front ++ middle ++ back ∧ utf8Length front = m ∧
      utf8Length middle = n - m := by
  obtain ⟨front, rest, rfl, rfl⟩ := hm
  obtain ⟨middle, back, rfl, hlen⟩ := hn.of_append hle
  exact ⟨front, middle, back, by rw [List.append_assoc], rfl, hlen⟩

/-! ### Positions stand for cuts -/

lemma afterLines_suffix {n : Nat} {text rest : List Char} (h : afterLines n text = some rest) :
    ∃ front, text = front ++ rest := by
  fun_induction afterLines n text with
  | case1 cs =>
    cases h
    exact ⟨[], rfl⟩
  | case2 => cases h
  | case3 n cs ih =>
    obtain ⟨front, rfl⟩ := ih h
    exact ⟨'\n' :: front, rfl⟩
  | case4 n c cs _ ih =>
    obtain ⟨front, rfl⟩ := ih h
    exact ⟨c :: front, rfl⟩

/-- Behind the line at the front of a text stand carriage returns, and then its line feed. -/
lemma exists_eq_frontLine_append (cs : List Char) :
    ∃ returns, cs = frontLine cs ++ (returns ++ cs.dropWhile (· ≠ '\n')) ∧
      ∀ c ∈ returns, c = '\r' := by
  refine ⟨((cs.takeWhile (· ≠ '\n')).reverse.takeWhile (· = '\r')).reverse, ?_, fun c hc => ?_⟩
  · rw [← List.append_assoc, frontLine, trimReturns, ← eq_trimEnd_append,
      List.takeWhile_append_dropWhile]
  · simpa using List.mem_takeWhile_imp (List.mem_reverse.mp hc)

lemma columnOffset_isCut (column : Nat) (line : List Char) :
    IsCut (columnOffset column line) line := by
  fun_induction columnOffset column line with
  | case1 => exact ⟨[], [], rfl, rfl⟩
  | case2 c cs => exact ⟨[], c :: cs, rfl, rfl⟩
  | case3 n c cs ih =>
    obtain ⟨front, back, hcs, hlen⟩ := ih
    exact ⟨c :: front, back, by rw [hcs, List.cons_append], by rw [utf8Length_cons, hlen]⟩

/-- The offset of a position never falls inside a character. -/
lemma offset_isCut {text : List Char} {p : Position} {n : Nat} (h : offset text p = some n) :
    IsCut n text := by
  obtain ⟨rest, hrest, rfl⟩ := Option.map_eq_some_iff.mp h
  obtain ⟨lines, rfl⟩ := afterLines_suffix hrest
  obtain ⟨returns, hbehind, -⟩ := exists_eq_frontLine_append rest
  obtain ⟨front, back, hline, hlen⟩ := columnOffset_isCut p.character (frontLine rest)
  refine ⟨lines ++ front, back ++ (returns ++ rest.dropWhile (· ≠ '\n')), ?_, ?_⟩
  · conv_lhs => rw [hbehind, hline]
    simp
  · rw [utf8Length_append, utf8Length_append, hlen, Nat.add_sub_cancel]

end Outline
