import Mathlib.Data.List.TakeWhile
import Outline.Text.Split

/-!
# Trimming lists

What is trimmed off a list satisfies the predicate, and what is left does not begin or end in it.
So trimming is undone by putting back what was taken off, and a list that needs no trimming comes
out again when it is padded.
-/

namespace Outline

variable {α : Type} {p : α → Bool} {as core front back : List α}

lemma head?_dropWhile_ne {a : α} (as : List α) (ha : p a = true) :
    (as.dropWhile p).head? ≠ some a := by
  intro hhead
  have hnot := List.head?_dropWhile_not p as
  rw [hhead] at hnot
  exact Bool.false_ne_true (hnot.symm.trans ha)

/-! ### At the end -/

lemma eq_trimEnd_append (p : α → Bool) (as : List α) :
    as = trimEnd p as ++ (as.reverse.takeWhile p).reverse := by
  rw [trimEnd, ← List.reverse_append, List.takeWhile_append_dropWhile, List.reverse_reverse]

lemma getLast?_trimEnd_ne {a : α} (as : List α) (ha : p a = true) :
    (trimEnd p as).getLast? ≠ some a := by
  rw [trimEnd, List.getLast?_reverse]
  exact head?_dropWhile_ne as.reverse ha

/-- Trimming takes off just what is behind a list that needs no trimming. -/
lemma trimEnd_append (hback : ∀ a ∈ back, p a = true)
    (hlast : ∀ a, p a = true → core.getLast? ≠ some a) : trimEnd p (core ++ back) = core := by
  have hback' : ∀ a ∈ back.reverse, p a = true := fun a ha => hback a (List.mem_reverse.mp ha)
  rw [trimEnd, List.reverse_append, List.dropWhile_append_of_pos hback']
  cases hcore : core.reverse with
  | nil => simpa using hcore.symm
  | cons a rest =>
    have ha : ¬ p a = true := by
      intro ha
      apply hlast a ha
      rw [List.getLast?_eq_head?_reverse, hcore, List.head?_cons]
    rw [List.dropWhile_cons_of_neg ha, ← hcore, List.reverse_reverse]

/-! ### At both ends -/

lemma exists_of_trimBy (p : α → Bool) (as : List α) :
    ∃ front back, as = front ++ trimBy p as ++ back ∧ (∀ a ∈ front, p a = true) ∧
      ∀ a ∈ back, p a = true := by
  refine ⟨as.takeWhile p, ((as.dropWhile p).reverse.takeWhile p).reverse, ?_,
    fun a ha => List.mem_takeWhile_imp ha,
    fun a ha => List.mem_takeWhile_imp (List.mem_reverse.mp ha)⟩
  rw [trimBy, List.append_assoc, ← eq_trimEnd_append, List.takeWhile_append_dropWhile]

lemma getLast?_trimBy_ne {a : α} (ha : p a = true) : (trimBy p as).getLast? ≠ some a :=
  getLast?_trimEnd_ne _ ha

lemma head?_trimBy_ne {a : α} (ha : p a = true) : (trimBy p as).head? ≠ some a := by
  intro hhead
  refine head?_dropWhile_ne as ha ?_
  rw [eq_trimEnd_append p (as.dropWhile p), List.head?_append]
  exact Option.or_eq_some_iff.mpr (.inl hhead)

/-- Trimming takes off just what is around a list that needs no trimming. -/
lemma trimBy_append (hfront : ∀ a ∈ front, p a = true) (hback : ∀ a ∈ back, p a = true)
    (hhead : ∀ a, p a = true → core.head? ≠ some a)
    (hlast : ∀ a, p a = true → core.getLast? ≠ some a) :
    trimBy p (front ++ core ++ back) = core := by
  rw [trimBy, List.append_assoc, List.dropWhile_append_of_pos hfront]
  cases core with
  | nil => simp [trimEnd, List.dropWhile_eq_nil_iff.mpr hback]
  | cons a core =>
    have ha : ¬ p a = true := fun ha => hhead a ha rfl
    rw [List.cons_append, List.dropWhile_cons_of_neg ha, ← List.cons_append,
      trimEnd_append hback hlast]

end Outline
