import Mathlib.Data.List.Basic

/-!
# Stable sorting

A stable sort is told apart from the others by the places the elements had before: sorting the
elements together with their places gives the same list, and elements of equal rank stand in the
order of their places. The places are distinct, so there is only one such order.
-/

namespace Outline

variable {α : Type}

/-- `a` comes before `b` in a stable sort: it has the smaller rank, or the same rank and the earlier
place. -/
def StablyBefore (le : α → α → Bool) (a b : α × Nat) : Prop :=
  le a.1 b.1 = true ∧ (le b.1 a.1 = true → a.2 < b.2)

lemma stablyBefore_of_zipIdxLE {le : α → α → Bool} {a b : α × Nat}
    (h : List.zipIdxLE le a b = true) (hne : a.2 ≠ b.2) : StablyBefore le a b := by
  unfold List.zipIdxLE at h
  by_cases hab : le a.1 b.1 = true
  · refine ⟨hab, fun hba => ?_⟩
    rw [if_pos hab, if_pos hba, decide_eq_true_eq] at h
    omega
  · rw [if_neg hab] at h
    cases h

/-- The elements of a list with their places, in the order of the stable sort. -/
lemma exists_stable_order {le : α → α → Bool} (trans : ∀ a b c, le a b → le b c → le a c)
    (total : ∀ a b, le a b || le b a) (l : List α) :
    ∃ order : List (α × Nat), order.Perm l.zipIdx ∧ order.map Prod.fst = l.mergeSort le ∧
      order.Pairwise (StablyBefore le) := by
  refine ⟨l.zipIdx.mergeSort (List.zipIdxLE le), List.mergeSort_perm _ _,
    List.mergeSort_zipIdx, ?_⟩
  have sorted : (l.zipIdx.mergeSort (List.zipIdxLE le)).Pairwise
      fun a b => List.zipIdxLE le a b = true :=
    List.pairwise_mergeSort (List.zipIdxLE_trans trans) (List.zipIdxLE_total total) l.zipIdx
  have places : ((l.zipIdx.mergeSort (List.zipIdxLE le)).map Prod.snd).Nodup := by
    rw [((List.mergeSort_perm _ _).map Prod.snd).nodup_iff, List.zipIdx_map_snd]
    exact List.nodup_range'
  have apart := List.pairwise_map.mp places
  exact (sorted.and apart).imp fun ⟨hle, hne⟩ => stablyBefore_of_zipIdxLE hle hne

/-! ### Elements of equal rank -/

/-- Both elements have the same rank. -/
def sameRank (le : α → α → Bool) (a b : α) : Bool := le a b && le b a

section SameRank

variable {le : α → α → Bool} (trans : ∀ a b c, le a b → le b c → le a c)
  (total : ∀ a b, le a b || le b a)
include trans total

/-- Sorting leaves the elements of one rank in their order. -/
lemma filter_sameRank_mergeSort (a : α) (l : List α) :
    (l.mergeSort le).filter (sameRank le a) = l.filter (sameRank le a) := by
  have hsorted : (l.filter (sameRank le a)).Pairwise fun b c => le b c = true := by
    rw [List.pairwise_filter]
    apply List.pairwise_of_forall
    intro b c hb hc
    rw [sameRank, Bool.and_eq_true] at hb hc
    exact trans b a c hb.2 hc.1
  have hsub := (List.sublist_mergeSort trans total hsorted List.filter_sublist).filter
    (sameRank le a)
  simp only [List.filter_filter, Bool.and_self] at hsub
  exact (hsub.eq_of_length ((List.mergeSort_perm l le).filter _).length_eq.symm).symm

omit trans in
/-- A sorted list is given by its elements of each rank, in their order. -/
lemma eq_of_filter_sameRank {l l' : List α} (hl : l.Pairwise fun a b => le a b = true)
    (hl' : l'.Pairwise fun a b => le a b = true)
    (h : ∀ a, l.filter (sameRank le a) = l'.filter (sameRank le a)) : l = l' := by
  have hrefl (a : α) : sameRank le a a = true := by simpa [sameRank] using total a a
  have hmem {l l' : List α} {a : α} (h : ∀ a, l.filter (sameRank le a) = l'.filter (sameRank le a))
      (ha : a ∈ l) : a ∈ l' := by
    have hfilter : a ∈ l.filter (sameRank le a) := List.mem_filter.mpr ⟨ha, hrefl a⟩
    rw [h a] at hfilter
    exact List.mem_of_mem_filter hfilter
  have hhead {a b : α} {l : List α} (hsorted : (b :: l).Pairwise fun a b => le a b = true)
      (ha : a ∈ b :: l) : le b a = true := by
    rcases List.mem_cons.mp ha with rfl | ha
    · simpa [sameRank] using hrefl a
    · exact List.rel_of_pairwise_cons hsorted ha
  induction l generalizing l' with
  | nil =>
    cases l' with
    | nil => rfl
    | cons b l' => exact absurd (hmem (fun a => (h a).symm) List.mem_cons_self) List.not_mem_nil
  | cons a l ih =>
    cases l' with
    | nil => exact absurd (hmem h List.mem_cons_self) List.not_mem_nil
    | cons b l' =>
      -- each of the two first elements is among the others, so they have the same rank
      have hba : le b a = true := hhead hl' (hmem h List.mem_cons_self)
      have hab : le a b = true := hhead hl (hmem (fun a => (h a).symm) List.mem_cons_self)
      have hfirst := h a
      rw [List.filter_cons_of_pos (hrefl a), List.filter_cons_of_pos (by simp [sameRank, hab, hba]),
        List.cons_eq_cons] at hfirst
      obtain ⟨rfl, -⟩ := hfirst
      rw [ih hl.of_cons hl'.of_cons fun c => ?_]
      have hc := h c
      rw [List.filter_cons, List.filter_cons] at hc
      split at hc
      · exact (List.cons_eq_cons.mp hc).2
      · exact hc

/-- Lists that agree on the order of the elements of each rank are sorted alike. -/
lemma mergeSort_eq_mergeSort {l l' : List α}
    (h : ∀ a, l.filter (sameRank le a) = l'.filter (sameRank le a)) :
    l.mergeSort le = l'.mergeSort le := by
  apply eq_of_filter_sameRank total (List.pairwise_mergeSort trans total l)
    (List.pairwise_mergeSort trans total l')
  intro a
  rw [filter_sameRank_mergeSort trans total, filter_sameRank_mergeSort trans total, h a]

end SameRank

end Outline
