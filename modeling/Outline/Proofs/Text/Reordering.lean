import Mathlib
import Outline.Proofs.Text.Substitution

/-!
# Edits in another order

Edits are applied in the order of their spans, wherever they stand in the list. Two edits with the
same span overlap, unless the span is empty: insertions at one place are made in the order of the
list. So edits may be listed in any order in which the insertions at each place keep theirs.
-/

namespace Outline

/-- The edit inserts its text at the byte offset `n`: its range is empty and stands there. -/
def TextEdit.insertsAt (text : List Char) (n : Nat) (e : TextEdit) : Bool :=
  offset text e.range.start = some n && offset text e.range.stop = some n

namespace Span

/-- The span is empty and stands at the byte offset `n`. -/
def isAt (n : Nat) (s : Span) : Bool := s.start = n && s.stop = n

lemma sameRank_iff {s t : Span} :
    sameRank le s t = true ↔ s.start = t.start ∧ s.stop = t.stop := by
  rw [sameRank, Bool.and_eq_true, le_iff, le_iff]
  omega

/-- Of spans that lie apart only one can be of a rank, unless that is the rank of empty spans. -/
lemma filter_sameRank_of_perm {spans spans' : List Span} (hperm : spans.Perm spans')
    (hfwd : ∀ s ∈ spans, s.start ≤ s.stop) (hapart : spans.Pairwise Apart) {a : Span}
    (ha : a.start ≠ a.stop) :
    spans.filter (sameRank le a) = spans'.filter (sameRank le a) := by
  have hrank {s : Span} (hs : s ∈ spans.filter (sameRank le a)) :
      a.start = s.start ∧ a.stop = s.stop ∧ s.start ≤ s.stop := by
    obtain ⟨hs, hrank⟩ := List.mem_filter.mp hs
    obtain ⟨hstart, hstop⟩ := sameRank_iff.mp hrank
    exact ⟨hstart, hstop, hfwd s hs⟩
  have hapart' := hapart.filter (sameRank le a)
  have hfilter := hperm.filter (sameRank le a)
  match hspans : spans.filter (sameRank le a) with
  | [] =>
    rw [hspans] at hfilter
    exact hfilter.nil_eq
  | [s] =>
    rw [hspans] at hfilter
    exact (List.perm_singleton.mp hfilter.symm).symm
  | s :: t :: rest =>
    rw [hspans] at hapart' hrank
    obtain ⟨hs, hs', hle⟩ := hrank List.mem_cons_self
    obtain ⟨ht, ht', -⟩ := hrank (List.mem_cons_of_mem s List.mem_cons_self)
    have hst : s.Apart t := List.rel_of_pairwise_cons hapart' List.mem_cons_self
    unfold Apart at hst
    omega

/-- Sorting takes no notice of the order of spans that lie apart, except for those at one place. -/
lemma mergeSort_of_perm {spans spans' : List Span} (hperm : spans.Perm spans')
    (hfwd : ∀ s ∈ spans, s.start ≤ s.stop) (hapart : spans.Pairwise Apart)
    (hplaces : ∀ n, spans.filter (isAt n) = spans'.filter (isAt n)) :
    spans.mergeSort le = spans'.mergeSort le := by
  apply mergeSort_eq_mergeSort le_trans le_total
  intro a
  by_cases ha : a.start = a.stop
  · have hrank : sameRank le a = isAt a.start := by
      funext s
      rw [Bool.eq_iff_iff, sameRank_iff, isAt, Bool.and_eq_true, decide_eq_true_eq,
        decide_eq_true_eq]
      omega
    rw [hrank]
    exact hplaces a.start
  · exact filter_sameRank_of_perm hperm hfwd hapart ha

end Span

/-! ### Spans of edits in another order -/

lemma TextEdit.insertsAt_eq (text : List Char) (n : Nat) (e : TextEdit) :
    e.insertsAt text n = (e.span? text).any (Span.isAt n) := by
  cases hstart : offset text e.range.start with
  | none => simp [insertsAt, span?, hstart]
  | some start =>
    cases hstop : offset text e.range.stop with
    | none => simp [insertsAt, span?, hstart, hstop]
    | some stop => simp [insertsAt, span?, hstart, hstop, Span.isAt]

/-- The spans at one place are those of the insertions there. -/
lemma map_span?_filter {text : List Char} {edits : List TextEdit} {spans : List Span}
    (h : edits.map (TextEdit.span? text) = spans.map some) (n : Nat) :
    (edits.filter (TextEdit.insertsAt text n)).map (TextEdit.span? text) =
      (spans.filter (Span.isAt n)).map some := by
  have hinserts : TextEdit.insertsAt text n =
      (fun s? : Option Span => s?.any (Span.isAt n)) ∘ TextEdit.span? text :=
    funext (TextEdit.insertsAt_eq text n)
  have hplaced : Span.isAt n = (fun s? : Option Span => s?.any (Span.isAt n)) ∘ some := rfl
  rw [hinserts, ← List.filter_map, h, List.filter_map, ← hplaced]

/-- Edits in another order have their spans in another order, and those at one place in the same. -/
lemma exists_spans_of_perm {text : List Char} {edits edits' : List TextEdit} {spans : List Span}
    (hperm : edits.Perm edits')
    (hinsertions : ∀ n, edits.filter (TextEdit.insertsAt text n) =
      edits'.filter (TextEdit.insertsAt text n))
    (h : edits.map (TextEdit.span? text) = spans.map some) :
    ∃ spans', edits'.map (TextEdit.span? text) = spans'.map some ∧ spans.Perm spans' ∧
      ∀ n, spans.filter (Span.isAt n) = spans'.filter (Span.isAt n) := by
  have hmapped := (hperm.map (TextEdit.span? text)).symm
  rw [h] at hmapped
  obtain ⟨spans', hspans', hperm'⟩ : Relation.Comp (fun l l' => l = l'.map some) List.Perm
      (edits'.map (TextEdit.span? text)) spans := by
    rwa [List.eq_map_comp_perm]
  refine ⟨spans', hspans', hperm'.symm, fun n => ?_⟩
  have hsome := map_span?_filter h n
  rw [hinsertions n, map_span?_filter hspans' n] at hsome
  exact (List.map_injective_iff.mpr (fun _ _ => Option.some.inj) hsome).symm

/-! ### The same change -/

lemma applyEdits_eq_ok_of_perm {text result : String} {edits edits' : List TextEdit}
    (hperm : edits.Perm edits')
    (hinsertions : ∀ n, edits.filter (TextEdit.insertsAt text.toList n) =
      edits'.filter (TextEdit.insertsAt text.toList n))
    (h : applyEdits text edits = .ok result) : applyEdits text edits' = .ok result := by
  obtain ⟨spans, hmap, hfwd, hsplice⟩ := applyEdits_eq_ok_iff.mp h
  have hfollow := ((Span.splice_isOk_iff (Span.mergeSort_forwards hfwd)).mp ⟨_, hsplice⟩).2
  have hapart := (Span.mergeSort_follow_iff hfwd).mp hfollow
  obtain ⟨spans', hmap', hspans, hplaces⟩ := exists_spans_of_perm hperm hinsertions hmap
  refine applyEdits_eq_ok_iff.mpr ⟨spans', hmap', fun s hs => hfwd s (hspans.mem_iff.mpr hs), ?_⟩
  rw [← Span.mergeSort_of_perm hspans hfwd hapart hplaces]
  exact hsplice

/-- Edits that are listed in another order, with the insertions at each place in the same order,
make the same change or fail alike. -/
theorem applyEdits_of_reordered (text : String) (edits edits' : List TextEdit)
    (hperm : edits.Perm edits')
    (hinsertions : ∀ n, edits.filter (TextEdit.insertsAt text.toList n) =
      edits'.filter (TextEdit.insertsAt text.toList n)) :
    (∃ result, applyEdits text edits = .ok result ∧ applyEdits text edits' = .ok result) ∨
      (∃ e, applyEdits text edits = .error e) ∧ ∃ e, applyEdits text edits' = .error e := by
  cases h : applyEdits text edits with
  | ok result => exact .inl ⟨result, rfl, applyEdits_eq_ok_of_perm hperm hinsertions h⟩
  | error e =>
    cases h' : applyEdits text edits' with
    | error e' => exact .inr ⟨⟨e, rfl⟩, e', rfl⟩
    | ok result =>
      have hback := applyEdits_eq_ok_of_perm hperm.symm (fun n => (hinsertions n).symm) h'
      rw [h] at hback
      cases hback

/-- Two insertions at the end of the first line, written with different columns, and a replacement
on the second line. -/
def spreadEdits : List TextEdit :=
  [⟨.point ⟨0, 2⟩, "x"⟩, ⟨.point ⟨0, 9⟩, "y"⟩, ⟨⟨⟨1, 0⟩, ⟨1, 2⟩⟩, "z"⟩]

/-- The replacement may as well come first. -/
theorem applyEdits_spreadEdits :
    spreadEdits.Perm (spreadEdits.rotate 2) ∧
      (∀ n, spreadEdits.filter (TextEdit.insertsAt "ab\r\ncd".toList n) =
        (spreadEdits.rotate 2).filter (TextEdit.insertsAt "ab\r\ncd".toList n)) ∧
      applyEdits "ab\r\ncd" (spreadEdits.rotate 2) = .ok "abxy\r\nz" ∧
      ((∃ result, applyEdits "ab\r\ncd" spreadEdits = .ok result ∧
          applyEdits "ab\r\ncd" (spreadEdits.rotate 2) = .ok result) ∨
        (∃ e, applyEdits "ab\r\ncd" spreadEdits = .error e) ∧
          ∃ e, applyEdits "ab\r\ncd" (spreadEdits.rotate 2) = .error e) := by
  have hperm : spreadEdits.Perm (spreadEdits.rotate 2) := (List.rotate_perm spreadEdits 2).symm
  have hinsertions (n : Nat) : spreadEdits.filter (TextEdit.insertsAt "ab\r\ncd".toList n) =
      (spreadEdits.rotate 2).filter (TextEdit.insertsAt "ab\r\ncd".toList n) := by
    have hstart : offset "ab\r\ncd".toList ⟨1, 0⟩ = some 4 := by decide
    have hstop : offset "ab\r\ncd".toList ⟨1, 2⟩ = some 6 := by decide
    have hlast : TextEdit.insertsAt "ab\r\ncd".toList n ⟨⟨⟨1, 0⟩, ⟨1, 2⟩⟩, "z"⟩ = false := by
      rw [TextEdit.insertsAt, hstart, hstop, ← Bool.not_eq_true, Bool.and_eq_true,
        decide_eq_true_eq, decide_eq_true_eq, Option.some.injEq, Option.some.injEq]
      omega
    change List.filter _ [_, _, _] = List.filter _ [_, _, _]
    simp only [List.filter_cons, List.filter_nil, hlast, Bool.false_eq_true, if_false]
  exact ⟨hperm, hinsertions, by cbv,
    applyEdits_of_reordered "ab\r\ncd" spreadEdits (spreadEdits.rotate 2) hperm hinsertions⟩

end Outline
