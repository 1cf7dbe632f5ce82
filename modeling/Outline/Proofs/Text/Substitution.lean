import Mathlib.Data.List.Basic
import Outline.Proofs.Outcome
import Outline.Proofs.StableOrder
import Outline.Proofs.Text.Cuts
import Outline.Text.Edit

/-!
# Edits as one substitution

A list of edits is applied in one pass over the text, with the spans in order. This module compares
that pass with two plainer descriptions: `Spliced`, which says which parts of the text are kept and
which are replaced, and replacing the spans one at a time from the last to the first. The pass
succeeds exactly when all spans exist, run forwards and lie apart.
-/

namespace Outline

/-! ### Spans -/

/-- The bytes an edit names, in whatever order its ends stand. -/
def TextEdit.span? (text : List Char) (e : TextEdit) : Option Span := do
  return ⟨← offset text e.range.start, ← offset text e.range.stop, e.newText.toList⟩

namespace Span

/-- Neither span starts before the other one ends. -/
def Apart (s t : Span) : Prop := s.stop ≤ t.start ∨ t.stop ≤ s.start

/-- Order of replacement of spans with their places in the list: by start, then by end, then by
place. -/
def Precedes (s t : Span × Nat) : Prop :=
  s.1.start < t.1.start ∨ s.1.start = t.1.start ∧
    (s.1.stop < t.1.stop ∨ s.1.stop = t.1.stop ∧ s.2 < t.2)

/-- Replaces one span of a text. -/
def replaceIn (s : Span) (text : List Char) : List Char :=
  takeBytes s.start text ++ s.newText ++ dropBytes s.stop text

lemma Apart.symm {s t : Span} (h : s.Apart t) : t.Apart s := Or.symm h

lemma le_iff {s t : Span} :
    s.le t = true ↔ s.start < t.start ∨ s.start = t.start ∧ s.stop ≤ t.stop := by
  simp [le]

lemma le_trans (a b c : Span) (hab : a.le b = true) (hbc : b.le c = true) : a.le c = true := by
  rw [le_iff] at *
  omega

lemma le_total (a b : Span) : (a.le b || b.le a) = true := by
  rw [Bool.or_eq_true, le_iff, le_iff]
  omega

lemma precedes_of_stablyBefore {s t : Span × Nat} (h : StablyBefore le s t) : Precedes s t := by
  obtain ⟨hle, hlt⟩ := h
  rw [le_iff] at hle hlt
  unfold Precedes
  omega

/-- Ordered spans that run forwards and lie apart follow each other. -/
lemma stop_le_start_of_le {s t : Span} (hle : s.le t = true) (ht : t.start ≤ t.stop)
    (h : s.Apart t) : s.stop ≤ t.start := by
  rw [le_iff] at hle
  unfold Apart at h
  omega

end Span

/-! ### The parts of a text that are kept -/

/-- The text `old` from byte `cursor` on becomes `new` when ordered spans are replaced: what lies
between the spans is kept. -/
inductive Spliced : (cursor : Nat) → (old : List Char) → List Span → (new : List Char) → Prop where
  | done (cursor : Nat) (rest : List Char) : Spliced cursor rest [] rest
  | replace {cursor : Nat} {s : Span} {ss : List Span} {old new : List Char}
      (kept removed : List Char) (hstart : s.start = cursor + utf8Length kept)
      (hstop : s.stop = s.start + utf8Length removed) (h : Spliced s.stop old ss new) :
      Spliced cursor (kept ++ removed ++ old) (s :: ss) (kept ++ s.newText ++ new)

lemma Span.splice_cons_of_le {cursor : Nat} {rest : List Char} {s : Span} {ss : List Span}
    (h : cursor ≤ s.start) :
    splice cursor rest (s :: ss) =
      (splice s.stop (dropBytes (s.stop - cursor) rest) ss).map
        fun done => takeBytes (s.start - cursor) rest ++ s.newText ++ done := by
  rw [splice, if_neg (by omega)]
  cases splice s.stop (dropBytes (s.stop - cursor) rest) ss <;> rfl

lemma Span.splice_cons_of_lt {cursor : Nat} {rest : List Char} {s : Span} {ss : List Span}
    (h : s.start < cursor) : splice cursor rest (s :: ss) = .error (.overlap s.start) := by
  rw [splice, if_pos h]
  rfl

/-- A span that starts behind the cursor cuts the rest of the text in three. -/
lemma Span.exists_parts {front rest : List Char} {s : Span} (hle : s.start ≤ s.stop)
    (hstart : IsCut s.start (front ++ rest)) (hstop : IsCut s.stop (front ++ rest))
    (hfront : utf8Length front ≤ s.start) :
    ∃ kept removed back, rest = kept ++ removed ++ back ∧
      s.start = utf8Length front + utf8Length kept ∧ s.stop = s.start + utf8Length removed := by
  obtain ⟨kept, removed, back, rfl, hkept, hremoved⟩ :=
    (hstart.of_append hfront).between (hstop.of_append (by omega)) (by omega)
  exact ⟨kept, removed, back, rfl, by omega, by omega⟩

lemma Span.splice_cons_append {cursor : Nat} {kept removed back : List Char} {s : Span}
    {ss : List Span} (hstart : s.start = cursor + utf8Length kept)
    (hstop : s.stop = s.start + utf8Length removed) :
    splice cursor (kept ++ removed ++ back) (s :: ss) =
      (splice s.stop back ss).map fun done => kept ++ s.newText ++ done := by
  have hkept : s.start - cursor = utf8Length kept := by omega
  have hremoved : s.stop - cursor = utf8Length (kept ++ removed) := by
    rw [utf8Length_append]; omega
  rw [splice_cons_of_le (by omega), hremoved, dropBytes_append, hkept, List.append_assoc,
    takeBytes_append]

namespace Spliced

/-- The pass gives what the description says. -/
lemma splice_eq {cursor : Nat} {old new : List Char} {ss : List Span}
    (h : Spliced cursor old ss new) : Span.splice cursor old ss = .ok new := by
  induction h with
  | done cursor rest => rfl
  | replace kept removed hstart hstop _ ih =>
    rw [Span.splice_cons_append hstart hstop, ih]
    rfl

/-- What the pass gives is described, when all spans start and end between characters. -/
lemma of_splice (front : List Char) {rest out : List Char} {ss : List Span}
    (hcut : ∀ s ∈ ss, s.start ≤ s.stop ∧ IsCut s.start (front ++ rest) ∧
      IsCut s.stop (front ++ rest))
    (h : Span.splice (utf8Length front) rest ss = .ok out) :
    Spliced (utf8Length front) rest ss out := by
  induction ss generalizing front rest out with
  | nil =>
    cases h
    exact .done _ _
  | cons s ss ih =>
    obtain ⟨hle, hstart, hstop⟩ := hcut s List.mem_cons_self
    by_cases hlt : s.start < utf8Length front
    · rw [Span.splice_cons_of_lt hlt] at h
      cases h
    · have hfront : utf8Length front ≤ s.start := Nat.le_of_not_lt hlt
      obtain ⟨kept, removed, old, rfl, hkept, hremoved⟩ :=
        Span.exists_parts hle hstart hstop hfront
      have hthrough : utf8Length (front ++ (kept ++ removed)) = s.stop := by
        rw [utf8Length_append, utf8Length_append]; omega
      rw [Span.splice_cons_append hkept hremoved, map_eq_ok_iff] at h
      obtain ⟨new, hrest, rfl⟩ := h
      -- the cursor moves on to the end of the span, behind `front`, `kept` and `removed`
      refine .replace kept removed hkept hremoved ?_
      rw [← hthrough] at hrest ⊢
      refine ih _ (fun t ht => ?_) hrest
      simpa only [List.append_assoc] using hcut t (List.mem_cons_of_mem s ht)

/-- Replacing the spans one at a time, from the last to the first, gives the same. -/
lemma foldr_replaceIn (front : List Char) {old new : List Char} {ss : List Span}
    (h : Spliced (utf8Length front) old ss new) :
    ss.foldr Span.replaceIn (front ++ old) = front ++ new := by
  generalize hcursor : utf8Length front = cursor at h
  induction h generalizing front with
  | done cursor rest => rfl
  | @replace cursor s ss old new kept removed hstart hstop _ ih =>
    have hkept : s.start = utf8Length (front ++ kept) := by
      rw [utf8Length_append]; omega
    have hremoved : s.stop = utf8Length (front ++ kept ++ removed) := by
      rw [utf8Length_append]; omega
    have hlater := ih _ hremoved.symm
    calc (s :: ss).foldr Span.replaceIn (front ++ (kept ++ removed ++ old))
        = s.replaceIn (ss.foldr Span.replaceIn (front ++ kept ++ removed ++ old)) := by
          rw [List.foldr_cons, ← List.append_assoc, ← List.append_assoc]
      _ = s.replaceIn (front ++ kept ++ removed ++ new) := by rw [hlater]
      _ = front ++ kept ++ s.newText ++ new := by
          rw [Span.replaceIn, hremoved, dropBytes_append, hkept, List.append_assoc (front ++ kept),
            takeBytes_append]
      _ = front ++ (kept ++ s.newText ++ new) := by simp only [List.append_assoc]

end Spliced

/-! ### When the pass succeeds -/

lemma Span.splice_isOk_iff {cursor : Nat} {rest : List Char} {ss : List Span}
    (hfwd : ∀ s ∈ ss, s.start ≤ s.stop) :
    (∃ out, splice cursor rest ss = .ok out) ↔
      (∀ s ∈ ss, cursor ≤ s.start) ∧ ss.Pairwise fun s t => s.stop ≤ t.start := by
  induction ss generalizing cursor rest with
  | nil => simp [splice]
  | cons s ss ih =>
    have hs := hfwd s List.mem_cons_self
    have ih := @ih s.stop (dropBytes (s.stop - cursor) rest)
      fun t ht => hfwd t (List.mem_cons_of_mem s ht)
    by_cases hlt : s.start < cursor
    · rw [splice_cons_of_lt hlt]
      constructor
      · rintro ⟨out, h⟩
        cases h
      · rintro ⟨h, -⟩
        have := h s List.mem_cons_self
        omega
    · have hcursor : cursor ≤ s.start := Nat.le_of_not_lt hlt
      rw [splice_cons_of_le hcursor, List.pairwise_cons]
      constructor
      · rintro ⟨out, h⟩
        cases hrest : splice s.stop (dropBytes (s.stop - cursor) rest) ss with
        | error e =>
          rw [hrest] at h
          cases h
        | ok done =>
          obtain ⟨hle, hpair⟩ := ih.mp ⟨done, hrest⟩
          refine ⟨fun t ht => ?_, hle, hpair⟩
          rcases List.mem_cons.mp ht with rfl | ht
          · exact hcursor
          · have := hle t ht
            omega
      · rintro ⟨-, hle, hpair⟩
        obtain ⟨done, hrest⟩ := ih.mpr ⟨hle, hpair⟩
        exact ⟨_, by rw [hrest]; rfl⟩

lemma Span.mergeSort_forwards {spans : List Span} (hfwd : ∀ s ∈ spans, s.start ≤ s.stop) :
    ∀ s ∈ spans.mergeSort le, s.start ≤ s.stop :=
  fun s hs => hfwd s (List.mem_mergeSort.mp hs)

/-- In order, spans follow each other exactly when they lie apart in any order. -/
lemma Span.mergeSort_follow_iff {spans : List Span} (hfwd : ∀ s ∈ spans, s.start ≤ s.stop) :
    ((spans.mergeSort le).Pairwise fun s t => s.stop ≤ t.start) ↔ spans.Pairwise Apart := by
  rw [← (List.mergeSort_perm spans le).pairwise_iff Apart.symm]
  constructor
  · exact fun h => h.imp Or.inl
  · intro h
    have hsorted := List.pairwise_mergeSort le_trans le_total spans
    refine (hsorted.and h).imp_of_mem fun _ ht hst => ?_
    exact stop_le_start_of_le hst.1 (mergeSort_forwards hfwd _ ht) hst.2

/-! ### Resolving edits -/

lemma TextEdit.resolve_eq_ok_iff {text : List Char} {e : TextEdit} {s : Span} :
    e.resolve text = .ok s ↔ e.span? text = some s ∧ s.start ≤ s.stop := by
  unfold resolve span? resolvePosition
  cases hstart : offset text e.range.start with
  | none => simp [bind, Except.bind]
  | some start =>
    cases hstop : offset text e.range.stop with
    | none => simp [bind, Except.bind]
    | some stop =>
      by_cases hlt : stop < start
      · simp only [bind, Except.bind, if_pos hlt, throw, throwThe, MonadExceptOf.throw,
          Option.bind_some, pure, Option.some.injEq, reduceCtorEq, false_iff, not_and]
        rintro rfl
        exact Nat.not_le_of_lt hlt
      · simp only [bind, Except.bind, if_neg hlt, pure, Except.pure, Option.bind_some,
          Except.ok.injEq, Option.some.injEq]
        constructor
        · rintro rfl
          exact ⟨rfl, Nat.le_of_not_lt hlt⟩
        · exact And.left

/-- All edits are resolved when all their spans exist and run forwards. -/
lemma map_resolve_eq_iff {text : List Char} {edits : List TextEdit} {spans : List Span} :
    edits.map (TextEdit.resolve text) = spans.map .ok ↔
      edits.map (TextEdit.span? text) = spans.map some ∧ ∀ s ∈ spans, s.start ≤ s.stop := by
  induction edits generalizing spans with
  | nil => cases spans <;> simp
  | cons e edits ih =>
    cases spans with
    | nil => simp
    | cons s spans =>
      rw [List.map_cons, List.map_cons, List.map_cons, List.map_cons, List.cons_eq_cons,
        List.cons_eq_cons, List.forall_mem_cons, and_and_and_comm, TextEdit.resolve_eq_ok_iff, ih]

/-- The spans of edits start and end between characters. -/
lemma isCut_of_map_span? {text : List Char} {edits : List TextEdit} {spans : List Span}
    (h : edits.map (TextEdit.span? text) = spans.map some) {s : Span} (hs : s ∈ spans) :
    IsCut s.start text ∧ IsCut s.stop text := by
  have hmem : some s ∈ edits.map (TextEdit.span? text) := h ▸ List.mem_map_of_mem hs
  obtain ⟨e, -, he⟩ := List.mem_map.mp hmem
  unfold TextEdit.span? at he
  cases hstart : offset text e.range.start with
  | none => simp [hstart] at he
  | some start =>
    cases hstop : offset text e.range.stop with
    | none => simp [hstart, hstop] at he
    | some stop =>
      simp only [hstart, hstop, Option.pure_def, Option.bind_eq_bind, Option.bind_some,
        Option.some.injEq] at he
      subst he
      exact ⟨offset_isCut hstart, offset_isCut hstop⟩

/-! ### The substitution -/

lemma applyEdits_eq_ok_iff {text result : String} {edits : List TextEdit} :
    applyEdits text edits = .ok result ↔
      ∃ spans : List Span, edits.map (TextEdit.span? text.toList) = spans.map some ∧
        (∀ s ∈ spans, s.start ≤ s.stop) ∧
        Span.splice 0 text.toList (spans.mergeSort Span.le) = .ok result.toList := by
  simp only [applyEdits, applyEditsTo, map_eq_ok_iff, bind_eq_ok_iff, mapM_eq_ok_iff,
    map_resolve_eq_iff, and_assoc]
  constructor
  · rintro ⟨out, ⟨spans, hmap, hfwd, h⟩, rfl⟩
    exact ⟨spans, hmap, hfwd, by rw [String.toList_ofList, h]⟩
  · rintro ⟨spans, hmap, hfwd, h⟩
    exact ⟨result.toList, ⟨spans, hmap, hfwd, h⟩, String.ofList_toList⟩

/-- Edits can be applied exactly when all their spans exist, run forwards and lie apart. The result
then is the text with the spans replaced one at a time, from the last to the first; what lies
between the spans is kept. -/
theorem applyEdits_substitutes (text : String) (edits : List TextEdit) :
    ((∃ result, applyEdits text edits = .ok result) ↔
      ∃ spans : List Span, edits.map (TextEdit.span? text.toList) = spans.map some ∧
        (∀ s ∈ spans, s.start ≤ s.stop) ∧ spans.Pairwise Span.Apart) ∧
    ∀ result, applyEdits text edits = .ok result →
      ∃ (spans : List Span) (order : List (Span × Nat)),
        edits.map (TextEdit.span? text.toList) = spans.map some ∧
        order.Perm spans.zipIdx ∧ order.Pairwise Span.Precedes ∧
        result.toList = (order.map Prod.fst).foldr Span.replaceIn text.toList ∧
        Spliced 0 text.toList (order.map Prod.fst) result.toList := by
  constructor
  · constructor
    · rintro ⟨result, h⟩
      obtain ⟨spans, hmap, hfwd, hsplice⟩ := applyEdits_eq_ok_iff.mp h
      refine ⟨spans, hmap, hfwd, (Span.mergeSort_follow_iff hfwd).mp ?_⟩
      exact ((Span.splice_isOk_iff (Span.mergeSort_forwards hfwd)).mp ⟨_, hsplice⟩).2
    · rintro ⟨spans, hmap, hfwd, hapart⟩
      obtain ⟨out, hsplice⟩ := (Span.splice_isOk_iff (Span.mergeSort_forwards hfwd)).mpr
        ⟨fun s _ => Nat.zero_le s.start, (Span.mergeSort_follow_iff hfwd).mpr hapart⟩
      exact ⟨String.ofList out, applyEdits_eq_ok_iff.mpr
        ⟨spans, hmap, hfwd, by rw [String.toList_ofList, hsplice]⟩⟩
  · intro result h
    obtain ⟨spans, hmap, hfwd, hsplice⟩ := applyEdits_eq_ok_iff.mp h
    obtain ⟨order, hperm, hsorted, hbefore⟩ := exists_stable_order Span.le_trans Span.le_total spans
    have hspliced : Spliced 0 text.toList (order.map Prod.fst) result.toList := by
      rw [hsorted]
      refine Spliced.of_splice [] (fun s hs => ?_) hsplice
      have hs := List.mem_mergeSort.mp hs
      exact ⟨hfwd s hs, isCut_of_map_span? hmap hs⟩
    refine ⟨spans, order, hmap, hperm, hbefore.imp Span.precedes_of_stablyBefore, ?_, hspliced⟩
    exact (Spliced.foldr_replaceIn [] hspliced).symm

end Outline
