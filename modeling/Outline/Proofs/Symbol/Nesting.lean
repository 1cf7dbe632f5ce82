import Mathlib
import Outline.Proofs.StableOrder
import Outline.Proofs.Symbol.Ties

/-!
# Nesting by ranges

A flat answer is nested in one pass that keeps a stack of ranges and never looks again at a range
that it dropped. The plain definition asks for the last symbol, in the order of the ranges, among
all symbols whose range strictly contains the given one. The two agree because a symbol that makes
another one leave the stack contains everything that the other would have contained later on.
-/

namespace Outline

/-! ### Ranges in order -/

/-- `p` stands before `q` in reading order. -/
def Position.Before (p q : Position) : Prop :=
  p.line < q.line ∨ p.line = q.line ∧ p.character < q.character

lemma Position.le_trans {p q t : Position} (hpq : p.le q = true) (hqt : q.le t = true) :
    p.le t = true := by
  rw [le_iff] at *
  omega

lemma Position.le_total (p q : Position) : p.le q = true ∨ q.le p = true := by
  rw [le_iff, le_iff]
  omega

lemma Position.eq_iff {p q : Position} :
    p = q ↔ p.line = q.line ∧ p.character = q.character := by
  cases p
  cases q
  simp

lemma Range.eq_iff {r q : Range} : r = q ↔ r.start = q.start ∧ r.stop = q.stop := by
  cases r
  cases q
  simp

lemma Range.strictlyContains_iff {r q : Range} :
    r.strictlyContains q = true ↔
      r.start.le q.start = true ∧ q.stop.le r.stop = true ∧ r ≠ q := by
  simp [Range.strictlyContains, and_assoc]

/-- `r` does not come after `q`: it starts first, or they start together and `r` ends last. -/
def Range.leads (r q : Range) : Bool :=
  if r.start = q.start then q.stop.le r.stop else r.start.le q.start

lemma Range.leads_iff {r q : Range} :
    r.leads q = true ↔ r.start.Before q.start ∨ r.start = q.start ∧ q.stop.le r.stop = true := by
  unfold leads
  by_cases h : r.start = q.start
  · rw [if_pos h]
    simp [h, Position.Before]
  · rw [if_neg h, Position.le_iff]
    simp only [h, false_and, or_false, Position.Before]
    rw [Position.eq_iff] at h
    omega

lemma Range.leads_trans {r q t : Range} (hrq : r.leads q = true) (hqt : q.leads t = true) :
    r.leads t = true := by
  simp only [leads_iff, Position.Before, Position.eq_iff, Position.le_iff] at *
  omega

lemma Range.leads_total (r q : Range) : r.leads q = true ∨ q.leads r = true := by
  simp only [leads_iff, Position.Before, Position.eq_iff, Position.le_iff]
  omega

/-- A range stands in front of all ranges that it strictly contains. -/
lemma Range.not_leads_of_strictlyContains {r q : Range} (h : r.strictlyContains q = true) :
    ¬ q.leads r = true := by
  simp only [strictlyContains_iff, leads_iff, ne_eq, eq_iff, Position.Before, Position.eq_iff,
    Position.le_iff] at *
  omega

lemma Range.start_le_of_leads {r q : Range} (h : r.leads q = true) :
    r.start.le q.start = true := by
  simp only [leads_iff, Position.Before, Position.eq_iff] at h
  rw [Position.le_iff]
  omega

/-- When `q` makes `r` leave the stack, `q` contains what `r` would have contained later on. -/
lemma Range.strictlyContains_of_dropped {r q t : Range} (hrq : r.leads q = true)
    (hqt : q.leads t = true) (hdropped : ¬ r.strictlyContains q = true)
    (h : r.strictlyContains t = true) : q.strictlyContains t = true := by
  by_cases hsame : r = q
  · exact hsame ▸ h
  · -- `r` starts first and does not contain `q`, so `q` ends behind it
    have hlonger : ¬ q.stop.le r.stop = true := fun hle =>
      hdropped (strictlyContains_iff.mpr ⟨start_le_of_leads hrq, hle, hsame⟩)
    obtain ⟨-, hstop, -⟩ := strictlyContains_iff.mp h
    have hends := (Position.le_total q.stop r.stop).resolve_left hlonger
    refine strictlyContains_iff.mpr ⟨start_le_of_leads hqt, Position.le_trans hstop hends, ?_⟩
    rintro rfl
    exact hlonger hstop

/-! ### Symbols in order -/

namespace SymbolHead

/-- The range of `a` strictly contains the range of `b`. -/
def Contains (a b : SymbolHead) : Prop :=
  ∃ r q, a.range = some r ∧ b.range = some q ∧ r.strictlyContains q = true

/-- Order of the symbols of a flat answer with their places in the answer: by start, then the longer
one first, then by place; those without a range stand behind. -/
def Precedes (a b : SymbolHead × Nat) : Prop :=
  match a.1.range, b.1.range with
  | some r, some q =>
    r.start.Before q.start ∨ r.start = q.start ∧
      (q.stop.Before r.stop ∨ q.stop = r.stop ∧ a.2 < b.2)
  | some _, none   => True
  | none,   some _ => False
  | none,   none   => a.2 < b.2

lemma le_iff {a b : SymbolHead} :
    a.le b = true ↔ b.range = none ∨
      ∃ r q, a.range = some r ∧ b.range = some q ∧ r.leads q = true := by
  unfold le
  cases a.range <;> cases b.range <;> simp [Range.leads]

lemma le_some_iff {a b : SymbolHead} {r q : Range} (ha : a.range = some r)
    (hb : b.range = some q) : a.le b = true ↔ r.leads q = true := by
  simp [le, ha, hb, Range.leads]

lemma le_trans (a b c : SymbolHead) (hab : a.le b = true) (hbc : b.le c = true) :
    a.le c = true := by
  rw [le_iff] at *
  rcases hbc with hc | ⟨q, t, hq, ht, hqt⟩
  · exact Or.inl hc
  · rcases hab with hb | ⟨r, q', hr, hq', hrq⟩
    · rw [hb] at hq
      cases hq
    · rw [hq'] at hq
      cases hq
      exact Or.inr ⟨r, t, hr, ht, Range.leads_trans hrq hqt⟩

lemma le_total (a b : SymbolHead) : (a.le b || b.le a) = true := by
  rw [Bool.or_eq_true, le_iff, le_iff]
  cases ha : a.range with
  | none => exact Or.inr (Or.inl rfl)
  | some r =>
    cases hb : b.range with
    | none => exact Or.inl (Or.inl rfl)
    | some q =>
      rcases Range.leads_total r q with h | h
      · exact Or.inl (Or.inr ⟨r, q, rfl, rfl, h⟩)
      · exact Or.inr (Or.inr ⟨q, r, rfl, rfl, h⟩)

lemma precedes_of_stablyBefore {a b : SymbolHead × Nat} (h : StablyBefore le a b) :
    Precedes a b := by
  obtain ⟨hle, hlt⟩ := h
  unfold Precedes
  cases ha : a.1.range with
  | none =>
    cases hb : b.1.range with
    | none =>
      rw [le_iff] at hlt
      exact hlt (Or.inl ha)
    | some q => simp [le_iff, ha, hb] at hle
  | some r =>
    cases hb : b.1.range with
    | none => trivial
    | some q =>
      rw [le_some_iff ha hb] at hle
      rw [le_some_iff hb ha] at hlt
      simp only [Range.leads_iff, Position.Before, Position.eq_iff, Position.le_iff] at *
      omega

lemma Contains.not_le {a b : SymbolHead} (h : a.Contains b) : ¬ b.le a = true := by
  obtain ⟨r, q, ha, hb, hrq⟩ := h
  rw [le_some_iff hb ha]
  exact Range.not_leads_of_strictlyContains hrq

lemma not_contains_self (a : SymbolHead) : ¬ a.Contains a := by
  rintro ⟨r, q, hr, hq, h⟩
  rw [hr] at hq
  cases hq
  simp [Range.strictlyContains] at h

/-- When `b` makes `a` leave the stack, `b` contains what `a` would have contained later on. -/
lemma Contains.of_dropped {a b c : SymbolHead} {q : Range} (hb : b.range = some q)
    (hab : a.le b = true) (hbc : b.le c = true) (hdropped : ¬ a.Contains b) (h : a.Contains c) :
    b.Contains c := by
  obtain ⟨r, t, ha, hc, hrt⟩ := h
  rw [le_some_iff ha hb] at hab
  rw [le_some_iff hb hc] at hbc
  exact ⟨q, t, hb, hc, Range.strictlyContains_of_dropped hab hbc
    (fun hrq => hdropped ⟨r, q, ha, hb, hrq⟩) hrt⟩

end SymbolHead

/-! ### The rows of a flat answer -/

lemma nest_cons_of_rangeless {around : List Range} {h : SymbolHead} {hs : List SymbolHead}
    (hr : h.range = none) : nest around (h :: hs) = ⟨0, h⟩ :: nest around hs := by
  conv_lhs => whnf
  rw [hr]

lemma nest_cons_of_range {around : List Range} {h : SymbolHead} {hs : List SymbolHead} {r : Range}
    (hr : h.range = some r) :
    nest around (h :: hs) =
      ⟨(around.dropWhile fun outer => !outer.strictlyContains r).length, h⟩ ::
        nest (r :: around.dropWhile fun outer => !outer.strictlyContains r) hs := by
  conv_lhs => whnf
  rw [hr]

lemma map_head_nest (around : List Range) (hs : List SymbolHead) :
    (nest around hs).map Row.head = hs := by
  induction hs generalizing around with
  | nil => rfl
  | cons h hs ih =>
    cases hr : h.range with
    | none => rw [nest_cons_of_rangeless hr, List.map_cons, ih]
    | some r => rw [nest_cons_of_range hr, List.map_cons, ih]

/-- Symbols without a range all stand at the top level. -/
lemma nest_of_rangeless {around : List Range} {hs : List SymbolHead}
    (h : ∀ x ∈ hs, x.range = none) : nest around hs = hs.map (Row.mk 0) := by
  induction hs with
  | nil => rfl
  | cons x hs ih =>
    rw [nest_cons_of_rangeless (h x List.mem_cons_self), List.map_cons,
      ih fun y hy => h y (List.mem_cons_of_mem x hy)]

/-- Behind a symbol without a range all symbols are so. -/
lemma rangeless_of_le {h : SymbolHead} {hs : List SymbolHead} (hr : h.range = none)
    (hsorted : (h :: hs).Pairwise fun a b => a.le b = true) : ∀ x ∈ h :: hs, x.range = none := by
  intro x hx
  rcases List.mem_cons.mp hx with rfl | hx
  · exact hr
  · have hle := (List.pairwise_cons.mp hsorted).1 x hx
    rcases SymbolHead.le_iff.mp hle with hx | ⟨r, -, hr', -⟩
    · exact hx
    · rw [hr] at hr'
      cases hr'

lemma descends_rangeless (level : Nat) (hs : List SymbolHead) :
    Descends level (hs.map (Row.mk 0)) := by
  induction hs generalizing level with
  | nil => trivial
  | cons h hs ih => exact ⟨Nat.zero_le level, ih 1⟩

lemma descends_nest {around : List Range} {hs : List SymbolHead}
    (hsorted : hs.Pairwise fun a b => a.le b = true) :
    Descends around.length (nest around hs) := by
  induction hs generalizing around with
  | nil => trivial
  | cons h hs ih =>
    cases hr : h.range with
    | none =>
      rw [nest_of_rangeless (rangeless_of_le hr hsorted)]
      exact descends_rangeless _ _
    | some r =>
      rw [nest_cons_of_range hr]
      refine ⟨?_, ?_⟩
      · exact (List.dropWhile_sublist _).length_le
      · exact @ih (r :: around.dropWhile _) (List.pairwise_cons.mp hsorted).2

/-! ### The stack -/

/-- The number, if any, of the last symbol whose range strictly contains that of `h`. -/
def LastContaining (symbols : List Symbol) (h : SymbolHead) : Option Nat → Prop
  | none   => ∀ c ∈ symbols, ¬ c.head.Contains h
  | some p => (∃ c ∈ symbols, c.id = p ∧ c.head.Contains h) ∧
    ∀ c ∈ symbols, c.head.Contains h → c.id ≤ p

/-- Symbols that do not contain `h` do not matter. -/
lemma LastContaining.append {done later : List Symbol} {h : SymbolHead} {p : Option Nat}
    (hlast : LastContaining done h p) (hlater : ∀ c ∈ later, ¬ c.head.Contains h) :
    LastContaining (done ++ later) h p := by
  cases p with
  | none =>
    intro c hc
    rcases List.mem_append.mp hc with hc | hc
    · exact hlast c hc
    · exact hlater c hc
  | some p =>
    obtain ⟨⟨c, hc, hid, hcontains⟩, hmax⟩ := hlast
    refine ⟨⟨c, List.mem_append_left _ hc, hid, hcontains⟩, fun d hd hdh => ?_⟩
    rcases List.mem_append.mp hd with hd | hd
    · exact hmax d hd hdh
    · exact absurd hdh (hlater d hd)

/-- The stack `chain` of open symbols, innermost first, after the symbols `done` and before `rest`.
Whatever contains a symbol still to come is in the stack, or something later that contains it is. -/
structure Stack (done chain : List Symbol) (around : List Range) (rest : List SymbolHead) :
    Prop where
  ranges     : chain.map Symbol.range = around.map some
  mem        : ∀ s ∈ chain, s ∈ done
  ids        : ∀ s ∈ done, s.id < done.length
  descending : chain.Pairwise fun s t => t.id < s.id
  ahead      : ∀ c ∈ done, ∀ z ∈ rest, c.head.le z = true
  cover      : ∀ z ∈ rest, ∀ c ∈ done, c.head.Contains z →
    ∃ d ∈ chain, d.head.Contains z ∧ c.id ≤ d.id

/-- Dropping ranges from the stack drops the symbols in front of the innermost one that contains
`h`. -/
lemma exists_split_of_ranges {chain : List Symbol} {around : List Range} {h : SymbolHead}
    {r : Range} (hr : h.range = some r) (hranges : chain.map Symbol.range = around.map some) :
    ∃ popped above, chain = popped ++ above ∧
      above.map Symbol.range =
        (around.dropWhile fun outer => !outer.strictlyContains r).map some ∧
      (∀ s ∈ popped, ¬ s.head.Contains h) ∧ ∀ p, above.head? = some p → p.head.Contains h := by
  induction chain generalizing around with
  | nil =>
    rw [List.map_nil, eq_comm, List.map_eq_nil_iff] at hranges
    subst hranges
    exact ⟨[], [], rfl, rfl, by simp, by simp⟩
  | cons s chain ih =>
    cases around with
    | nil => cases hranges
    | cons outer around =>
      rw [List.map_cons, List.map_cons, List.cons_eq_cons] at hranges
      have hs : s.head.range = some outer := hranges.1
      by_cases hcontains : outer.strictlyContains r = true
      · refine ⟨[], s :: chain, rfl, ?_, by simp, ?_⟩
        · rw [List.dropWhile_cons_of_neg (by simp [hcontains]), List.map_cons, List.map_cons,
            hranges.1, hranges.2]
        · rintro p ⟨⟩
          exact ⟨outer, r, hs, hr, hcontains⟩
      · obtain ⟨popped, above, rfl, hmap, hpopped, hhead⟩ := ih hranges.2
        refine ⟨s :: popped, above, rfl, ?_, ?_, hhead⟩
        · rw [List.dropWhile_cons_of_pos (by simp [hcontains]), hmap]
        · intro t ht
          rcases List.mem_cons.mp ht with rfl | ht
          · rintro ⟨outer', r', ho, hr', h'⟩
            rw [hs] at ho
            rw [hr] at hr'
            cases ho
            cases hr'
            exact hcontains h'
          · exact hpopped t ht

namespace Stack

variable {done chain : List Symbol} {around : List Range} {h : SymbolHead} {hs : List SymbolHead}

/-- The innermost open symbol that contains `h` is the last of all symbols that do. -/
lemma lastContaining {popped above : List Symbol}
    (hstack : Stack done (popped ++ above) around (h :: hs))
    (hpopped : ∀ s ∈ popped, ¬ s.head.Contains h)
    (hhead : ∀ p, above.head? = some p → p.head.Contains h) :
    LastContaining done h (above.head?.map Symbol.id) := by
  -- an open symbol that contains `h` was not popped
  have habove : ∀ c ∈ done, c.head.Contains h → ∃ d ∈ above, c.id ≤ d.id := by
    intro c hc hch
    obtain ⟨d, hd, hdh, hle⟩ := hstack.cover h List.mem_cons_self c hc hch
    rcases List.mem_append.mp hd with hd | hd
    · exact absurd hdh (hpopped d hd)
    · exact ⟨d, hd, hle⟩
  cases above with
  | nil =>
    intro c hc hch
    obtain ⟨d, hd, -⟩ := habove c hc hch
    cases hd
  | cons p above =>
    have hp : p ∈ done := hstack.mem p (List.mem_append_right _ List.mem_cons_self)
    refine ⟨⟨p, hp, rfl, hhead p rfl⟩, fun c hc hch => ?_⟩
    obtain ⟨d, hd, hle⟩ := habove c hc hch
    rcases List.mem_cons.mp hd with rfl | hd
    · exact hle
    · have hpd := (List.pairwise_cons.mp (List.pairwise_append.mp hstack.descending).2.1).1 d hd
      exact Nat.le_trans hle (Nat.le_of_lt hpd)

/-- Putting `h` on the stack keeps what the stack is for. -/
lemma step {popped above : List Symbol} {around' : List Range} {r : Range} {s : Symbol}
    (hstack : Stack done (popped ++ above) around (h :: hs)) (hr : h.range = some r)
    (hsorted : (h :: hs).Pairwise fun a b => a.le b = true)
    (hranges : above.map Symbol.range = around'.map some)
    (hpopped : ∀ s ∈ popped, ¬ s.head.Contains h) (hhead : s.head = h) (hid : s.id = done.length) :
    Stack (done ++ [s]) (s :: above) (r :: around') hs where
  ranges := by
    rw [List.map_cons, List.map_cons, hranges, Symbol.range, hhead, hr]
  mem := by
    intro t ht
    rcases List.mem_cons.mp ht with rfl | ht
    · exact List.mem_append_right _ (List.mem_singleton_self _)
    · exact List.mem_append_left _ (hstack.mem t (List.mem_append_right _ ht))
  ids := by
    intro t ht
    rw [List.length_append, List.length_singleton]
    rcases List.mem_append.mp ht with ht | ht
    · exact Nat.lt_succ_of_lt (hstack.ids t ht)
    · rw [List.mem_singleton.mp ht, hid]
      exact Nat.lt_succ_self _
  descending := by
    refine List.pairwise_cons.mpr ⟨fun t ht => ?_, (List.pairwise_append.mp hstack.descending).2.1⟩
    rw [hid]
    exact hstack.ids t (hstack.mem t (List.mem_append_right _ ht))
  ahead := by
    intro c hc z hz
    rcases List.mem_append.mp hc with hc | hc
    · exact hstack.ahead c hc z (List.mem_cons_of_mem h hz)
    · rw [List.mem_singleton.mp hc, hhead]
      exact (List.pairwise_cons.mp hsorted).1 z hz
  cover := by
    intro z hz c hc hcz
    rcases List.mem_append.mp hc with hc | hc
    · obtain ⟨d, hd, hdz, hle⟩ := hstack.cover z (List.mem_cons_of_mem h hz) c hc hcz
      rcases List.mem_append.mp hd with hpop | hkept
      · -- `d` was popped by `s`, which takes its place
        have hdone := hstack.mem d hd
        refine ⟨s, List.mem_cons_self, ?_, ?_⟩
        · rw [hhead]
          exact hdz.of_dropped hr (hstack.ahead d hdone h List.mem_cons_self)
            ((List.pairwise_cons.mp hsorted).1 z hz) (hpopped d hpop)
        · rw [hid]
          exact Nat.le_of_lt (hstack.ids c hc)
      · exact ⟨d, List.mem_cons_of_mem s hkept, hdz, hle⟩
    · rw [List.mem_singleton.mp hc] at hcz ⊢
      exact ⟨s, List.mem_cons_self, hcz, Nat.le_refl _⟩

end Stack

/-- No symbol is inside anything in a list of rows that all stand at the top level. -/
lemma parent_of_mem_tieRows_rangeless {chain : List Symbol} {id : Nat} {hs : List SymbolHead}
    {s : Symbol} (hs' : s ∈ tieRows chain id (hs.map (Row.mk 0))) : s.parent = none := by
  induction hs generalizing chain id with
  | nil => cases hs'
  | cons h hs ih =>
    rw [List.map_cons, tieRows_cons] at hs'
    rcases List.mem_cons.mp hs' with rfl | hs'
    · simp [Symbol.ofRow]
    · exact ih hs'

lemma head_mem_of_mem_tieRows_nest {chain : List Symbol} {id : Nat} {around : List Range}
    {hs : List SymbolHead} {s : Symbol} (h : s ∈ tieRows chain id (nest around hs)) :
    s.head ∈ hs := by
  have := List.mem_map_of_mem (f := Symbol.head) h
  rwa [map_head_tieRows, map_head_nest] at this

/-- Every symbol that the pass ties stands inside the last symbol that contains it. -/
lemma Stack.run {done chain : List Symbol} {around : List Range} {hs : List SymbolHead}
    (hstack : Stack done chain around hs) (hsorted : hs.Pairwise fun a b => a.le b = true) :
    ∀ s ∈ tieRows chain done.length (nest around hs),
      LastContaining (done ++ tieRows chain done.length (nest around hs)) s.head s.parent := by
  induction hs generalizing done chain around with
  | nil => exact fun s hs => nomatch hs
  | cons h hs ih =>
    cases hr : h.range with
    | none =>
      intro s hs'
      have hmem := head_mem_of_mem_tieRows_nest hs'
      rw [nest_of_rangeless (rangeless_of_le hr hsorted)] at hs' ⊢
      rw [parent_of_mem_tieRows_rangeless hs']
      rintro c - ⟨r, q, -, hq, -⟩
      rw [rangeless_of_le hr hsorted s.head hmem] at hq
      cases hq
    | some r =>
      obtain ⟨popped, above, rfl, hmap, hpopped, hhead⟩ := exists_split_of_ranges hr hstack.ranges
      have hlen : (around.dropWhile fun outer => !outer.strictlyContains r).length =
          above.length := by
        rw [← List.length_map (f := some), ← hmap, List.length_map]
      have hdrop : (popped ++ above).drop ((popped ++ above).length - above.length) = above := by
        rw [List.length_append, Nat.add_sub_cancel, List.drop_left]
      have hlast := hstack.lastContaining hpopped hhead
      obtain ⟨hle, hsorted'⟩ := List.pairwise_cons.mp hsorted
      rw [nest_cons_of_range hr, tieRows_cons, hlen, hdrop]
      generalize hnew : Symbol.ofRow above done.length ⟨above.length, h⟩ = new
      have hnewhead : new.head = h := by rw [← hnew]; rfl
      have hstep := hstack.step hr hsorted hmap hpopped hnewhead (by rw [← hnew]; rfl)
      have hrun := ih hstep hsorted'
      rw [List.length_append, List.length_singleton, List.append_assoc,
        List.singleton_append] at hrun
      intro s hs'
      rcases List.mem_cons.mp hs' with rfl | hs'
      · have hparent : s.parent = above.head?.map Symbol.id := by rw [← hnew]; rfl
        rw [hparent, hnewhead]
        refine hlast.append fun c hc => ?_
        rcases List.mem_cons.mp hc with rfl | hc
        · rw [hnewhead]
          exact SymbolHead.not_contains_self h
        · exact fun hch => hch.not_le (hle c.head (head_mem_of_mem_tieRows_nest hc))
      · exact hrun s hs'

/-! ### Trees of flat answers -/

lemma outlineOf_of_isFlat {uri : Uri} {raw : List RawSymbol} (hflat : ∀ s ∈ raw, s.isFlat = true) :
    outlineOf uri raw = flatRows uri raw := by
  unfold outlineOf
  cases raw with
  | nil => simp [flatRows, nest, RawSymbol.rowsOfList]
  | cons s raw => rw [if_pos (by simpa using hflat)]

/-- The symbols of a flat answer in the order of their ranges. -/
def flatHeads (uri : Uri) (raw : List RawSymbol) : List SymbolHead :=
  (raw.filterMap fun s => s.info.head? uri).mergeSort SymbolHead.le

lemma flatHeads_sorted (uri : Uri) (raw : List RawSymbol) :
    (flatHeads uri raw).Pairwise fun a b => a.le b = true :=
  List.pairwise_mergeSort SymbolHead.le_trans SymbolHead.le_total _

lemma build_of_isFlat {uri : Uri} {raw : List RawSymbol} (hflat : ∀ s ∈ raw, s.isFlat = true) :
    (SymbolTree.build uri raw).symbols = tieRows [] 0 (nest [] (flatHeads uri raw)) := by
  rw [SymbolTree.build, outlineOf_of_isFlat hflat]
  rfl

/-- Every symbol of a flat answer stands inside the last symbol that contains it. -/
lemma lastContaining_of_isFlat (uri : Uri) {raw : List RawSymbol}
    (hflat : ∀ s ∈ raw, s.isFlat = true) :
    ∀ s ∈ (SymbolTree.build uri raw).symbols,
      LastContaining (SymbolTree.build uri raw).symbols s.head s.parent := by
  have hstack : Stack [] [] [] (flatHeads uri raw) :=
    ⟨rfl, by simp, by simp, List.Pairwise.nil, by simp, by simp⟩
  rw [build_of_isFlat hflat]
  exact hstack.run (flatHeads_sorted uri raw)

/-- A part of the symbols of a tree, picked out by a test, is in the order of the tree. -/
lemma filter_symbols_ascending (uri : Uri) (raw : List RawSymbol) (p : Symbol → Bool) :
    ((SymbolTree.build uri raw).symbols.filter p).Pairwise fun a b => a.id < b.id := by
  have hids : (SymbolTree.build uri raw).symbols.Pairwise fun a b => a.id < b.id := by
    rw [← List.pairwise_map (f := Symbol.id), map_id_build]
    exact List.pairwise_lt_range
  exact hids.filter p

/-- The tree of a flat answer has its symbols in the order of the ranges. Each symbol stands inside
the last one, in that order, of all symbols whose range strictly contains its own, and at the top
level when there is none, as all symbols without a range do. -/
theorem build_flat_nests_in_last_container (uri : Uri) (raw : List RawSymbol)
    (hflat : ∀ s ∈ raw, s.isFlat = true) :
    ∃ order : List (SymbolHead × Nat),
      order.Perm (raw.filterMap fun s => s.info.head? uri).zipIdx ∧
      order.Pairwise SymbolHead.Precedes ∧
      (SymbolTree.build uri raw).symbols.map Symbol.head = order.map Prod.fst ∧
      (SymbolTree.build uri raw).symbols.map Symbol.id = List.range order.length ∧
      (∀ s ∈ (SymbolTree.build uri raw).symbols,
        LastContaining (SymbolTree.build uri raw).symbols s.head s.parent) ∧
      (∀ s ∈ (SymbolTree.build uri raw).symbols, s.range = none →
        s.parent = none ∧ (SymbolTree.build uri raw).children s = []) ∧
      ((SymbolTree.build uri raw).roots.Pairwise fun a b => a.id < b.id) ∧
      ∀ s, ((SymbolTree.build uri raw).children s).Pairwise fun a b => a.id < b.id := by
  obtain ⟨order, hperm, hsorted, hbefore⟩ := exists_stable_order SymbolHead.le_trans
    SymbolHead.le_total (raw.filterMap fun s => s.info.head? uri)
  have hheads : (SymbolTree.build uri raw).symbols.map Symbol.head = order.map Prod.fst := by
    rw [build_of_isFlat hflat, map_head_tieRows, map_head_nest, hsorted]
    rfl
  have hlast := lastContaining_of_isFlat uri hflat
  refine ⟨order, hperm, hbefore.imp SymbolHead.precedes_of_stablyBefore, hheads, ?_, hlast, ?_,
    filter_symbols_ascending uri raw _, fun s => filter_symbols_ascending uri raw _⟩
  · have hlen := congrArg List.length hheads
    rw [List.length_map, List.length_map] at hlen
    rw [map_id_build, hlen]
  · intro s hs hrange
    constructor
    · cases hparent : s.parent with
      | none => rfl
      | some p =>
        have := hlast s hs
        rw [hparent] at this
        obtain ⟨⟨c, -, -, r, q, -, hq, -⟩, -⟩ := this
        rw [Symbol.range] at hrange
        rw [hrange] at hq
        cases hq
    · refine List.filter_eq_nil_iff.mpr fun c hc hparent => ?_
      have hlast := hlast c hc
      rw [beq_iff_eq.mp hparent] at hlast
      obtain ⟨⟨d, hd, hid, r, q, hr, -⟩, -⟩ := hlast
      rw [eq_of_id_eq (map_id_build uri raw) hd hs hid] at hr
      rw [Symbol.range] at hrange
      rw [hrange] at hr
      cases hr

/-- An entry of a flat answer with a name and perhaps a range. -/
def flatEntry (name : String) (range : Option Range) : RawSymbol :=
  .mk { name := some name, kind := none, detail := none, range := none, selectionRange := none,
        location := some ⟨none, range⟩, containerName := none } none

/-- Two overlapping ranges inside a third one, a range inside both, one that runs backwards, and a
symbol without a range. -/
def overlappingEntries : List RawSymbol :=
  [flatEntry "inner" (some ⟨⟨4, 0⟩, ⟨5, 0⟩⟩), flatEntry "late" (some ⟨⟨3, 0⟩, ⟨8, 0⟩⟩),
    flatEntry "bare" none, flatEntry "early" (some ⟨⟨1, 0⟩, ⟨6, 0⟩⟩),
    flatEntry "outer" (some ⟨⟨0, 0⟩, ⟨9, 0⟩⟩), flatEntry "back" (some ⟨⟨7, 0⟩, ⟨2, 0⟩⟩)]

theorem build_overlappingEntries :
    (∀ s ∈ overlappingEntries, s.isFlat = true) ∧
      (SymbolTree.build default overlappingEntries).symbols.map Symbol.parent =
        [none, some 0, some 0, some 2, some 3, none] ∧
      ∀ s ∈ (SymbolTree.build default overlappingEntries).symbols,
        LastContaining (SymbolTree.build default overlappingEntries).symbols s.head s.parent := by
  have hflat : ∀ s ∈ overlappingEntries, s.isFlat = true := by decide
  obtain ⟨_, _, _, _, _, hlast, _⟩ :=
    build_flat_nests_in_last_container default overlappingEntries hflat
  exact ⟨hflat, by cbv, hlast⟩

end Outline
