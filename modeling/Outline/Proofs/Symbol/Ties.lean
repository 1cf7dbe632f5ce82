import Mathlib.Data.List.Basic
import Outline.Symbol.Tree

/-!
# Ties between symbols

Tying the rows of an outline gives each symbol its number, its parent and its name path. `Spine`
holds between the symbols made so far and the chain of those that are still open. Every step keeps
it, so in the end every symbol is `Tied`: it stands at the top level, or it stands directly inside
an earlier symbol, and all symbols between the two are at least as deep as itself.
-/

namespace Outline

/-- Rows that can be tied when `level` symbols are open: none stands deeper than the symbols open
before it allow. -/
def Descends : (level : Nat) → List Row → Prop
  | _,     []          => True
  | level, row :: rows => row.depth ≤ level ∧ Descends (row.depth + 1) rows

/-- The symbol of a row that stands inside the symbols `above`, innermost first. -/
def Symbol.ofRow (above : List Symbol) (id : Nat) (row : Row) : Symbol where
  id       := id
  head     := row.head
  depth    := row.depth
  namePath := (above.head?.map fun p => p.namePath ++ "/").getD "" ++ row.head.name
  parent   := above.head?.map Symbol.id

lemma tieRows_cons (chain : List Symbol) (id : Nat) (row : Row) (rows : List Row) :
    tieRows chain id (row :: rows) =
      Symbol.ofRow (chain.drop (chain.length - row.depth)) id row ::
        tieRows (Symbol.ofRow (chain.drop (chain.length - row.depth)) id row ::
          chain.drop (chain.length - row.depth)) (id + 1) rows := rfl

/-- How a symbol stands among the symbols of its document. -/
inductive Tied (symbols : List Symbol) (s : Symbol) : Prop where
  | root (hparent : s.parent = none) (hdepth : s.depth = 0) (hpath : s.namePath = s.name)
  | child (p : Symbol) (hp : p ∈ symbols) (hparent : s.parent = some p.id) (hlt : p.id < s.id)
      (hdepth : s.depth = p.depth + 1) (hpath : s.namePath = p.namePath ++ "/" ++ s.name)
      (hbetween : ∀ u ∈ symbols, p.id < u.id → u.id < s.id → s.depth ≤ u.depth)

/-- The open symbols `chain`, innermost first, among the symbols `done`. -/
structure Spine (done chain : List Symbol) : Prop where
  numbered : done.map Symbol.id = List.range done.length
  mem      : ∀ s ∈ chain, s ∈ done
  depths   : chain.map Symbol.depth = (List.range chain.length).reverse
  latest   : ∀ s ∈ chain, ∀ u ∈ done, s.id < u.id → s.depth < u.depth
  tied     : ∀ s ∈ done, Tied done s

namespace Spine

variable {done chain : List Symbol}

lemma nil : Spine [] [] where
  numbered := rfl
  mem      := fun _ hs => nomatch hs
  depths   := rfl
  latest   := fun _ hs => nomatch hs
  tied     := fun _ hs => nomatch hs

lemma id_lt (h : Spine done chain) {s : Symbol} (hs : s ∈ done) : s.id < done.length := by
  have : s.id ∈ done.map Symbol.id := List.mem_map_of_mem hs
  rwa [h.numbered, List.mem_range] at this

/-- The symbols that stay open around a row are as many as the row is deep, one of each depth. -/
lemma depths_drop (h : Spine done chain) {depth : Nat} (hle : depth ≤ chain.length) :
    (chain.drop (chain.length - depth)).map Symbol.depth = (List.range depth).reverse := by
  have hdepth : chain.length - (chain.length - depth) = depth := by omega
  rw [List.map_drop, h.depths, List.drop_reverse, List.length_range, hdepth, List.take_range,
    Nat.min_eq_left hle]

lemma depth_lt_of_mem_drop (h : Spine done chain) {depth : Nat} (hle : depth ≤ chain.length)
    {s : Symbol} (hs : s ∈ chain.drop (chain.length - depth)) : s.depth < depth := by
  have hmem := List.mem_map_of_mem (f := Symbol.depth) hs
  rwa [h.depths_drop hle, List.mem_reverse, List.mem_range] at hmem

/-- Symbols made later change nothing about how a symbol stands. -/
lemma tied_append (h : Spine done chain) {s t : Symbol} (hs : s ∈ done) (ht : done.length ≤ t.id) :
    Tied (done ++ [t]) s := by
  have hid := h.id_lt hs
  cases h.tied s hs with
  | root hparent hdepth hpath => exact .root hparent hdepth hpath
  | child p hp hparent hlt hdepth hpath hbetween =>
    refine .child p (List.mem_append_left _ hp) hparent hlt hdepth hpath fun u hu hpu hus => ?_
    rcases List.mem_append.mp hu with hu | hu
    · exact hbetween u hu hpu hus
    · rw [List.mem_singleton.mp hu] at hus
      omega

/-- The symbol of a new row stands inside the innermost symbol that stays open around it. -/
lemma tied_ofRow (h : Spine done chain) {row : Row} (hle : row.depth ≤ chain.length) :
    Tied (done ++ [Symbol.ofRow (chain.drop (chain.length - row.depth)) done.length row])
      (Symbol.ofRow (chain.drop (chain.length - row.depth)) done.length row) := by
  have hdepths := h.depths_drop hle
  have hmem : ∀ t ∈ chain.drop (chain.length - row.depth), t ∈ chain :=
    fun t ht => List.mem_of_mem_drop ht
  cases habove : chain.drop (chain.length - row.depth) with
  | nil =>
    rw [habove, List.map_nil, eq_comm, List.reverse_eq_nil_iff, List.range_eq_nil] at hdepths
    exact .root rfl hdepths String.empty_append
  | cons p above =>
    rw [habove] at hmem hdepths
    have hp := hmem p List.mem_cons_self
    cases hrow : row.depth with
    | zero =>
      rw [hrow] at hdepths
      cases hdepths
    | succ depth =>
      rw [hrow, List.range_succ, List.reverse_append, List.map_cons] at hdepths
      have hpdepth : p.depth = depth := (List.cons_eq_cons.mp hdepths).1
      refine .child p (List.mem_append_left _ (h.mem p hp)) rfl (h.id_lt (h.mem p hp))
        (hrow.trans (by rw [hpdepth])) rfl fun u hu hpu hus => ?_
      rcases List.mem_append.mp hu with hu | hu
      · -- `p` is still open, so every symbol behind it is deeper
        have := h.latest p hp u hu hpu
        change row.depth ≤ u.depth
        omega
      · rw [List.mem_singleton.mp hu] at hus
        exact absurd hus (Nat.lt_irrefl _)

/-- Tying one more row keeps the spine. -/
lemma step (h : Spine done chain) {row : Row} (hle : row.depth ≤ chain.length) :
    Spine (done ++ [Symbol.ofRow (chain.drop (chain.length - row.depth)) done.length row])
      (Symbol.ofRow (chain.drop (chain.length - row.depth)) done.length row ::
        chain.drop (chain.length - row.depth)) where
  numbered := by
    rw [List.map_append, h.numbered, List.length_append, List.length_singleton, List.range_succ]
    rfl
  mem := by
    intro t ht
    rcases List.mem_cons.mp ht with rfl | ht
    · exact List.mem_append_right _ (List.mem_singleton_self _)
    · exact List.mem_append_left _ (h.mem t (List.mem_of_mem_drop ht))
  depths := by
    have hlen : (chain.drop (chain.length - row.depth)).length = row.depth := by
      rw [List.length_drop]; omega
    rw [List.map_cons, h.depths_drop hle, List.length_cons, hlen, List.range_succ,
      List.reverse_append]
    rfl
  latest := by
    intro t ht u hu htu
    rcases List.mem_append.mp hu with hu | hu
    · rcases List.mem_cons.mp ht with rfl | ht
      · exact absurd htu (Nat.lt_asymm (h.id_lt hu))
      · exact h.latest t (List.mem_of_mem_drop ht) u hu htu
    · rw [List.mem_singleton.mp hu] at htu ⊢
      rcases List.mem_cons.mp ht with rfl | ht
      · exact absurd htu (Nat.lt_irrefl _)
      · exact h.depth_lt_of_mem_drop hle ht
  tied := by
    intro t ht
    rcases List.mem_append.mp ht with ht | ht
    · exact h.tied_append ht (Nat.le_refl _)
    · rw [List.mem_singleton.mp ht]
      exact h.tied_ofRow hle

/-- Tying rows keeps the spine, with some symbols open in the end. -/
lemma run (h : Spine done chain) {rows : List Row} (hrows : Descends chain.length rows) :
    ∃ chain', Spine (done ++ tieRows chain done.length rows) chain' := by
  induction rows generalizing done chain with
  | nil => exact ⟨chain, by rwa [tieRows, List.append_nil]⟩
  | cons row rows ih =>
    obtain ⟨hle, hrows⟩ := hrows
    have hstep := h.step hle
    have hlen : (chain.drop (chain.length - row.depth)).length = row.depth := by
      rw [List.length_drop]; omega
    obtain ⟨chain', hrun⟩ := ih hstep (by rwa [List.length_cons, hlen])
    refine ⟨chain', ?_⟩
    rwa [List.length_append, List.length_singleton, List.append_assoc] at hrun

end Spine

/-! ### The symbols of an outline -/

/-- The row of a symbol. -/
def Symbol.row (s : Symbol) : Row := ⟨s.depth, s.head⟩

lemma map_row_tieRows (chain : List Symbol) (id : Nat) (rows : List Row) :
    (tieRows chain id rows).map Symbol.row = rows := by
  induction rows generalizing chain id with
  | nil => rfl
  | cons row rows ih => rw [tieRows_cons, List.map_cons, ih]; rfl

lemma map_head_tieRows (chain : List Symbol) (id : Nat) (rows : List Row) :
    (tieRows chain id rows).map Symbol.head = rows.map Row.head := by
  conv_rhs => rw [← map_row_tieRows chain id rows, List.map_map]
  rfl

lemma length_tieRows (chain : List Symbol) (id : Nat) (rows : List Row) :
    (tieRows chain id rows).length = rows.length := by
  rw [← List.length_map (f := Symbol.row), map_row_tieRows]

/-- Symbols are numbered in the order of their rows. -/
lemma map_id_tieRows (chain : List Symbol) (id : Nat) (rows : List Row) :
    (tieRows chain id rows).map Symbol.id = List.range' id rows.length := by
  induction rows generalizing chain id with
  | nil => rfl
  | cons row rows ih => rw [tieRows_cons, List.map_cons, ih]; rfl

lemma tied_of_mem_tieRows {rows : List Row} (h : Descends 0 rows) {s : Symbol}
    (hs : s ∈ tieRows [] 0 rows) : Tied (tieRows [] 0 rows) s := by
  obtain ⟨chain, hspine⟩ := Spine.nil.run h
  exact hspine.tied s hs

/-- The symbols of a tree are numbered in its order. -/
lemma map_id_build (uri : Uri) (raw : List RawSymbol) :
    (SymbolTree.build uri raw).symbols.map Symbol.id =
      List.range (SymbolTree.build uri raw).symbols.length := by
  rw [SymbolTree.build, map_id_tieRows, List.range_eq_range', length_tieRows]

/-! ### Numbered symbols -/

section Numbered

variable {symbols : List Symbol} (hids : symbols.map Symbol.id = List.range symbols.length)
include hids

lemma id_of_getElem? {i : Nat} {s : Symbol} (h : symbols[i]? = some s) : s.id = i := by
  obtain ⟨hi, rfl⟩ := List.getElem?_eq_some_iff.mp h
  have hget := congrArg (·[i]?) hids
  simpa [hi] using hget

lemma getElem?_id_of_mem {s : Symbol} (hs : s ∈ symbols) : symbols[s.id]? = some s := by
  obtain ⟨i, hi⟩ := List.mem_iff_getElem?.mp hs
  rwa [id_of_getElem? hids hi]

lemma eq_of_id_eq {s t : Symbol} (hs : s ∈ symbols) (ht : t ∈ symbols) (h : s.id = t.id) :
    s = t := by
  have hget := getElem?_id_of_mem hids hs
  rw [h, getElem?_id_of_mem hids ht, Option.some.injEq] at hget
  exact hget.symm

end Numbered

end Outline
