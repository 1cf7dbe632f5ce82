import Mathlib
import Outline.Proofs.Symbol.Resolution
import Outline.Proofs.Symbol.Shapes

/-!
# Addresses of symbols

Symbols beside each other may have the same name, so a name path of names alone leads to the first
of them. The address of a symbol has numbers in brackets where names are not enough. It leads to the
symbol, and to no other one, unless some symbol has a name that looks like such a segment.
-/

namespace Outline

open NamePath

namespace SymbolTree

variable {tree : SymbolTree} {s : Symbol} {chain : List Symbol} {uri : Uri} {raw : List RawSymbol}

/-! ### Segments of an address -/

/-- The number of a symbol, counted from zero, among those beside it that have its name. -/
def rank (tree : SymbolTree) (s : Symbol) : Nat :=
  ((tree.siblings s).filter (·.name == s.name)).idxOf s

/-- The segment for a symbol: its name, and its number unless it is the first of that name. -/
def segmentOf (tree : SymbolTree) (s : Symbol) : String :=
  if tree.rank s = 0 then s.name else s.name ++ "[" ++ toString (tree.rank s) ++ "]"

/-- The address that goes by these symbols. -/
def address (tree : SymbolTree) (chain : List Symbol) : String :=
  "/".intercalate (chain.map tree.segmentOf)

lemma mem_namesakes (hs : s ∈ tree.symbols) :
    s ∈ (tree.siblings s).filter (·.name == s.name) := by
  simp [siblings, hs]

lemma isNth_rank (hs : s ∈ tree.symbols) :
    IsNth (tree.siblings s) s.name (tree.rank s) s :=
  getElem?_filter_eq_some_iff.mp (List.getElem?_idxOf (mem_namesakes hs))

/-- The segment for a symbol selects it, if no name beside it looks like that segment. -/
lemma selects_segmentOf (hs : s ∈ tree.symbols) (hbound : tree.rank s < 2 ^ 64)
    (hplain : tree.rank s ≠ 0 → ∀ t ∈ tree.siblings s, t.name ≠ tree.segmentOf s) :
    Selects (tree.siblings s) (tree.segmentOf s) s := by
  have hnth := isNth_rank hs
  by_cases hrank : tree.rank s = 0
  · rw [hrank] at hnth
    rw [segmentOf, if_pos hrank]
    exact .named hnth
  · refine .numbered s.name (tree.rank s) (hplain hrank) ?_ hnth
    rw [segmentOf, if_neg hrank]
    exact numbered_toString s.name hbound

lemma segmentOf_ne_empty (hname : s.name ≠ "") : tree.segmentOf s ≠ "" := by
  unfold segmentOf
  split
  · exact hname
  · simp

lemma slash_not_mem_segmentOf (hname : '/' ∉ s.name.toList) :
    '/' ∉ (tree.segmentOf s).toList := by
  unfold segmentOf
  split
  · exact hname
  · intro hslash
    simp only [String.toList_append, List.mem_append, Nat.toString_eq_ofList_toDigits,
      String.toList_ofList] at hslash
    rcases hslash with ((h | h) | h) | h
    · exact hname h
    · exact absurd h (by decide)
    · exact absurd (Nat.isDigit_of_mem_toDigits (by decide) (by decide) h) (by decide)
    · exact absurd h (by decide)

/-! ### Lineages in a tree -/

lemma Lineage.forall_mem (h : tree.Lineage chain s) : ∀ t ∈ chain, t ∈ tree.symbols := by
  induction h with
  | root h =>
    intro t ht
    rw [List.mem_singleton.mp ht]
    exact (mem_roots_iff.mp h).1
  | child hp h ih =>
    intro t ht
    rcases List.mem_append.mp ht with ht | ht
    · exact ih t ht
    · rw [List.mem_singleton.mp ht]
      exact (mem_children_iff.mp h).1

/-- Every symbol of a tree has a lineage. -/
lemma exists_lineage (hs : s ∈ (build uri raw).symbols) :
    ∃ chain, (build uri raw).Lineage chain s := by
  -- what is above a symbol comes before it
  generalize hn : s.id = n
  induction n using Nat.strongRecOn generalizing s with
  | _ n ih =>
    cases tied_of_mem_build hs with
    | root hparent _ _ => exact ⟨[s], .root (mem_roots_iff.mpr ⟨hs, hparent⟩)⟩
    | child p hp hparent hlt _ _ _ =>
      obtain ⟨chain, hchain⟩ := ih p.id (hn ▸ hlt) hp rfl
      exact ⟨chain ++ [s], .child hchain (mem_children_iff.mpr ⟨hs, hparent⟩)⟩

/-- A name path is made of the names along the lineage. -/
lemma Lineage.intercalate_eq (h : (build uri raw).Lineage chain s) :
    "/".intercalate (chain.map Symbol.name) = s.namePath := by
  induction h with
  | root h => rw [(outer_of_mem_roots h).2, List.map_singleton, String.intercalate_singleton]
  | child hp h ih =>
    rw [(inner_of_mem_children hp.mem h).2, List.map_append, List.map_singleton,
      String.intercalate_append_of_ne_nil (by simpa using hp.ne_nil) (List.cons_ne_nil _ _),
      String.intercalate_singleton, ih]

lemma name_ne_empty_of_mem_build (hs : s ∈ (build uri raw).symbols) : s.name ≠ "" := by
  obtain ⟨n, -, hhead⟩ := exists_node_of_mem_build hs
  exact RawInfo.name_ne_empty_of_head? hhead

/-! ### Addresses -/

/-- The address by a lineage leads to its symbol. -/
lemma Lineage.resolve_address (h : (build uri raw).Lineage chain s)
    (hslashless : ∀ t ∈ (build uri raw).symbols, '/' ∉ t.name.toList)
    (hbound : ∀ t ∈ chain, (build uri raw).rank t < 2 ^ 64)
    (hplain : ∀ t ∈ chain, (build uri raw).rank t ≠ 0 →
      ∀ u ∈ (build uri raw).siblings t, u.name ≠ (build uri raw).segmentOf t) (i j : Nat) :
    (build uri raw).resolve (slashes i ++ (build uri raw).address chain ++ slashes j) = some s := by
  have hcuts : Cuts ((build uri raw).address chain) (chain.map (build uri raw).segmentOf) := by
    refine ⟨by simpa using h.ne_nil, rfl, List.forall_mem_map.mpr fun t ht => ?_⟩
    exact slash_not_mem_segmentOf (hslashless t (h.forall_mem t ht))
  have hnonempty : ∀ segment ∈ chain.map (build uri raw).segmentOf, segment ≠ "" :=
    List.forall_mem_map.mpr fun t ht =>
      segmentOf_ne_empty (name_ne_empty_of_mem_build (h.forall_mem t ht))
  obtain ⟨htrims, hne⟩ := hcuts.trims hnonempty i j
  refine resolve_eq_some_iff.mpr ⟨_, _, chain, htrims, hne, hcuts, h, ?_⟩
  rw [List.forall₂_map_left_iff, List.forall₂_same]
  exact fun t ht => selects_segmentOf (h.forall_mem t ht) (hbound t ht) (hplain t ht)

/-- Every symbol has a lineage. Its address, with any slashes around it, leads back to the symbol,
provided that names have no slashes, that the numbers in the address have 64 bits, and that no
symbol on the way stands beside one that is called like the numbered segment for it. Where all
symbols on the way are the first of their name, the name path leads back. -/
theorem resolve_address_eq_some (uri : Uri) (raw : List RawSymbol)
    (hslashless : ∀ s ∈ (build uri raw).symbols, '/' ∉ s.name.toList) (s : Symbol)
    (hs : s ∈ (build uri raw).symbols) :
    (∃ chain, (build uri raw).Lineage chain s) ∧
    ∀ chain, (build uri raw).Lineage chain s →
      ((∀ t ∈ chain, (build uri raw).rank t < 2 ^ 64) →
        (∀ t ∈ chain, (build uri raw).rank t ≠ 0 →
          ∀ u ∈ (build uri raw).siblings t, u.name ≠ (build uri raw).segmentOf t) →
        ∀ i j, (build uri raw).resolve
          (slashes i ++ (build uri raw).address chain ++ slashes j) = some s) ∧
      ((∀ t ∈ chain, (build uri raw).rank t = 0) →
        (build uri raw).resolve s.namePath = some s) := by
  refine ⟨exists_lineage hs, fun chain hchain => ⟨?_, fun hfirst => ?_⟩⟩
  · exact hchain.resolve_address hslashless
  · have haddress : slashes 0 ++ (build uri raw).address chain ++ slashes 0 = s.namePath := by
      have hsegments : chain.map (build uri raw).segmentOf = chain.map Symbol.name :=
        List.map_congr_left fun t ht => if_pos (hfirst t ht)
      rw [address, hsegments, hchain.intercalate_eq]
      simp [slashes]
    rw [← haddress]
    refine hchain.resolve_address hslashless (fun t ht => ?_)
      (fun t ht hrank => absurd (hfirst t ht) hrank) 0 0
    rw [hfirst t ht]
    exact Nat.two_pow_pos 64

/-- Two symbols of one name, the second of which holds two symbols of one name that ends in a number
in brackets. -/
def namesakeForest : List RawSymbol :=
  [nestedEntry "dup" ⟨⟨0, 0⟩, ⟨1, 0⟩⟩ [],
    nestedEntry "dup" ⟨⟨2, 0⟩, ⟨9, 0⟩⟩
      [nestedEntry "x[0]" ⟨⟨3, 0⟩, ⟨4, 0⟩⟩ [], nestedEntry "x[0]" ⟨⟨5, 0⟩, ⟨6, 0⟩⟩ []]]

/-- A symbol of the tree of these entries. -/
def namesake (i : Nat) : Symbol := (build default namesakeForest).symbols[i]?.getD default

theorem resolve_address_namesake :
    (build default namesakeForest).Lineage [namesake 1, namesake 3] (namesake 3) ∧
      slashes 2 ++ (build default namesakeForest).address [namesake 1, namesake 3] ++ slashes 1 =
        "//dup[1]/x[0][1]/" ∧
      (build default namesakeForest).resolve "//dup[1]/x[0][1]/" = some (namesake 3) ∧
      (build default namesakeForest).resolve "dup" = some (namesake 0) := by
  have hslashless : ∀ s ∈ (build default namesakeForest).symbols, '/' ∉ s.name.toList := by decide
  have hchain : (build default namesakeForest).Lineage [namesake 1, namesake 3] (namesake 3) :=
    .child (.root (by decide)) (by decide)
  have haddress :
      slashes 2 ++ (build default namesakeForest).address [namesake 1, namesake 3] ++ slashes 1 =
        "//dup[1]/x[0][1]/" := by
    decide
  have hlast := (resolve_address_eq_some default namesakeForest hslashless (namesake 3)
    (by decide)).2 [namesake 1, namesake 3] hchain
  have hfirst := (resolve_address_eq_some default namesakeForest hslashless (namesake 0)
    (by decide)).2 [namesake 0] (.root (by decide))
  refine ⟨hchain, haddress, ?_, hfirst.2 (by decide)⟩
  rw [← haddress]
  exact hlast.1 (by decide) (by decide) 2 1

end SymbolTree

end Outline
