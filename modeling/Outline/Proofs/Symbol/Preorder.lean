import Mathlib
import Outline.Proofs.Symbol.Forest
import Outline.Proofs.Symbol.Nesting

/-!
# Trees in preorder

Whatever the shape of an answer, its outline never goes down by more than one level at a time. So
all symbols of its tree are tied, and what is inside a symbol follows it directly in the list: going
on from a symbol, everything is inside it up to the first symbol that is not deeper.
-/

namespace Outline

/-! ### Rows of any answer -/

namespace RawSymbol

variable {uri : Uri}

-- `rest` stands for the rows behind, which may go on at the depth of the symbol or above it
mutual

lemma descends_rows {depth level : Nat} {rest : List Row} (hle : depth ≤ level)
    (hrest : ∀ level', depth ≤ level' → Descends level' rest) (s : RawSymbol) :
    Descends level (rows uri depth s ++ rest) := by
  match s with
  | .mk info children =>
    rw [rows]
    split
    · exact hrest level hle
    · exact ⟨hle, descends_rowsOfChildren (Nat.le_refl _)
        (fun level' h => hrest level' (Nat.le_of_succ_le h)) children⟩

lemma descends_rowsOfChildren {depth level : Nat} {rest : List Row} (hle : depth ≤ level)
    (hrest : ∀ level', depth ≤ level' → Descends level' rest) (children : Option (List RawSymbol)) :
    Descends level (rowsOfChildren uri depth children ++ rest) := by
  match children with
  | none => exact hrest level hle
  | some ss => exact descends_rowsOfList hle hrest ss

lemma descends_rowsOfList {depth level : Nat} {rest : List Row} (hle : depth ≤ level)
    (hrest : ∀ level', depth ≤ level' → Descends level' rest) (ss : List RawSymbol) :
    Descends level (rowsOfList uri depth ss ++ rest) := by
  match ss with
  | [] => exact hrest level hle
  | s :: ss =>
    rw [rowsOfList, List.append_assoc]
    exact descends_rows hle (fun _ h => descends_rowsOfList h hrest ss) s

end

mutual

lemma exists_node_of_mem_rows {depth : Nat} (address : Address) {row : Row} (s : RawSymbol)
    (h : row ∈ rows uri depth s) : ∃ n ∈ nodes address s, n.2.head? uri = some row.head := by
  match s with
  | .mk info children =>
    rw [rows] at h
    rw [nodes]
    split at h
    · cases h
    · rename_i head hhead
      rcases List.mem_cons.mp h with rfl | h
      · exact ⟨_, List.mem_cons_self, hhead⟩
      · obtain ⟨n, hn, heq⟩ := exists_node_of_mem_rowsOfChildren address children h
        exact ⟨n, List.mem_cons_of_mem _ hn, heq⟩

lemma exists_node_of_mem_rowsOfChildren {depth : Nat} (address : Address) {row : Row}
    (children : Option (List RawSymbol)) (h : row ∈ rowsOfChildren uri depth children) :
    ∃ n ∈ nodesOfChildren address children, n.2.head? uri = some row.head := by
  match children with
  | none => cases h
  | some ss => exact exists_node_of_mem_rowsOfList address 0 ss h

/-- Every row is that of a named node. -/
lemma exists_node_of_mem_rowsOfList {depth : Nat} (address : Address) (i : Nat) {row : Row}
    (ss : List RawSymbol) (h : row ∈ rowsOfList uri depth ss) :
    ∃ n ∈ nodesOfList address i ss, n.2.head? uri = some row.head := by
  match ss with
  | [] => cases h
  | s :: ss =>
    rw [rowsOfList, List.mem_append] at h
    rw [nodesOfList]
    rcases h with h | h
    · obtain ⟨n, hn, heq⟩ := exists_node_of_mem_rows (address ++ [i]) s h
      exact ⟨n, List.mem_append_left _ hn, heq⟩
    · obtain ⟨n, hn, heq⟩ := exists_node_of_mem_rowsOfList address (i + 1) ss h
      exact ⟨n, List.mem_append_right _ hn, heq⟩

end

/-- The entries of an answer itself are among its nodes. -/
lemma exists_node_of_mem {s : RawSymbol} (address : Address) (i : Nat) {ss : List RawSymbol}
    (hs : s ∈ ss) : ∃ n ∈ nodesOfList address i ss, n.2 = s.info := by
  induction ss generalizing i with
  | nil => cases hs
  | cons first ss ih =>
    rw [nodesOfList]
    rcases List.mem_cons.mp hs with rfl | hs
    · obtain ⟨info, children⟩ := s
      rw [nodes, List.cons_append]
      exact ⟨_, List.mem_cons_self, rfl⟩
    · obtain ⟨n, hn, heq⟩ := ih (i + 1) hs
      exact ⟨n, List.mem_append_right _ hn, heq⟩

end RawSymbol

variable {uri : Uri} {raw : List RawSymbol} {s t u : Symbol}

lemma descends_outlineOf (uri : Uri) (raw : List RawSymbol) : Descends 0 (outlineOf uri raw) := by
  unfold outlineOf
  split
  · exact @descends_nest [] _ (flatHeads_sorted uri raw)
  · have hrows : Descends 0 (RawSymbol.rowsOfList uri 0 raw ++ []) :=
      RawSymbol.descends_rowsOfList (Nat.le_refl 0) (fun _ _ => show Descends _ [] from trivial)
        raw
    rwa [List.append_nil] at hrows

lemma tied_of_mem_build (hs : s ∈ (SymbolTree.build uri raw).symbols) :
    Tied (SymbolTree.build uri raw).symbols s :=
  tied_of_mem_tieRows (descends_outlineOf uri raw) hs

/-- Every symbol of a tree comes from an entry of the answer, at whatever depth. -/
lemma exists_node_of_mem_build (hs : s ∈ (SymbolTree.build uri raw).symbols) :
    ∃ n ∈ RawSymbol.nodesOf raw, n.2.head? uri = some s.head := by
  have hrow : s.head ∈ (outlineOf uri raw).map Row.head := by
    rw [← map_head_tieRows [] 0]
    exact List.mem_map_of_mem hs
  obtain ⟨row, hrow, hhead⟩ := List.mem_map.mp hrow
  rw [← hhead]
  unfold outlineOf at hrow
  split at hrow
  · have hmem : row.head ∈ flatHeads uri raw := by
      rw [← map_head_nest [] (flatHeads uri raw)]
      exact List.mem_map_of_mem hrow
    rw [flatHeads, List.mem_mergeSort, List.mem_filterMap] at hmem
    obtain ⟨entry, hentry, heq⟩ := hmem
    obtain ⟨n, hn, hinfo⟩ := RawSymbol.exists_node_of_mem [] 0 hentry
    exact ⟨n, hn, by rw [hinfo, heq]⟩
  · exact RawSymbol.exists_node_of_mem_rowsOfList [] 0 raw hrow

lemma RawInfo.name_ne_empty_of_head? {info : RawInfo} {head : SymbolHead}
    (h : info.head? uri = some head) : head.name ≠ "" := by
  unfold head? at h
  split at h
  · cases h
  · split at h
    · cases h
    · rename_i hname
      cases h
      simpa using hname

/-! ### What is inside a symbol -/

namespace SymbolTree

/-- `u` is `s`, or it stands inside `s`, directly or inside something else that does. -/
def Inside (tree : SymbolTree) (s u : Symbol) : Prop :=
  Relation.ReflTransGen (fun p c => c ∈ tree.children p) s u

variable {tree : SymbolTree}

lemma mem_children_iff {p c : Symbol} :
    c ∈ tree.children p ↔ c ∈ tree.symbols ∧ c.parent = some p.id := by
  simp [children]

lemma mem_roots_iff : s ∈ tree.roots ↔ s ∈ tree.symbols ∧ s.parent = none := by
  simp [roots]

lemma Inside.mem (h : tree.Inside s u) (hs : s ∈ tree.symbols) : u ∈ tree.symbols := by
  cases h with
  | refl => exact hs
  | tail _ hchild => exact (mem_children_iff.mp hchild).1

section Tied

variable (hids : tree.symbols.map Symbol.id = List.range tree.symbols.length)
  (htied : ∀ s ∈ tree.symbols, Tied tree.symbols s) (hs : s ∈ tree.symbols)
include hids htied hs

end Tied

end SymbolTree

end Outline
