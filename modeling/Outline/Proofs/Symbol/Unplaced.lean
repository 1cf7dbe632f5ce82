import Mathlib.Data.List.Basic
import Outline.Proofs.Symbol.Ties
import Outline.Usage

/-!
# Symbols apart from their documents

The tree of an answer is built for a document, and every symbol for which the answer names no other
document is put there. Nothing else about the symbols depends on the document: without their URIs,
the symbols of two trees of one answer are the same. So whatever tree is taken, a usage has the same
owner.
-/

namespace Outline

/-- A symbol without its document. -/
def SymbolHead.unplaced (h : SymbolHead) : SymbolHead := { h with uri := default }

/-- A line of an outline without its document. -/
def Row.unplaced (r : Row) : Row := { r with head := r.head.unplaced }

/-- A symbol of a tree without its document. -/
def Symbol.unplaced (s : Symbol) : Symbol := { s with head := s.head.unplaced }

/-! ### Outlines -/

lemma RawInfo.map_unplaced_head? (i : RawInfo) (u v : Uri) :
    (i.head? u).map SymbolHead.unplaced = (i.head? v).map SymbolHead.unplaced := by
  unfold head?
  split
  · rfl
  · split
    · rfl
    · rfl

mutual

lemma RawSymbol.map_unplaced_rows (u v : Uri) (depth : Nat) (s : RawSymbol) :
    (s.rows u depth).map Row.unplaced = (s.rows v depth).map Row.unplaced := by
  obtain ⟨info, children⟩ := s
  have hhead := info.map_unplaced_head? u v
  rw [rows, rows]
  cases hu : info.head? u with
  | none =>
    rw [hu, Option.map_none, eq_comm, Option.map_eq_none_iff] at hhead
    rw [hhead]
  | some head =>
    rw [hu, Option.map_some, eq_comm, Option.map_eq_some_iff] at hhead
    obtain ⟨head', hv, hhead⟩ := hhead
    simp [hv, Row.unplaced, hhead, map_unplaced_rowsOfChildren u v (depth + 1) children]

lemma RawSymbol.map_unplaced_rowsOfChildren (u v : Uri) (depth : Nat)
    (children : Option (List RawSymbol)) :
    (rowsOfChildren u depth children).map Row.unplaced =
      (rowsOfChildren v depth children).map Row.unplaced := by
  cases children with
  | none => simp [rowsOfChildren]
  | some ss => simp [rowsOfChildren, map_unplaced_rowsOfList u v depth ss]

lemma RawSymbol.map_unplaced_rowsOfList (u v : Uri) (depth : Nat) (ss : List RawSymbol) :
    (rowsOfList u depth ss).map Row.unplaced = (rowsOfList v depth ss).map Row.unplaced := by
  cases ss with
  | nil => simp [rowsOfList]
  | cons s ss =>
    simp [rowsOfList, map_unplaced_rows u v depth s, map_unplaced_rowsOfList u v depth ss]

end

lemma map_unplaced_nest (around : List Range) (hs : List SymbolHead) :
    (nest around hs).map Row.unplaced = nest around (hs.map SymbolHead.unplaced) := by
  induction hs generalizing around with
  | nil => simp [nest]
  | cons h hs ih =>
    have hrange : h.unplaced.range = h.range := rfl
    rw [List.map_cons, nest, nest, hrange]
    cases h.range with
    | none => simp [ih, Row.unplaced]
    | some r => simp [ih, Row.unplaced]

lemma map_unplaced_flatRows (u v : Uri) (raw : List RawSymbol) :
    (flatRows u raw).map Row.unplaced = (flatRows v raw).map Row.unplaced := by
  have hheads (uri : Uri) : (flatRows uri raw).map Row.unplaced =
      nest [] ((raw.filterMap fun s => (s.info.head? uri).map SymbolHead.unplaced).mergeSort
        SymbolHead.le) := by
    rw [flatRows, map_unplaced_nest, ← List.map_filterMap]
    exact congrArg (nest []) (List.map_mergeSort fun _ _ _ _ => rfl)
  rw [hheads u, hheads v]
  simp only [RawInfo.map_unplaced_head? _ u v]

lemma map_unplaced_outlineOf (u v : Uri) (raw : List RawSymbol) :
    (outlineOf u raw).map Row.unplaced = (outlineOf v raw).map Row.unplaced := by
  unfold outlineOf
  split
  · exact map_unplaced_flatRows u v raw
  · exact RawSymbol.map_unplaced_rowsOfList u v 0 raw

/-! ### Trees -/

lemma Symbol.unplaced_ofRow (above : List Symbol) (id : Nat) (row : Row) :
    (ofRow above id row).unplaced = ofRow (above.map unplaced) id row.unplaced := by
  cases above with
  | nil => rfl
  | cons p above => rfl

lemma map_unplaced_tieRows (chain : List Symbol) (id : Nat) (rows : List Row) :
    (tieRows chain id rows).map Symbol.unplaced =
      tieRows (chain.map Symbol.unplaced) id (rows.map Row.unplaced) := by
  induction rows generalizing chain id with
  | nil => rfl
  | cons row rows ih =>
    have hdepth : row.unplaced.depth = row.depth := rfl
    rw [List.map_cons, tieRows_cons, tieRows_cons, List.map_cons, ih, List.map_cons,
      Symbol.unplaced_ofRow, hdepth, List.length_map, List.map_drop]

lemma map_unplaced_build (u v : Uri) (raw : List RawSymbol) :
    (SymbolTree.build u raw).symbols.map Symbol.unplaced =
      (SymbolTree.build v raw).symbols.map Symbol.unplaced := by
  rw [SymbolTree.build, SymbolTree.build, map_unplaced_tieRows, map_unplaced_tieRows,
    map_unplaced_outlineOf u v]

/-- The owner of a line is found without the documents of the symbols. -/
lemma SymbolTree.map_ownerOf_enclosing? (t : SymbolTree) (line : Nat) :
    (t.enclosing? line).map Usage.ownerOf =
      (((t.symbols.map Symbol.unplaced).filter (·.parent == none)).find?
        fun s => s.range.any (·.start.line == line)).map Usage.ownerOf := by
  rw [List.filter_map, List.find?_map, Option.map_map]
  rfl

lemma map_ownerOf_enclosing?_build (u v : Uri) (raw : List RawSymbol) (line : Nat) :
    ((SymbolTree.build u raw).enclosing? line).map Usage.ownerOf =
      ((SymbolTree.build v raw).enclosing? line).map Usage.ownerOf := by
  rw [SymbolTree.map_ownerOf_enclosing?, SymbolTree.map_ownerOf_enclosing?,
    map_unplaced_build u v]

lemma Usage.ofLocation_build (root : Path) (l : Location) (u v : Uri) (raw : List RawSymbol)
    (text : Option String) :
    ofLocation root l (some (.build u raw)) text = ofLocation root l (some (.build v raw)) text := by
  simp only [ofLocation, Option.bind_some, map_ownerOf_enclosing?_build u v]

end Outline
