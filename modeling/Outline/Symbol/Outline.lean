import Outline.Symbol.Raw

/-!
# Outlines

An outline is the list of the named symbols of a document in reading order, each with its depth.
A nested answer gives its symbols in preorder. A flat answer is put in the order of the ranges,
outer ranges first, and a symbol then stands inside the nearest symbol before it whose range
strictly contains its own. A symbol without a name is left out with all that is in it.
-/

namespace Outline

/-- A named symbol by itself. -/
structure SymbolHead where
  name           : String
  kind           : Option SymbolKind
  detail         : Option String
  range          : Option Range
  selectionRange : Option Range
  uri            : Uri
  deriving DecidableEq, Repr, Inhabited

/-- A line of an outline. -/
structure Row where
  depth : Nat
  head  : SymbolHead
  deriving DecidableEq, Repr, Inhabited

/-- The named symbol of an entry of an answer about the document `uri`, unless it has no name. -/
def RawInfo.head? (uri : Uri) (i : RawInfo) : Option SymbolHead :=
  match i.name with
  | none      => none
  | some name =>
    if name.isEmpty then none
    else some {
      name, kind := i.kind, detail := i.detail, range := i.effectiveRange,
      selectionRange := i.selectionRange, uri := (i.location.bind RawLocation.uri).getD uri }

/-! ### Nested answers -/

mutual

/-- A symbol and what is in it, in preorder. -/
def RawSymbol.rows (uri : Uri) (depth : Nat) : RawSymbol → List Row
  | .mk info children =>
    match info.head? uri with
    | none      => []
    | some head => ⟨depth, head⟩ :: RawSymbol.rowsOfChildren uri (depth + 1) children

def RawSymbol.rowsOfChildren (uri : Uri) (depth : Nat) : Option (List RawSymbol) → List Row
  | none    => []
  | some ss => RawSymbol.rowsOfList uri depth ss

def RawSymbol.rowsOfList (uri : Uri) (depth : Nat) : List RawSymbol → List Row
  | []      => []
  | s :: ss => RawSymbol.rows uri depth s ++ RawSymbol.rowsOfList uri depth ss

end

/-! ### Flat answers -/

namespace SymbolHead

/-- Order of the symbols of a flat answer: by start, outer before inner, and last those without a
range. -/
def le (a b : SymbolHead) : Bool :=
  match a.range, b.range with
  | _,      none   => true
  | none,   some _ => false
  | some r, some s => if r.start = s.start then s.stop.le r.stop else r.start.le s.start

end SymbolHead

/-- Nests ordered symbols; `around` holds the ranges the symbol before stands in and its own,
innermost first. -/
def nest : (around : List Range) → List SymbolHead → List Row
  | _,      []      => []
  | around, h :: hs =>
    match h.range with
    | none   => ⟨0, h⟩ :: nest around hs
    | some r =>
      let around := around.dropWhile fun outer => !outer.strictlyContains r
      ⟨around.length, h⟩ :: nest (r :: around) hs

/-- The rows of a flat answer. -/
def flatRows (uri : Uri) (raw : List RawSymbol) : List Row :=
  nest [] ((raw.filterMap fun s => s.info.head? uri).mergeSort SymbolHead.le)

/-- The outline of an answer about the document `uri`. -/
def outlineOf (uri : Uri) (raw : List RawSymbol) : List Row :=
  if !raw.isEmpty && raw.all RawSymbol.isFlat then flatRows uri raw
  else RawSymbol.rowsOfList uri 0 raw

end Outline
