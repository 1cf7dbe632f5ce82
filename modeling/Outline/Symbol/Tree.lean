import Outline.Symbol.Outline

/-!
# Symbol trees

The rows of an outline with their ties: each symbol gets its number, the number of the symbol it
stands in, and its name path, the names from the top level down with slashes between them.
-/

namespace Outline

/-- A symbol of a tree. -/
structure Symbol where
  /-- Place in the outline. -/
  id       : Nat
  head     : SymbolHead
  namePath : String
  depth    : Nat
  /-- Number of the symbol it stands in. -/
  parent   : Option Nat
  deriving DecidableEq, Repr, Inhabited

/-- All symbols of a document, in preorder. -/
structure SymbolTree where
  uri     : Uri
  symbols : List Symbol
  deriving DecidableEq, Repr, Inhabited

namespace Symbol

def name (s : Symbol) : String := s.head.name
def range (s : Symbol) : Option Range := s.head.range
def uri (s : Symbol) : Uri := s.head.uri

/-- The label of the symbol's kind. -/
def label (s : Symbol) : String := kindLabel s.head.kind

end Symbol

/-- Ties rows together. `chain` holds the symbol before and those it stands in, innermost first. -/
def tieRows : (chain : List Symbol) → (id : Nat) → List Row → List Symbol
  | _,     _,  []          => []
  | chain, id, row :: rows =>
    let above := chain.drop (chain.length - row.depth)
    let symbol : Symbol := {
      id, head := row.head, depth := row.depth,
      namePath := (above.head?.map fun p => p.namePath ++ "/").getD "" ++ row.head.name,
      parent   := above.head?.map Symbol.id }
    symbol :: tieRows (symbol :: above) (id + 1) rows

namespace SymbolTree

/-- The tree of an answer about the document `uri`. -/
def build (uri : Uri) (raw : List RawSymbol) : SymbolTree := ⟨uri, tieRows [] 0 (outlineOf uri raw)⟩

/-- The document has no named symbols. -/
def isEmpty (t : SymbolTree) : Bool := t.symbols.isEmpty

/-- Symbols at the top level. -/
def roots (t : SymbolTree) : List Symbol := t.symbols.filter (·.parent == none)

/-- Symbols directly inside a symbol. -/
def children (t : SymbolTree) (s : Symbol) : List Symbol := t.symbols.filter (·.parent == some s.id)

/-- The first symbol at the top level that starts on a line. -/
def enclosing? (t : SymbolTree) (line : Nat) : Option Symbol :=
  t.roots.find? fun s => s.range.any (·.start.line == line)

end SymbolTree

end Outline
