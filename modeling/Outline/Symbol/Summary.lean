import Outline.Symbol.Tree
import Outline.Json.Basic

/-!
# Summaries of symbols

What is shown of a symbol, with the symbols inside it down to a chosen depth, grouped by kind.
-/

namespace Outline

/-- What is shown of a symbol by itself. Lines are counted from one. -/
structure SummaryHead where
  name      : String
  namePath  : String
  kind      : String
  detail    : Option String
  startLine : Option Nat
  endLine   : Option Nat
  deriving DecidableEq, Repr, Inhabited

/-- What is shown of a symbol and of those inside it. -/
inductive SymbolSummary where
  | mk (head : SummaryHead) (children : List SymbolSummary)
  deriving Inhabited

/-- Summaries under the labels of their kinds. -/
abbrev SymbolGroups := Keyed String (List SymbolSummary)

/-- What is shown of a symbol by itself. -/
def Symbol.summaryHead (s : Symbol) : SummaryHead :=
  { name := s.name, namePath := s.namePath, kind := s.label, detail := s.head.detail,
    startLine := s.range.map fun r => r.start.oneBased.1,
    endLine   := s.range.map fun r => r.stop.oneBased.1 }

/-- A symbol with those inside it, `depth` levels down. -/
def SymbolTree.summarize (tree : SymbolTree) : (depth : Nat) → Symbol → SymbolSummary
  | 0,         s => .mk s.summaryHead []
  | depth + 1, s => .mk s.summaryHead ((tree.children s).map (tree.summarize depth))

namespace SymbolSummary

def head : SymbolSummary → SummaryHead
  | mk head _ => head

def children : SymbolSummary → List SymbolSummary
  | mk _ children => children

/-- Groups summaries by the labels of their kinds. -/
def groupByKind (summaries : List SymbolSummary) : SymbolGroups :=
  Keyed.group (·.head.kind) summaries

mutual

def toJson : SymbolSummary → Json
  | mk head children =>
    .obj ([("name", .str head.name), ("namePath", .str head.namePath), ("kind", .str head.kind)] ++
      Json.optional "detail" (head.detail.map .str) ++
      Json.optional "startLine" (head.startLine.map .nat) ++
      Json.optional "endLine" (head.endLine.map .nat) ++ childrenFields children)

def childrenFields : List SymbolSummary → List (String × Json)
  | []      => []
  | s :: ss => [("children", .arr (toJson s :: toJsonList ss))]

def toJsonList : List SymbolSummary → List Json
  | []      => []
  | s :: ss => toJson s :: toJsonList ss

end

end SymbolSummary

/-- Groups as an object from labels to lists. -/
def SymbolGroups.toJson (groups : SymbolGroups) : Json :=
  .obj (groups.map fun (label, summaries) => (label, .arr (summaries.map SymbolSummary.toJson)))

end Outline
