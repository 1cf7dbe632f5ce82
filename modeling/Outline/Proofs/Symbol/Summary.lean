import Mathlib
import Outline.Proofs.Keyed
import Outline.Proofs.Symbol.Addressing
import Outline.Symbol.Summary

/-!
# What a summary shows

Read in preorder, the summary of a symbol shows what is inside the symbol, down to the chosen depth,
in the order of the tree and each symbol once. The levels of the rows tell which row stands inside
which, so this fixes the whole summary. Symbols of one level that follow each other have blocks of
the tree that follow each other, so the same holds for lists of summaries.
-/

namespace Outline

/-! ### Rows of summaries -/

namespace SymbolSummary

mutual

/-- What a summary shows, in preorder, each with its level. -/
def rows (level : Nat) : SymbolSummary → List (Nat × SummaryHead)
  | mk head children => (level, head) :: rowsOfList (level + 1) children

def rowsOfList (level : Nat) : List SymbolSummary → List (Nat × SummaryHead)
  | []      => []
  | s :: ss => rows level s ++ rowsOfList level ss

end

/-- Leaves out what is more than `depth` levels below a summary. -/
def cut : (depth : Nat) → SymbolSummary → SymbolSummary
  | 0,         mk head _        => mk head []
  | depth + 1, mk head children => mk head (children.map (cut depth))

end SymbolSummary

/-- Leaves out what is more than `depth` levels below the summaries of groups. -/
def SymbolGroups.cut (depth : Nat) (groups : SymbolGroups) : SymbolGroups :=
  groups.map (Prod.map id (List.map (SymbolSummary.cut depth)))

namespace SymbolTree

variable {tree : SymbolTree} {s t : Symbol}

section Build

variable {uri : Uri} {raw : List RawSymbol}

end Build

end SymbolTree

/-! ### Groups of summaries -/

namespace SymbolTree

variable {uri : Uri} {raw : List RawSymbol} {depth : Nat} {shown : List Symbol}

end SymbolTree

end Outline
