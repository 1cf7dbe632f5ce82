import Outline.Symbol.Tree
import Outline.Text.Digits
import Outline.Text.Split

/-!
# Finding a symbol by its name path

A name path is followed from the top level down. Each segment is the name of a symbol, and then the
first of that name is meant, or `name[n]`, the symbol number `n` of that name, counted from zero.
-/

namespace Outline

namespace NamePath

/-- The segments of a name path; none when there is nothing but slashes. -/
def segments (namePath : String) : List String :=
  match trimBy (· = '/') namePath.toList with
  | [] => []
  | cs => (splitOn '/' cs).map String.ofList

/-- Takes `name[n]` apart; the last opening bracket counts. -/
def splitOrdinal? (segment : String) : Option (String × Nat) :=
  match segment.toList.reverse with
  | ']' :: body => do
    let digits := (body.takeWhile (· ≠ '[')).reverse
    match body.dropWhile (· ≠ '[') with
    | _ :: name => return (String.ofList name.reverse, ← number64? digits)
    | []        => none
  | _ => none

/-- The symbol of a segment among symbols side by side. -/
def pick (siblings : List Symbol) (segment : String) : Option Symbol :=
  match siblings.find? (·.name == segment) with
  | some s => some s
  | none   => do
    let (name, n) ← splitOrdinal? segment
    (siblings.filter (·.name == name))[n]?

/-- Follows segments from a symbol down. -/
def descend (tree : SymbolTree) : Symbol → List String → Option Symbol
  | s, []              => some s
  | s, segment :: rest => (pick (tree.children s) segment).bind (descend tree · rest)

end NamePath

/-- The symbol a name path leads to. -/
def SymbolTree.resolve (tree : SymbolTree) (namePath : String) : Option Symbol :=
  match NamePath.segments namePath with
  | []              => none
  | segment :: rest => (NamePath.pick tree.roots segment).bind (NamePath.descend tree · rest)

end Outline
