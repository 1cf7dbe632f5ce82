import Outline.Symbol.Tree
import Outline.Text.Lines
import Outline.Workspace

/-!
# Usages of a symbol

A location where a symbol is used, with the path of its document, the symbol at the top level that
starts on its line, and the lines around it; grouped by document and by the kind of that symbol.
-/

namespace Outline

/-- The symbol that a usage belongs to. -/
structure Owner where
  name     : String
  namePath : String
  kind     : String
  deriving DecidableEq, Repr, Inhabited

/-- A place where a symbol is used, counted from one. -/
structure Usage where
  relativePath    : String
  line            : Nat
  column          : Nat
  owner           : Option Owner
  surroundingText : String
  deriving DecidableEq, Repr, Inhabited

/-- Usages by document, then by the kind of the symbol they belong to. -/
abbrev UsageGroups := Keyed String (Keyed String (List Usage))

namespace Usage

/-- The owner a symbol makes. -/
def ownerOf (s : Symbol) : Owner := ⟨s.name, s.namePath, s.label⟩

/-- The usage at a location, with what is known of its document. -/
def ofLocation (root : Path) (location : Location) (tree : Option SymbolTree)
    (text : Option String) : Usage :=
  let line := location.range.start.line
  { relativePath := displayPath root location.uri
    line := location.range.start.oneBased.1, column := location.range.start.oneBased.2
    owner := (tree.bind (·.enclosing? line)).map ownerOf
    surroundingText := (text.map (Outline.surroundingText · line)).getD "" }

/-- The label a usage is grouped under. -/
def label (u : Usage) : String := (u.owner.map Owner.kind).getD SymbolKind.unknown

/-- Groups usages, keeping their order in each group. -/
def group (usages : List Usage) : UsageGroups :=
  usages.foldl (fun groups u =>
    Keyed.upsert u.relativePath (fun kinds => Keyed.append u.label [u] (kinds.getD [])) groups) []

def toJson (u : Usage) : Json :=
  .obj ([("relativePath", .str u.relativePath), ("line", .nat u.line), ("column", .nat u.column)] ++
    Json.optional "enclosingSymbol" (u.owner.map fun o =>
      .obj [("name", .str o.name), ("namePath", .str o.namePath), ("kind", .str o.kind)]) ++
    [("surroundingText", .str u.surroundingText)])

end Usage

/-- Groups as an object of objects of lists. -/
def UsageGroups.toJson (groups : UsageGroups) : Json :=
  .obj (groups.map fun (path, kinds) =>
    (path, .obj (kinds.map fun (kind, usages) => (kind, .arr (usages.map Usage.toJson)))))

end Outline
