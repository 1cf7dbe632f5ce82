import Outline.Json.Decode

/-!
# Tool calls

The nine tools by name, and a call of a tool with its parameters, read from JSON and written back.
-/

namespace Outline

open Json

/-- The tools. -/
inductive ToolName where
  | symbolsOverview
  | findSymbol
  | findUsages
  | replaceBody
  | insertAfter
  | insertBefore
  | renameSymbol
  | diagnostics
  | workspaceSymbols
  deriving DecidableEq, Repr

namespace ToolName

/-- All tools, in the order of their names. -/
def all : List ToolName :=
  [findUsages, findSymbol, diagnostics, symbolsOverview, workspaceSymbols, insertAfter,
    insertBefore, renameSymbol, replaceBody]

def text : ToolName → String
  | symbolsOverview  => "get_symbols_overview"
  | findSymbol       => "find_symbol"
  | findUsages       => "find_referencing_symbols"
  | replaceBody      => "replace_symbol_body"
  | insertAfter      => "insert_after_symbol"
  | insertBefore     => "insert_before_symbol"
  | renameSymbol     => "rename_symbol"
  | diagnostics      => "get_diagnostics"
  | workspaceSymbols => "get_workspace_symbols"

/-- The tool of a name. -/
def ofText? (name : String) : Option ToolName := all.find? (·.text == name)

end ToolName

/-- Names a symbol: the name path in a file. -/
structure SymbolAddress where
  namePath : String
  path     : String
  deriving DecidableEq, Repr, Inhabited

/-- A call of a tool with its parameters. -/
inductive ToolCall where
  | symbolsOverview (path : String) (depth : Nat)
  | findSymbol (pattern path : String) (depth : Nat)
  | findUsages (symbol : SymbolAddress)
  | replaceBody (symbol : SymbolAddress) (body : String)
  | insertAfter (symbol : SymbolAddress) (body : String)
  | insertBefore (symbol : SymbolAddress) (body : String)
  | renameSymbol (symbol : SymbolAddress) (newName : String)
  | diagnostics (path : Option String) (includeSource : Bool)
  | workspaceSymbols (query : String) (includeExternal : Bool) (maxResults : Nat)
  deriving DecidableEq, Repr

namespace SymbolAddress

def fields : Fields SymbolAddress := do
  return { namePath := ← required "namePath" text?, path := ← required "path" text? }

def toFields (a : SymbolAddress) : List (String × Json) :=
  [("namePath", .str a.namePath), ("path", .str a.path)]

end SymbolAddress

namespace ToolCall

/-- How many symbols of the workspace are shown when nothing is said. -/
def defaultMaxResults : Nat := 50

/-- Reads the parameters of a tool. Tools that change a symbol take objects only. -/
def ofJson : ToolName → Json → Option ToolCall
  | .symbolsOverview => record do
    return symbolsOverview (← required "path" text?) (← withDefault "depth" nat64? 0)
  | .findSymbol => record do
    return findSymbol (← required "pattern" text?) (← required "path" text?)
      (← withDefault "depth" nat64? 0)
  | .findUsages => record do return findUsages (← SymbolAddress.fields)
  | .replaceBody => objectRecord do
    return replaceBody (← SymbolAddress.fields) (← required "body" text?)
  | .insertAfter => objectRecord do
    return insertAfter (← SymbolAddress.fields) (← required "body" text?)
  | .insertBefore => objectRecord do
    return insertBefore (← SymbolAddress.fields) (← required "body" text?)
  | .renameSymbol => objectRecord do
    return renameSymbol (← SymbolAddress.fields) (← required "newName" text?)
  | .diagnostics => record do
    return diagnostics (← omissible "path" text?) (← withDefault "includeSource" bool? false)
  | .workspaceSymbols => record do
    return workspaceSymbols (← required "query" text?) (← withDefault "includeExternal" bool? false)
      (← withDefault "maxResults" nat64? defaultMaxResults)

/-- Writes the parameters of a call. -/
def toJson : ToolCall → Json
  | symbolsOverview path depth => .obj [("path", .str path), ("depth", .nat depth)]
  | findSymbol pattern path depth =>
    .obj [("pattern", .str pattern), ("path", .str path), ("depth", .nat depth)]
  | findUsages symbol           => .obj symbol.toFields
  | replaceBody symbol body     => .obj (symbol.toFields ++ [("body", .str body)])
  | insertAfter symbol body     => .obj (symbol.toFields ++ [("body", .str body)])
  | insertBefore symbol body    => .obj (symbol.toFields ++ [("body", .str body)])
  | renameSymbol symbol newName => .obj (symbol.toFields ++ [("newName", .str newName)])
  | diagnostics path includeSource =>
    .obj [("path", (path.map .str).getD .null), ("includeSource", .bool includeSource)]
  | workspaceSymbols query includeExternal maxResults =>
    .obj [("query", .str query), ("includeExternal", .bool includeExternal),
      ("maxResults", .nat maxResults)]

end ToolCall

end Outline
