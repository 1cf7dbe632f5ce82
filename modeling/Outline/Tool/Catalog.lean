import Outline.Tool.Call

/-!
# The catalogue of the tools

What a client is told about each tool: what it does, and a schema of its parameters.
-/

namespace Outline

/-- The type of a parameter, with the value it has when it is left out. -/
inductive ParameterType where
  | text
  /-- Text that may be left out or `null`. -/
  | optionalText
  | flag (default : Bool)
  | count (default : Nat)
  deriving DecidableEq, Repr

/-- A parameter of a tool. -/
structure Parameter where
  name        : String
  description : String
  type        : ParameterType
  deriving DecidableEq, Repr

/-- The parameters of a tool, in their order. -/
structure ParameterList where
  title       : String
  description : String
  parameters  : List Parameter
  deriving DecidableEq, Repr

namespace Parameter

/-- The parameter must be given. -/
def isRequired (p : Parameter) : Bool := p.type == .text

/-- The schema of the type. -/
def typeFields : ParameterType → List (String × Json)
  | .text          => [("type", .str "string")]
  | .optionalText  => [("type", .str "string"), ("nullable", .bool true), ("default", .null)]
  | .flag default  => [("type", .str "boolean"), ("default", .bool default)]
  | .count default =>
    [("type", .str "integer"), ("format", .str "uint"), ("minimum", .nat 0),
      ("default", .nat default)]

/-- The schema of a parameter, by its name. -/
def schema (p : Parameter) : String × Json :=
  (p.name, .obj (("description", .str p.description) :: typeFields p.type))

end Parameter

/-- The schema of a list of parameters. -/
def ParameterList.schema (l : ParameterList) : Json :=
  let required := (l.parameters.filter Parameter.isRequired).map fun p => Json.str p.name
  .obj ([("$schema", .str "https://json-schema.org/draft/2020-12/schema"), ("title", .str l.title),
    ("description", .str l.description), ("type", .str "object"),
    ("properties", .obj (l.parameters.map Parameter.schema))] ++
    if required.isEmpty then [] else [("required", .arr required)])

namespace ToolName

/-- The parameters that name a symbol. -/
def addressParameters : List Parameter :=
  [⟨"namePath", "Slash-separated path of the symbol, e.g. `Foo/bar`. Use `name[n]` to pick the " ++
      "n-th sibling of that name", .text⟩,
   ⟨"path", "Path of the file declaring the symbol, relative to the workspace root", .text⟩]

/-- The parameters of the tools that write text at a symbol. -/
def bodyParameters : ParameterList :=
  ⟨"SymbolEditParams", "Parameters for the body replacement and insertion tools.",
    addressParameters ++
      [⟨"body", "Text to write, used verbatim. Match the indentation of the surrounding code",
        .text⟩]⟩

/-- The file a tool looks at. -/
def fileParameter : Parameter :=
  ⟨"path", "Path of the file, relative to the workspace root", .text⟩

/-- The parameters of a tool. -/
def parameters : ToolName → ParameterList
  | symbolsOverview =>
    ⟨"SymbolsOverviewParams", "Parameters for the `get_symbols_overview` tool.",
      [fileParameter,
       ⟨"depth", "Levels of children to include under each symbol (default: 0)", .count 0⟩]⟩
  | findSymbol =>
    ⟨"FindSymbolParams", "Parameters for the `find_symbol` tool.",
      [⟨"pattern", "Case-sensitive substring of the name path, e.g. `Foo/bar` or `bar`", .text⟩,
       fileParameter,
       ⟨"depth", "Levels of children to include under each match (default: 0)", .count 0⟩]⟩
  | findUsages =>
    ⟨"NamePathParams", "Parameters for tools addressing one symbol.", addressParameters⟩
  | replaceBody  => bodyParameters
  | insertAfter  => bodyParameters
  | insertBefore => bodyParameters
  | renameSymbol =>
    ⟨"RenameSymbolParams", "Parameters for the `rename_symbol` tool.",
      addressParameters ++ [⟨"newName", "New name for the symbol", .text⟩]⟩
  | diagnostics =>
    ⟨"DiagnosticsParams", "Parameters for the `get_diagnostics` tool.",
      [⟨"path", "Path of the file, relative to the workspace root. Omit to report every file " ++
          "with diagnostics", .optionalText⟩,
       ⟨"includeSource", "Include the offending source lines (default: false)", .flag false⟩]⟩
  | workspaceSymbols =>
    ⟨"WorkspaceSymbolsParams", "Parameters for the `get_workspace_symbols` tool.",
      [⟨"query", "Query string to search for symbols across the workspace", .text⟩,
       ⟨"includeExternal", "Include symbols from files outside the workspace, e.g. dependencies " ++
          "(default: false)", .flag false⟩,
       ⟨"maxResults", "Maximum number of results to return (default: 50)",
          .count ToolCall.defaultMaxResults⟩]⟩

/-- What a tool does. -/
def description : ToolName → String
  | symbolsOverview =>
    "List the top-level symbols of a file grouped by kind, optionally with their children. " ++
      "Start here to learn a file's structure and the name paths other tools take."
  | findSymbol =>
    "Find symbols in a file whose name path contains the pattern (case-sensitive), grouped by kind."
  | findUsages =>
    "Find every usage of a symbol across the workspace, excluding its declaration. Results are " ++
      "grouped by file, then by the kind of the enclosing symbol, with one line of context " ++
      "around each usage."
  | replaceBody =>
    "Replace the whole definition of a symbol, signature included, with the given text. The " ++
      "text is written verbatim."
  | insertAfter =>
    "Insert text on new lines directly after the end of a symbol's definition. Use it to add a " ++
      "sibling function, method or type."
  | insertBefore =>
    "Insert text before the first line of a symbol's definition. Use it to add imports, " ++
      "attributes or a preceding definition."
  | renameSymbol =>
    "Rename a symbol and update every reference to it across the workspace. Reports the number " ++
      "of files changed."
  | diagnostics =>
    "Get the diagnostics (errors, warnings, hints) the language server published for a file, or " ++
      "for every file when no path is given."
  | workspaceSymbols =>
    "Search symbols by name across the workspace. Find types, functions, or modules without " ++
      "knowing their location."

/-- A tool in the catalogue. -/
def toJson (t : ToolName) : Json :=
  .obj [("name", .str t.text), ("description", .str t.description),
    ("inputSchema", t.parameters.schema)]

end ToolName

/-- The catalogue, in the order of the names. -/
def toolCatalog : Json := .obj [("tools", .arr (ToolName.all.map ToolName.toJson))]

end Outline
