import Outline.Change.Plan
import Outline.Diagnostic.Report
import Outline.Host.Basic
import Outline.Symbol.NamePath
import Outline.Symbol.Summary
import Outline.Usage
import Outline.Workspace

/-!
# The operations of the tools

Each operation asks the host anew for the symbols of the file it works on. A request that times out
counts as an empty answer; every other failure ends the operation.
-/

namespace Outline.Engine

variable {σ : Type} [Host σ]

/-! ### Files and symbols -/

/-- The URI of the file that a path names. -/
def locate (root : Path) (path : String) : Action σ ToolError Uri := do
  let state ← get
  match (Host.disk state).locate root path with
  | .ok uri  => return uri
  | .error e => throw e

/-- The symbols of a document. -/
def loadTree (uri : Uri) : Action σ ToolError SymbolTree := do
  let raw ← .ofHost (.orEmpty [] (Host.documentSymbols uri))
  return .build uri raw

/-- The symbol that a name path names in a file. -/
def resolveSymbol (root : Path) (namePath path : String) : Action σ ToolError Symbol := do
  let uri ← locate root path
  let tree ← loadTree uri
  if tree.isEmpty then
    throw (.noSymbols path)
  match tree.resolve namePath with
  | some symbol => return symbol
  | none        => throw (.symbolNotFound namePath)

/-- The position at which the server is asked about a symbol: the start of its name, if that is
known. -/
def anchor (symbol : Symbol) : Except ToolError Position :=
  match symbol.head.selectionRange <|> symbol.range with
  | some range => .ok range.start
  | none       => .error (.missingRange symbol.namePath)

/-! ### Looking -/

/-- The symbols at the top level of a file by kind, with those inside them. -/
def overview (root : Path) (path : String) (depth : Nat) : Action σ ToolError SymbolGroups := do
  let tree ← loadTree (← locate root path)
  return SymbolSummary.groupByKind (tree.roots.map (tree.summarize depth))

/-- The symbols of a file whose name path contains a pattern, by kind. -/
def findSymbol (root : Path) (pattern path : String) (depth : Nat) :
    Action σ ToolError SymbolGroups := do
  let tree ← loadTree (← locate root path)
  let found := tree.symbols.filter fun s => contains s.namePath pattern
  return SymbolSummary.groupByKind (found.map (tree.summarize depth))

/-- What is known of a document with usages. -/
structure DocumentView where
  tree : Option SymbolTree
  text : Option String

/-- Asks for the symbols and the text of a document; either may be unknown. -/
def loadView (uri : Uri) : Action σ ToolError DocumentView := do
  let tree ← Action.attempt (loadTree uri)
  let text ← Action.attempt (.ofHost (Host.documentText uri))
  return ⟨tree, text⟩

/-- The usages at some locations. Each document is asked about once; `seen` holds those asked
about. -/
def usagesAt (root : Path) : (seen : Keyed Uri DocumentView) → List Location →
    Action σ ToolError (List Usage)
  | _,    []      => return []
  | seen, l :: ls => do
    let view ←
      match Keyed.get? l.uri seen with
      | some view => pure view
      | none      => loadView l.uri
    let rest ← usagesAt root (Keyed.insert l.uri view seen) ls
    return .ofLocation root l view.tree view.text :: rest

/-- Where a symbol is used, its declaration left out. -/
def findUsages (root : Path) (namePath path : String) : Action σ ToolError UsageGroups := do
  let symbol ← resolveSymbol root namePath path
  let position ← anchor symbol
  let locations ← .ofHost (.orEmpty [] (Host.references symbol.uri position false))
  return Usage.group (← usagesAt root [] locations)

/-- Diagnostics as text. -/
structure DiagnosticsReport where
  count  : Nat
  report : String
  deriving DecidableEq, Repr, Inhabited

/-- The sections of a report, one for each document that has diagnostics. -/
def reportSections (root : Path) (includeSource : Bool) : List (Uri × List Diagnostic) →
    Action σ ToolError (List String)
  | []               => return []
  | (uri, ds) :: docs => do
    if ds.isEmpty then
      reportSections root includeSource docs
    else
      let source ←
        if includeSource then Action.attempt (.ofHost (Host.documentText uri)) else pure none
      let rest ← reportSections root includeSource docs
      return Diagnostic.describeAll (displayPath root uri) source ds :: rest

/-- The diagnostics of a file, or of all documents. -/
def diagnostics (root : Path) (path : Option String) (includeSource : Bool) :
    Action σ ToolError DiagnosticsReport := do
  let documents ←
    match path with
    | some path =>
      let uri ← locate root path
      let ds ← .ofState (Host.diagnostics uri)
      pure [(uri, ds)]
    | none => .ofState Host.allDiagnostics
  let sections ← reportSections root includeSource documents
  return { count := documents.foldr (fun d n => d.2.length + n) 0, report := "\n".intercalate sections }

/-- What is shown of a symbol of the workspace. -/
structure WorkspaceSymbol where
  name          : String
  kind          : String
  containerName : Option String
  relativePath  : String
  line          : Nat
  deriving DecidableEq, Repr, Inhabited

/-- What is shown of a symbol that a server found. -/
def WorkspaceSymbol.ofHit (root : Path) (hit : WorkspaceHit) : WorkspaceSymbol :=
  { name := hit.name, kind := hit.kind.label, containerName := hit.containerName,
    relativePath := displayPath root hit.location.uri, line := hit.location.range.start.oneBased.1 }

/-- The first symbols of the workspace that match a query; those of other files only if wanted. -/
def workspaceSymbols (root : Path) (query : String) (includeExternal : Bool) (limit : Nat) :
    Action σ ToolError (List WorkspaceSymbol) := do
  let hits ← .ofHost (.orEmpty [] (Host.workspaceSymbols query))
  let wanted := hits.filter fun hit => includeExternal || isInside root hit.location.uri
  return (wanted.take limit).map (.ofHit root)

/-! ### Changing -/

/-- Tells that an edit is done. -/
structure EditOutcome where
  namePath : String
  /-- Number of documents of the plan. -/
  changes  : Nat
  deriving DecidableEq, Repr, Inhabited

/-- Has a plan for a symbol applied. -/
def applyPlan (symbol : Symbol) (plan : EditPlan) : Action σ ToolError EditOutcome := do
  .ofHost (Host.applyEdits plan.changes)
  return { namePath := symbol.namePath, changes := plan.documentCount }

/-- Edits the text of a symbol. -/
def editSymbol (root : Path) (namePath path : String) (intent : Intent) :
    Action σ ToolError EditOutcome := do
  let symbol ← resolveSymbol root namePath path
  let plan ← planEdit symbol intent
  applyPlan symbol plan

/-- Gives a symbol another name everywhere. -/
def renameSymbol (root : Path) (namePath path newName : String) :
    Action σ ToolError EditOutcome := do
  if isBlankText newName then
    throw (.invalidArguments "new name must not be empty")
  let symbol ← resolveSymbol root namePath path
  let position ← anchor symbol
  let answer ← .ofHost (.orEmpty none (Host.rename symbol.uri position newName))
  match answer.bind planRename with
  | some plan => applyPlan symbol plan
  | none      => throw (.renameFailed ("no edits for `" ++ namePath ++ "`"))

end Outline.Engine
