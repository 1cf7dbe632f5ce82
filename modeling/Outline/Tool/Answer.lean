import Outline.Engine
import Outline.Tool.Call

/-!
# Answers of the tools

Runs a call and words its result: as JSON when it succeeds, as an object with the error otherwise.
-/

namespace Outline

namespace Engine

def EditOutcome.toJson (o : EditOutcome) : Json :=
  .obj [("namePath", .str o.namePath), ("changes", .nat o.changes)]

def DiagnosticsReport.toJson (r : DiagnosticsReport) : Json :=
  .obj [("count", .nat r.count), ("report", .str r.report)]

def WorkspaceSymbol.toJson (s : WorkspaceSymbol) : Json :=
  .obj ([("name", .str s.name), ("kind", .str s.kind)] ++
    Json.optional "containerName" (s.containerName.map .str) ++
    [("relativePath", .str s.relativePath), ("line", .nat s.line)])

end Engine

/-- Runs a call in the workspace at `root`. -/
def ToolCall.run {σ : Type} [Host σ] (root : Path) : ToolCall → Action σ ToolError Json
  | symbolsOverview path depth => do
    return (← Engine.overview root path depth).toJson
  | findSymbol pattern path depth => do
    return (← Engine.findSymbol root pattern path depth).toJson
  | findUsages a => do
    return (← Engine.findUsages root a.namePath a.path).toJson
  | replaceBody a body => do
    return (← Engine.editSymbol root a.namePath a.path (.replace body)).toJson
  | insertAfter a body => do
    return (← Engine.editSymbol root a.namePath a.path (.insertAfter body)).toJson
  | insertBefore a body => do
    return (← Engine.editSymbol root a.namePath a.path (.insertBefore body)).toJson
  | renameSymbol a newName => do
    return (← Engine.renameSymbol root a.namePath a.path newName).toJson
  | diagnostics path includeSource => do
    return (← Engine.diagnostics root path includeSource).toJson
  | workspaceSymbols query includeExternal maxResults => do
    let found ← Engine.workspaceSymbols root query includeExternal maxResults
    return .arr (found.map Engine.WorkspaceSymbol.toJson)

end Outline
