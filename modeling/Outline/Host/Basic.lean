import Outline.Change.WorkspaceEdit
import Outline.Diagnostic.Basic
import Outline.Disk.Basic
import Outline.Error
import Outline.Symbol.Raw

/-!
# Hosts

What the tools need of a language server and its documents. A host has a state that its operations
change, a failing operation as well; the disk is a part of it.
-/

namespace Outline

/-- A step that changes a state and may fail. What it did before it failed stays done. -/
abbrev Action (σ ε α : Type) := ExceptT ε (StateM σ) α

/-- A symbol that a server found anywhere. -/
structure WorkspaceHit where
  name          : String
  kind          : SymbolKind
  containerName : Option String
  location      : Location
  deriving DecidableEq, Repr, Inhabited

/-- A language server with its documents. -/
class Host (σ : Type) where
  /-- The files. -/
  disk             : σ → Disk
  /-- The symbols of a document. -/
  documentSymbols  : Uri → Action σ HostError (List RawSymbol)
  /-- Where the symbol at a position is used, perhaps with its declaration. -/
  references       : Uri → Position → Bool → Action σ HostError (List Location)
  /-- The change that gives the symbol at a position another name. -/
  rename           : Uri → Position → String → Action σ HostError (Option WorkspaceEdit)
  /-- Applies all edits of a set, or none. -/
  applyEdits       : EditSet → Action σ HostError Unit
  /-- The text of a document. -/
  documentText     : Uri → Action σ HostError String
  /-- The diagnostics of a document. -/
  diagnostics      : Uri → StateM σ (List Diagnostic)
  /-- The diagnostics of all documents that have any. -/
  allDiagnostics   : StateM σ (List (Uri × List Diagnostic))
  /-- The symbols of the workspace that match a query. -/
  workspaceSymbols : String → Action σ HostError (List WorkspaceHit)

namespace Action

variable {σ ε α : Type}

/-- Takes a timeout for the answer `empty`. -/
def orEmpty (empty : α) (request : Action σ HostError α) : Action σ HostError α :=
  tryCatch request fun e => if e.isTimeout then pure empty else throw e

/-- A step of the host as a step of a tool. -/
def ofHost (step : Action σ HostError α) : Action σ ToolError α := step.adapt ToolError.host

/-- The result of a step, if it does not fail. -/
def attempt (step : Action σ ε α) : Action σ ε (Option α) :=
  tryCatch (some <$> step) fun _ => pure none

/-- A step that cannot fail. -/
def ofState (step : StateM σ α) : Action σ ε α := ExceptT.lift step

end Action

end Outline
