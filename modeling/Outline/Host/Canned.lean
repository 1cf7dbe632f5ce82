import Outline.Buffer.Commit
import Outline.Host.Basic

/-!
# A host with fixed answers

A host in memory: its answers are given beforehand, any request can be made to fail, and every call
is recorded. Edits are applied to the files of its disk as one change.
-/

namespace Outline

/-- A request that can be made to fail. -/
inductive Request where
  | documentSymbols
  | references
  | rename
  | applyEdits
  | documentText
  | workspaceSymbols
  deriving DecidableEq, Repr

/-- A call of a host. -/
inductive HostCall where
  | documentSymbols (uri : Uri)
  | references (uri : Uri) (position : Position) (includeDeclaration : Bool)
  | rename (uri : Uri) (position : Position) (newName : String)
  | applyEdits (changes : EditSet)
  | documentText (uri : Uri)
  | diagnostics (uri : Uri)
  | allDiagnostics
  | workspaceSymbols (query : String)
  deriving DecidableEq, Repr

/-- A host with fixed answers. -/
structure CannedHost where
  disk             : Disk
  symbols          : Keyed Uri (List RawSymbol) := []
  references       : List Location := []
  rename           : Option WorkspaceEdit := none
  diagnostics      : Keyed Uri (List Diagnostic) := []
  workspaceSymbols : List WorkspaceHit := []
  /-- How a request fails; all others succeed. -/
  failure?         : Request → Option HostError := fun _ => none
  /-- The calls made, the last one first. -/
  calls            : List HostCall := []

/-- The text of the file of a document. -/
def Disk.documentText (disk : Disk) (uri : Uri) : Except HostError String :=
  match uri.path? with
  | none      => .error (.documentNotFound uri.text)
  | some path =>
    match disk.readText path with
    | .ok text => .ok text
    | .error e => .error (.io e.message)

/-- Opens the documents of an edit set with the texts of their files. -/
def Disk.openAll (disk : Disk) (changes : EditSet) : Except HostError Buffers :=
  changes.foldlM (fun (b : Buffers) change => do
    return b.openDocument change.1 (← disk.documentText change.1)) []

namespace CannedHost

/-- Records a call; fails if the request is to fail. -/
def record (call : HostCall) (request : Request) : Action CannedHost HostError Unit := do
  modify fun h => { h with calls := call :: h.calls }
  match (← get).failure? request with
  | some e => throw e
  | none   => return

/-- Applies an edit set to the files as one change. -/
def applyToFiles (changes : EditSet) : Action CannedHost HostError Unit := do
  let disk := (← get).disk
  let changes ← disk.canonicalChanges changes
  let buffers ← disk.openAll changes
  let (disk, _, outcome) := buffers.apply disk changes
  modify fun h => { h with disk := disk }
  let _ ← outcome

instance : Host CannedHost where
  disk := disk
  documentSymbols uri := do
    record (.documentSymbols uri) .documentSymbols
    return (Keyed.get? uri (← get).symbols).getD []
  references uri position includeDeclaration := do
    record (.references uri position includeDeclaration) .references
    return (← get).references
  rename uri position newName := do
    record (.rename uri position newName) .rename
    return (← get).rename
  applyEdits changes := do
    record (.applyEdits changes) .applyEdits
    applyToFiles changes
  documentText uri := do
    record (.documentText uri) .documentText
    (← get).disk.documentText uri
  diagnostics uri := do
    modify fun h => { h with calls := .diagnostics uri :: h.calls }
    return (Keyed.get? uri (← get).diagnostics).getD []
  allDiagnostics := do
    modify fun h => { h with calls := .allDiagnostics :: h.calls }
    return (← get).diagnostics
  workspaceSymbols query := do
    record (.workspaceSymbols query) .workspaceSymbols
    return (← get).workspaceSymbols

end CannedHost

end Outline
