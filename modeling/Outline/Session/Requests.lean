import Outline.Session.Basic
import Outline.Session.Capabilities

/-!
# Requests to the server

The requests of a session, from the first exchange to the shutdown, and a session as a host: the
tools always make sure that the server knows a document before they ask about it.
-/

namespace Outline

open Json

/-! ### Start and end -/

namespace Session

/-- The root of a session, with all links followed. -/
def rootPlace (disk : Disk) (cwd root : Path) : Except HostError Place :=
  match disk.canonicalize (cwd.join root) with
  | .ok place => .ok place
  | .error e  => .error (.setupFailed ("failed to canonicalize workspace root: " ++ e.message))

/-- Where a command with a slash leads, seen from a directory. -/
def commandEntry (disk : Disk) (root : Place) (command : Path) :
    Except IoError (Place × Entry) := do
  Disk.checkPath command
  (← disk.walk .find Disk.linkLimit (if command.isAbsolute then [] else root) command.pieces).need

/-- Why a command cannot be run in a directory. No file of a disk is a program, and a command
without a slash is none of its files. -/
def spawnError (disk : Disk) (root : Place) (command : String) : IoError :=
  let path := Path.ofText command
  if path.bytes.contains 0 then .nulInCommand
  else if disk.lookup root ≠ some .directory then .notDirectory
  else if path.bytes.contains Path.slash then
    match commandEntry disk root path with
    | .ok _    => .permissionDenied
    | .error e => e
  else if path.bytes.length > Disk.nameLimit then .nameTooLong
  else .notFound

/-- The failure of a command that cannot be run. -/
def spawnFailure (disk : Disk) (root : Place) (command : String) : HostError :=
  .startFailed ("failed to spawn '" ++ command ++ "': " ++ (spawnError disk root command).message)

/-- The first exchange with the server, which may take as long as `limit`. -/
def start (root : Place) (limit : Duration) : Action Session HostError Unit := do
  let renames ← (ask (.start root) Capabilities.ofStartResult).adapt fun
    | .noAnswer => HostError.timeout limit
    | e         => .setupFailed ("initialize request failed: " ++ e.text)
  (send .started).adapt fun e => .setupFailed ("initialized notification failed: " ++ e.text)
  modify fun s => { s with canRename := renames }

/-- The last exchange with the server. -/
def shutdown : Action Session HostError Unit := do
  (ask .shutdown fun v => match v with | .null => some () | _ => none).adapt fun e =>
    .requestFailed ("shutdown request failed: " ++ e.text)
  (send .exit).adapt fun e => .requestFailed ("exit notification failed: " ++ e.text)

/-! ### Asking about documents -/

/-- The symbols of a document. -/
def documentSymbols (uri : Uri) : Action Session HostError (List RawSymbol) := do
  return (← request "document_symbol" (.documentSymbols uri)
    (orNull? (list? RawSymbol.ofJson))).getD []

/-- Where the symbol at a position is used. -/
def references (uri : Uri) (position : Position) (includeDeclaration : Bool) :
    Action Session HostError (List Location) := do
  return (← request "references" (.references uri position includeDeclaration)
    (orNull? (list? Location.ofJson))).getD []

/-- The change that gives the symbol at a position another name. A server that cannot rename is not
asked. -/
def rename (uri : Uri) (position : Position) (newName : String) :
    Action Session HostError (Option WorkspaceEdit) := do
  if !(← get).canRename then
    return none
  request "rename" (.rename uri position newName) (orNull? WorkspaceEdit.ofJson)

/-- A symbol of the workspace in the flat shape. -/
def hitOfFlat (s : FlatSymbol) : WorkspaceHit := ⟨s.name, s.kind, s.containerName, s.location⟩

/-- A symbol of the workspace whose location may be a URI only, which stands for the start of the
document. -/
def hitOfJson : Json → Option WorkspaceHit :=
  record do
    let name ← required "name" text?
    let kind ← required "kind" SymbolKind.ofJson
    let _ ← nullable "tags" (list? int32?)
    let containerName ← nullable "containerName" text?
    let location ← required "location" fun v =>
      Location.ofJson v <|>
        (record (required "uri" Uri.ofJson) v).map fun uri => ⟨uri, .point ⟨0, 0⟩⟩
    let _ ← nullable "data" some
    return { name, kind, containerName, location }

/-- Symbols of the workspace: first read in the flat shape, then with locations that may be URIs
only. -/
def hitsOfJson (v : Json) : Option (List WorkspaceHit) :=
  list? (fun v => (FlatSymbol.ofJson v).map hitOfFlat) v <|> list? hitOfJson v

/-- The symbols of the workspace that match a query. -/
def workspaceSymbols (query : String) : Action Session HostError (List WorkspaceHit) := do
  return (← request "symbol" (.workspaceSymbols query) (orNull? hitsOfJson)).getD []

/-! ### A session as a host -/

instance : Host Session where
  disk := disk
  documentSymbols uri := do
    let _ ← ensureOpenUri uri
    documentSymbols uri
  references uri position includeDeclaration := do
    let _ ← ensureOpenUri uri
    references uri position includeDeclaration
  rename uri position newName := do
    let _ ← ensureOpenUri uri
    rename uri position newName
  applyEdits := applyEdits
  documentText := documentText
  diagnostics uri := do
    -- what was published last counts, whether or not the document can be opened
    let _ ← (ensureOpenUri uri).run
    return (← get).board.get uri
  allDiagnostics := do return (← get).board
  workspaceSymbols := workspaceSymbols

end Session

end Outline
