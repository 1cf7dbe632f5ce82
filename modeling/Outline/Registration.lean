import Outline.Disk.Operations
import Outline.Json.Parser
import Outline.Json.Printer

/-!
# Registration with a client

A client finds the servers of a project in the file `.mcp.json` of its directory. Registration adds
one server to that file and keeps everything else in it. The file is written beside its place and
moved there, so it is never half written.
-/

namespace Outline

/-- Why a registration fails. -/
inductive RegistrationError where
  | unreadable (e : IoError)
  | invalidJson
  | alreadyRegistered
  | unwritable (e : IoError)
  | notMoved (e : IoError)
  deriving DecidableEq, Repr

namespace RegistrationError

/-- The failure in words. -/
def message : RegistrationError → String
  | unreadable _      => "failed to read .mcp.json"
  | invalidJson       => "failed to parse .mcp.json - invalid JSON"
  | alreadyRegistered =>
    "symbolsmith is already configured in .mcp.json\n\n" ++
      "To reconfigure, first remove the existing entry, then run:\n  symbolsmith config"
  | unwritable _      => "failed to write temporary config file"
  | notMoved _        => "failed to rename temporary config file"

/-- What the file system had to say. -/
def cause? : RegistrationError → Option String
  | unreadable e => some e.message
  | unwritable e => some e.message
  | notMoved e   => some e.message
  | _            => none

end RegistrationError

namespace Registration

/-- The key of the table of servers. -/
def tableKey : String := "mcpServers"

/-- The name of the server, which is also its command. -/
def serverName : String := "symbolsmith"

/-- The arguments that start the server for this language server. -/
def arguments (languageServer : String) (serverArgs : List String) : List String :=
  ["--workspace", ".", "--language-server", languageServer] ++
    serverArgs.map ("--language-server-args=" ++ ·)

/-- The entry of the server. -/
def entry (languageServer : String) (serverArgs : List String) : Json :=
  .obj [("args", .arr ((arguments languageServer serverArgs).map .str)),
    ("command", .str serverName)]

/-- The fields of an object; anything else counts as an empty object. -/
def fieldsOf : Json → Keyed String Json
  | .obj fields => fields
  | _           => []

/-- The table of servers. -/
def tableOf (config : Keyed String Json) : Keyed String Json :=
  ((Keyed.get? tableKey config).map fieldsOf).getD []

/-- Adds an entry to a configuration; `none` if there is one already. -/
def addTo (config : Json) (newEntry : Json) : Option Json :=
  let fields := fieldsOf config
  let table := tableOf fields
  match Keyed.get? serverName table with
  | some _ => none
  | none   =>
    let table := Keyed.insert serverName newEntry table
    some (.obj (Keyed.insert tableKey (.obj table) fields))

/-- The configuration that a file holds; an empty one when the file is missing. -/
def current (disk : Disk) (file : Path) : Except RegistrationError Json := do
  if !disk.exists? file then
    return .obj []
  match disk.readText file with
  | .error e => throw (.unreadable e)
  | .ok text =>
    match Json.parse text with
    | some config => return config
    | none        => throw .invalidJson

/-- The text of the file after a registration. -/
def updatedText (disk : Disk) (file : Path) (languageServer : String) (serverArgs : List String) :
    Except RegistrationError String := do
  match addTo (← current disk file) (entry languageServer serverArgs) with
  | some config => return config.pretty
  | none        => throw .alreadyRegistered

/-- Registers the server in a directory. Gives the disk afterwards and the file, or the failure. -/
def register (disk : Disk) (directory : Path) (languageServer : String) (serverArgs : List String) :
    Disk × Except RegistrationError Path :=
  let file := directory.join (.ofText ".mcp.json")
  let temporary := directory.join (.ofText ".mcp.tmp")
  match updatedText disk file languageServer serverArgs with
  | .error e => (disk, .error e)
  | .ok text =>
    match disk.writeText temporary text with
    | .error e => (disk, .error (.unwritable e))
    | .ok disk =>
      match disk.rename temporary file with
      | .error e => (disk, .error (.notMoved e))
      | .ok disk => (disk, .ok file)

end Registration

end Outline
