import Outline.Change.WorkspaceEdit
import Outline.Disk.Path
import Outline.Json.Described
import Outline.Uri.FilePath

/-!
# Messages between client and server

What the client sends, and how a server reacts to a request: with notes, and then with a result, an
error, or nothing.
-/

namespace Outline

/-- What the client sends. -/
inductive ClientMessage where
  /-- Asks the server to work in a directory. -/
  | start (root : List Name)
  /-- The server may start to work. -/
  | started
  | didOpen (uri : Uri) (languageId text : String)
  | didChange (uri : Uri) (version : Nat) (text : String)
  | documentSymbols (uri : Uri)
  | references (uri : Uri) (position : Position) (includeDeclaration : Bool)
  | rename (uri : Uri) (position : Position) (newName : String)
  | workspaceSymbols (query : String)
  /-- Answers a question of the server with the error that its method is unknown. -/
  | refusal (method : String)
  | shutdown
  | exit
  deriving DecidableEq, Repr

/-- An error that a server answers with. -/
structure ResponseError where
  code    : Int
  message : String
  data    : Option Json
  deriving Inhabited

/-- How a server takes a request. -/
inductive ReplyOutcome where
  /-- It ends without an answer. -/
  | ends
  /-- It gives no answer. -/
  | silent
  | failure (e : ResponseError)
  | result (v : Json)

/-- Something a server sends before it answers. -/
inductive ServerNote where
  /-- It tells something. -/
  | news (method : String) (params : Json)
  /-- It asks something. -/
  | question (method : String)
  /-- It answers the request with that number; requests are counted from zero. -/
  | answer (id : Int) (outcome : ReplyOutcome)
  /-- It sends what is no message. -/
  | garbage

/-- The reaction of a server to a request. -/
structure Reply where
  /-- What the server tells before it answers. -/
  notes   : List ServerNote
  outcome : ReplyOutcome

namespace ResponseError

def ofJson : Json → Option ResponseError :=
  Json.record do
    return {
      code    := ← Json.required "code" Json.int32?
      message := ← Json.required "message" Json.text?
      data    := ← Json.nullable "data" some }

def toJson (e : ResponseError) : Json :=
  .obj [("code", .int e.code), ("message", .str e.message), ("data", e.data.getD .null)]

/-- The error that a method is unknown. -/
def unknownMethod (method : String) : ResponseError :=
  ⟨-32601, "No such method " ++ method, none⟩

/-- The error in a message. -/
def text (e : ResponseError) : String :=
  "ResponseError \x7b code: ErrorCode(" ++ toString e.code ++ "), message: " ++
    Quoted.encode e.message ++ ", data: " ++
    (match e.data with
      | none   => "None"
      | some v => "Some(" ++ v.described ++ ")") ++ " \x7d"

end ResponseError

namespace ClientMessage

/-- The method of a message; an answer has none. -/
def method? : ClientMessage → Option String
  | start _            => some "initialize"
  | started            => some "initialized"
  | didOpen _ _ _      => some "textDocument/didOpen"
  | didChange _ _ _    => some "textDocument/didChange"
  | documentSymbols _  => some "textDocument/documentSymbol"
  | references _ _ _   => some "textDocument/references"
  | rename _ _ _       => some "textDocument/rename"
  | workspaceSymbols _ => some "workspace/symbol"
  | refusal _          => none
  | shutdown           => some "shutdown"
  | exit               => some "exit"

/-- The message asks for an answer. -/
def isRequest : ClientMessage → Bool
  | start _ | documentSymbols _ | references _ _ _ | rename _ _ _ | workspaceSymbols _ | shutdown =>
    true
  | _ => false

/-- The document a request is about. -/
def document? : ClientMessage → Option Uri
  | documentSymbols uri => some uri
  | references uri _ _  => some uri
  | rename uri _ _      => some uri
  | _                   => none

/-! ### Parameters -/

/-- What the client can do. -/
def clientCapabilities : Json :=
  let fixed : Json := .obj [("dynamicRegistration", .bool false)]
  .obj [
    ("workspace", .obj [
      ("applyEdit", .bool true),
      ("workspaceEdit", .obj [("documentChanges", .bool true)]),
      ("didChangeConfiguration", fixed),
      ("symbol", fixed)]),
    ("textDocument", .obj [
      ("synchronization", .obj [("dynamicRegistration", .bool false), ("willSave", .bool false),
        ("willSaveWaitUntil", .bool false), ("didSave", .bool false)]),
      ("references", fixed),
      ("documentSymbol", .obj [("dynamicRegistration", .bool false),
        ("hierarchicalDocumentSymbolSupport", .bool true)]),
      ("rename", .obj [("dynamicRegistration", .bool false), ("prepareSupport", .bool false)]),
      ("publishDiagnostics", .obj [("relatedInformation", .bool false)])]),
    ("window", .obj [("workDoneProgress", .bool true)])]

/-- The name of a workspace: the last name of its root, if that is text. -/
def folderName (root : List Name) : String :=
  ((root.getLast?.bind fun name => String.fromUTF8? ⟨name.toArray⟩)).getD "workspace"

/-- How the server is asked to work in a directory. -/
def startParams (root : List Name) : Json :=
  .obj [
    ("rootUri", .null),
    ("capabilities", clientCapabilities),
    ("trace", .str "off"),
    ("workspaceFolders", .arr [
      .obj [("uri", (Uri.ofNames root).toJson), ("name", .str (folderName root))]]),
    ("clientInfo", .obj [("name", .str "symbolsmith"), ("version", .str "0.1.0")])]

/-- A document by its URI. -/
def documentParam (uri : Uri) : Json := .obj [("uri", uri.toJson)]

/-- The parameters of a message, if it has any. -/
def params? : ClientMessage → Option Json
  | start root => some (startParams root)
  | started    => some (.obj [])
  | didOpen uri languageId text => some (.obj [("textDocument", .obj [("uri", uri.toJson),
      ("languageId", .str languageId), ("version", .nat 0), ("text", .str text)])])
  | didChange uri version text => some (.obj [
      ("textDocument", .obj [("uri", uri.toJson), ("version", .nat version)]),
      ("contentChanges", .arr [.obj [("text", .str text)]])])
  | documentSymbols uri => some (.obj [("textDocument", documentParam uri)])
  | references uri position includeDeclaration => some (.obj [("textDocument", documentParam uri),
      ("position", position.toJson),
      ("context", .obj [("includeDeclaration", .bool includeDeclaration)])])
  | rename uri position newName => some (.obj [("textDocument", documentParam uri),
      ("position", position.toJson), ("newName", .str newName)])
  | workspaceSymbols query => some (.obj [("query", .str query)])
  | refusal _ => none
  | shutdown  => none
  | exit      => none

/-- The error of an answer. -/
def error? : ClientMessage → Option ResponseError
  | refusal method => some (.unknownMethod method)
  | _              => none

end ClientMessage

end Outline
