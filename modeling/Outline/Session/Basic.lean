import Outline.Buffer.Commit
import Outline.Diagnostic.Board
import Outline.Host.Basic
import Outline.Session.Server

/-!
# Sessions

A session is the client's side of the work with one server: the buffers, the board of diagnostics
and the messages sent. The connection ends when the server goes away or tells something that cannot
be understood; nothing can be sent from then on.
-/

namespace Outline

/-- The client's side of the work with a server. -/
structure Session where
  server    : Server
  disk      : Disk
  /-- Messages the server has received, the last one first. -/
  sent      : List ClientMessage := []
  connected : Bool := true
  buffers   : Buffers := []
  board     : Board := []
  /-- The server can rename. -/
  canRename : Bool := false
  /-- How long a request may take. -/
  limit     : Duration

/-- Why an exchange with the server fails. -/
inductive TransportError where
  /-- No answer came in time. -/
  | noAnswer
  /-- The connection has ended. -/
  | stopped
  | response (e : ResponseError)
  /-- The result has the wrong shape. -/
  | unreadable

/-- The failure in a message. -/
def TransportError.text : TransportError → String
  | noAnswer   => "Timeout"
  | stopped    => "ServiceStopped"
  | response e => "Response(" ++ e.text ++ ")"
  | unreadable => "Deserialize"

/-! ### What the server tells -/

namespace ServerNote

open Json

/-- A message to be shown or logged. -/
def isMessage (v : Json) : Bool :=
  (record (do
    let _ ← required "type" int32?
    let _ ← required "message" text?) v).isSome

/-- The fields of a report on the progress of some work, by its stage. -/
def progressFields : String → Fields Unit
  | "begin" => do
    let _ ← required "title" text?
    let _ ← nullable "cancellable" bool?
    let _ ← nullable "message" text?
    let _ ← nullable "percentage" nat32?
  | "report" => do
    let _ ← nullable "cancellable" bool?
    let _ ← nullable "message" text?
    let _ ← nullable "percentage" nat32?
  | "end" => do
    let _ ← nullable "message" text?
  | _ => failure

/-- The value of a report on progress. -/
def progressValue? : Json → Option Unit := ofKind ["begin", "report", "end"] progressFields

/-- A report on progress. -/
def isProgress (v : Json) : Bool :=
  (record (do
    let _ ← required "token" fun v => v.int32?.map (fun _ => ()) <|> v.text?.map fun _ => ()
    let _ ← required "value" progressValue?) v).isSome

/-- Takes news in. The board changes with a publication; `none` when the news is not understood. -/
def takeNews (board : Board) (method : String) (params : Json) : Option Board :=
  if method = "textDocument/publishDiagnostics" then
    (Publication.ofJson params).map board.publish
  else if method = "window/logMessage" || method = "window/showMessage" then
    if isMessage params then some board else none
  else if method = "$/progress" then
    if isProgress params then some board else none
  else if method.startsWith "$/" then some board
  else none

/-- What the notes of a server come to. -/
structure Digest where
  board      : Board
  /-- Methods of the questions, in their order. -/
  questions  : List String := []
  /-- An answer to the request that is waited for. -/
  answer     : Option ReplyOutcome := none
  /-- All was understood. -/
  understood : Bool := true

/-- Takes one note in, while the request number `id` is waited for. -/
def take (id : Int) (d : Digest) : ServerNote → Digest
  | news method params =>
    match takeNews d.board method params with
    | some board => { d with board := board }
    | none       => { d with understood := false }
  | question method   => { d with questions := d.questions ++ [method] }
  | answer id' outcome =>
    if id' = id then { d with answer := d.answer.or (some outcome) } else d
  | garbage           => { d with understood := false }

/-- Takes notes in, up to the first that is not understood. -/
def takeAll (id : Int) : Digest → List ServerNote → Digest
  | d, []            => d
  | d, note :: notes =>
    let d := take id d note
    if d.understood then takeAll id d notes else d

end ServerNote

/-! ### Sending and asking -/

namespace Session

/-- Sends a message. -/
def send (m : ClientMessage) : Action Session TransportError Unit := do
  let s ← get
  if s.connected && s.server.accepts s.sent then
    set { s with sent := m :: s.sent }
  else
    set { s with connected := false }
    throw .stopped

/-- Tells the server that its questions have no answer. -/
def refuse : (methods : List String) → Action Session TransportError Unit
  | []                => return
  | method :: methods => do
    send (.refusal method)
    refuse methods

/-- What an answer brings. -/
def answered {α : Type} (decode : Json → Option α) :
    ReplyOutcome → Action Session TransportError α
  | .ends => do
    modify fun s => { s with connected := false }
    throw .stopped
  | .silent    => throw .noAnswer
  | .failure e => throw (.response e)
  | .result v  =>
    match decode v with
    | some a => return a
    | none   => throw .unreadable

/-- Sends a request and takes in what the server sends before it answers. -/
def ask {α : Type} (m : ClientMessage) (decode : Json → Option α) :
    Action Session TransportError α := do
  let id := ((← get).sent.filter (·.isRequest)).length
  send m
  let s ← get
  let reply := s.server.reply s.sent
  let digest := ServerNote.takeAll id ⟨s.board, [], none, true⟩ reply.notes
  set { s with board := digest.board }
  refuse digest.questions
  if !digest.understood then
    modify fun s => { s with connected := false }
  match digest.answer, digest.understood with
  | some outcome, _     => answered decode outcome
  | none,         true  => answered decode reply.outcome
  | none,         false => throw .stopped

/-- A request by its name in messages. -/
def request {α : Type} (name : String) (m : ClientMessage) (decode : Json → Option α) :
    Action Session HostError α := do
  let limit := (← get).limit
  (ask m decode).adapt fun
    | .noAnswer => .timeout limit
    | e         => .requestFailed (name ++ " failed: " ++ e.text)

/-! ### Documents -/

/-- The language of a file by its extension. -/
def languageId (path : Path) : String :=
  match path.extension?.bind fun ext => String.fromUTF8? ⟨ext.toArray⟩ with
  | some "rs" => "rust"
  | some "py" => "python"
  | some "js" | some "mjs" | some "cjs" => "javascript"
  | some "jsx" => "javascriptreact"
  | some "ts" | some "mts" | some "cts" => "typescript"
  | some "tsx" => "typescriptreact"
  | some "go" => "go"
  | some "c" | some "h" => "c"
  | some "cpp" | some "cc" | some "cxx" | some "hpp" => "cpp"
  | some "java" => "java"
  | some "lua" => "lua"
  | some "rb" => "ruby"
  | _ => "plaintext"

/-- The message that tells of a change of a buffer, and the name of that message in errors. -/
def changeMessage : BufferChange → ClientMessage × String
  | .opened uri text =>
    (.didOpen uri ((uri.path?.map languageId).getD "plaintext") text, "didOpen")
  | .changed uri version text => (.didChange uri version text, "didChange")

/-- Tells the server of a change of a buffer. -/
def tell (change : BufferChange) : Action Session HostError Unit :=
  let (message, name) := changeMessage change
  (send message).adapt fun e => .requestFailed (name ++ " notification failed: " ++ e.text)

/-- Tells the server of changes, one by one. -/
def tellAll : List BufferChange → Action Session HostError Unit
  | []      => return
  | c :: cs => do
    tell c
    tellAll cs

/-- Makes sure that the server knows the text of a file as it is on disk. Gives the URI of the
file. -/
def ensureOpen (path : Path) : Action Session HostError Uri := do
  let disk := (← get).disk
  let uri ← disk.uriOf ⟨[Path.slash]⟩ path
  match disk.readText path with
  | .error e =>
    throw (.documentNotFound ("failed to read '" ++ path.display ++ "': " ++ e.message))
  | .ok text =>
    let s ← get
    let (buffers, change) := s.buffers.sync uri text
    set { s with buffers := buffers }
    match change with
    | some change => tell change
    | none        => pure ()
    return uri

/-- Makes sure that the server knows the text of a document. -/
def ensureOpenUri (uri : Uri) : Action Session HostError Uri := do
  ensureOpen (← uri.filePath)

/-- Makes sure that the server knows the texts of documents, one by one. -/
def ensureAllOpen : List Uri → Action Session HostError Unit
  | []          => return
  | uri :: uris => do
    let _ ← ensureOpenUri uri
    ensureAllOpen uris

/-- The text of a document. It must be named by the URI of its file. -/
def documentText (uri : Uri) : Action Session HostError String := do
  let _ ← ensureOpenUri uri
  match Keyed.get? uri (← get).buffers with
  | some buffer => return buffer.text
  | none        => throw (.documentNotFound ("document not open: " ++ uri.text))

/-- Applies an edit set to the files and the buffers as one change, and tells the server. -/
def applyEdits (changes : EditSet) : Action Session HostError Unit := do
  let changes ← (← get).disk.canonicalChanges changes
  ensureAllOpen (changes.map Prod.fst)
  let s ← get
  let (disk, buffers, outcome) := s.buffers.apply s.disk changes
  set { s with disk := disk, buffers := buffers }
  tellAll (← outcome)

end Session

end Outline
