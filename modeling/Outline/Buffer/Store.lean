import Outline.Location
import Outline.Workspace

/-!
# Buffers

The text of every document that has been opened with the server, with the version the server was
told last. Every change of a buffer is something the server has to be told.
-/

namespace Outline

/-- The text of an open document. -/
structure Buffer where
  version : Nat
  text    : String
  deriving DecidableEq, Repr, Inhabited

/-- Open documents, in the order of their URIs. -/
abbrev Buffers := Keyed Uri Buffer

/-- A change of a buffer that the server has to be told. -/
inductive BufferChange where
  /-- The document is open now, at version 0. -/
  | opened (uri : Uri) (text : String)
  /-- The document has a new text. -/
  | changed (uri : Uri) (version : Nat) (text : String)
  deriving DecidableEq, Repr

/-- The new text of a document that is about to be written. -/
structure PendingDocument where
  uri      : Uri
  path     : Path
  text     : String
  /-- The text to put back when the change cannot be finished. -/
  previous : String
  deriving DecidableEq, Repr, Inhabited

namespace Buffers

/-- Opens a document at version 0. -/
def openDocument (b : Buffers) (uri : Uri) (text : String) : Buffers := Keyed.insert uri ⟨0, text⟩ b

/-- The version after the next change of a document; 0 when it is not open. -/
def nextVersion (b : Buffers) (uri : Uri) : Nat :=
  match Keyed.get? uri b with
  | some buffer => buffer.version + 1
  | none        => 0

/-- Gives a document a new text and the next version. -/
def update (b : Buffers) (uri : Uri) (text : String) : Buffers :=
  Keyed.insert uri ⟨b.nextVersion uri, text⟩ b

/-- Brings a buffer in line with the text of its file; nothing changes when it has that text. -/
def sync (b : Buffers) (uri : Uri) (text : String) : Buffers × Option BufferChange :=
  match Keyed.get? uri b with
  | none        => (b.openDocument uri text, some (.opened uri text))
  | some buffer =>
    if buffer.text = text then (b, none)
    else (b.update uri text, some (.changed uri (b.nextVersion uri) text))

/-- The new text of one document, which must be open. -/
def prepareDocument (b : Buffers) (uri : Uri) (edits : List TextEdit) :
    Except HostError PendingDocument := do
  match Keyed.get? uri b with
  | none        => throw (.documentNotFound ("document not open: " ++ uri.text))
  | some buffer =>
    match uri.path? with
    | none      => throw (.documentNotFound ("not a file URI: " ++ uri.text))
    | some path =>
      match applyEdits buffer.text edits with
      | .error e  => throw (.ofEdit e)
      | .ok text  => return { uri, path, text, previous := buffer.text }

/-- The new texts of all documents of an edit set. Nothing changes yet; any edit that cannot be
applied refuses the whole set. -/
def prepare (b : Buffers) (changes : EditSet) : Except HostError (List PendingDocument) :=
  changes.mapM fun (uri, edits) => b.prepareDocument uri edits

/-- Takes over texts that have been written, one change each. -/
def accept : Buffers → List PendingDocument → Buffers × List BufferChange
  | b, []      => (b, [])
  | b, d :: ds =>
    let (after, changes) := accept (b.update d.uri d.text) ds
    (after, .changed d.uri (b.nextVersion d.uri) d.text :: changes)

end Buffers

/-! ### One URI for each file -/

/-- Names every document of an edit set by the URI of its file. The edits of two spellings of one
file are joined. -/
def Disk.canonicalChanges (disk : Disk) (changes : EditSet) : Except HostError EditSet :=
  changes.foldlM (fun done (uri, edits) => do
    let file ← disk.uriOf ⟨[Path.slash]⟩ (← uri.filePath)
    return Keyed.append file edits done) []

end Outline
