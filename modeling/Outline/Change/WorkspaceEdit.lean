import Outline.Location

/-!
# Changes that a server proposes

A server answers a rename with a map of edits, with a list of document edits, or with a list that
also creates, renames or deletes files.
-/

namespace Outline

open Json

/-- An edit of a document, perhaps with a reference to a remark about it. -/
inductive ProposedEdit where
  | plain (edit : TextEdit)
  | annotated (edit : TextEdit) (remark : String)
  deriving DecidableEq, Repr

/-- Edits of one document. -/
structure DocumentEdit where
  uri     : Uri
  version : Option Int
  edits   : List ProposedEdit
  deriving DecidableEq, Repr, Inhabited

/-- What to do when a file to make exists already. -/
structure CreateOptions where
  overwrite      : Option Bool
  ignoreIfExists : Option Bool
  deriving DecidableEq, Repr, Inhabited

/-- How to delete. -/
structure DeleteOptions where
  recursive         : Option Bool
  ignoreIfNotExists : Option Bool
  remark            : Option String
  deriving DecidableEq, Repr, Inhabited

/-- A change of files as a whole. -/
inductive FileOperation where
  | create (uri : Uri) (options : Option CreateOptions) (remark : Option String)
  | rename (old new : Uri) (options : Option CreateOptions) (remark : Option String)
  | delete (uri : Uri) (options : Option DeleteOptions)
  deriving DecidableEq, Repr

/-- One change of a list. -/
inductive DocumentChange where
  | edit (e : DocumentEdit)
  | operation (op : FileOperation)
  deriving DecidableEq, Repr

/-- A remark that edits refer to. -/
structure ChangeRemark where
  label             : String
  needsConfirmation : Option Bool
  description       : Option String
  deriving DecidableEq, Repr, Inhabited

/-- A proposed change of the workspace. -/
structure WorkspaceEdit where
  changes         : Option EditSet
  documentChanges : Option (List DocumentChange)
  remarks         : Option (Keyed String ChangeRemark)
  deriving DecidableEq, Repr, Inhabited

namespace ProposedEdit

/-- The edit itself. -/
def edit : ProposedEdit → TextEdit
  | plain e       => e
  | annotated e _ => e

/-- Whatever reads as an edit is a plain one. -/
def ofJson (v : Json) : Option ProposedEdit := (TextEdit.ofJson v).map plain

def toJson : ProposedEdit → Json
  | plain e       => e.toJson
  | annotated e a =>
    .obj [("range", e.range.toJson), ("newText", .str e.newText), ("annotationId", .str a)]

end ProposedEdit

namespace DocumentEdit

def ofJson : Json → Option DocumentEdit :=
  record do
    let document : Uri × Option Int ← required "textDocument" (record do
      return (← required "uri" Uri.ofJson, ← nullable "version" int32?))
    let edits ← required "edits" (list? ProposedEdit.ofJson)
    return { uri := document.1, version := document.2, edits }

def toJson (e : DocumentEdit) : Json :=
  .obj [("textDocument", .obj [("uri", e.uri.toJson),
      ("version", (e.version.map .int).getD .null)]),
    ("edits", .arr (e.edits.map ProposedEdit.toJson))]

end DocumentEdit

namespace CreateOptions

def ofJson : Json → Option CreateOptions :=
  record do
    return {
      overwrite      := ← nullable "overwrite" bool?
      ignoreIfExists := ← nullable "ignoreIfExists" bool? }

def toJson (o : CreateOptions) : Json :=
  .obj (optional "overwrite" (o.overwrite.map .bool) ++
    optional "ignoreIfExists" (o.ignoreIfExists.map .bool))

end CreateOptions

namespace DeleteOptions

def ofJson : Json → Option DeleteOptions :=
  record do
    return {
      recursive         := ← nullable "recursive" bool?
      ignoreIfNotExists := ← nullable "ignoreIfNotExists" bool?
      remark            := ← nullable "annotationId" text? }

def toJson (o : DeleteOptions) : Json :=
  .obj (optional "recursive" (o.recursive.map .bool) ++
    optional "ignoreIfNotExists" (o.ignoreIfNotExists.map .bool) ++
    optional "annotationId" (o.remark.map .str))

end DeleteOptions

namespace FileOperation

/-- The fields of an operation of the given kind. -/
def fields : String → Fields FileOperation
  | "create" => do
    return create (← required "uri" Uri.ofJson) (← nullable "options" CreateOptions.ofJson)
      (← nullable "annotationId" text?)
  | "rename" => do
    return rename (← required "oldUri" Uri.ofJson) (← required "newUri" Uri.ofJson)
      (← nullable "options" CreateOptions.ofJson) (← nullable "annotationId" text?)
  | "delete" => do
    return delete (← required "uri" Uri.ofJson) (← nullable "options" DeleteOptions.ofJson)
  | _ => failure

def ofJson : Json → Option FileOperation := ofKind ["create", "rename", "delete"] fields

def toJson : FileOperation → Json
  | create uri options remark =>
    .obj ([("kind", .str "create"), ("uri", uri.toJson)] ++
      optional "options" (options.map CreateOptions.toJson) ++
      optional "annotationId" (remark.map .str))
  | rename old new options remark =>
    .obj ([("kind", .str "rename"), ("oldUri", old.toJson), ("newUri", new.toJson)] ++
      optional "options" (options.map CreateOptions.toJson) ++
      optional "annotationId" (remark.map .str))
  | delete uri options =>
    .obj ([("kind", .str "delete"), ("uri", uri.toJson)] ++
      optional "options" (options.map DeleteOptions.toJson))

end FileOperation

namespace DocumentChange

def toJson : DocumentChange → Json
  | edit e       => e.toJson
  | operation op => op.toJson

/-- A change of a list that is not all edits: an operation if it reads as one. -/
def ofJson (v : Json) : Option DocumentChange :=
  (FileOperation.ofJson v).map operation <|> (DocumentEdit.ofJson v).map edit

/-- A list of changes: first read as edits only, then with operations among them. -/
def listOfJson (v : Json) : Option (List DocumentChange) :=
  list? (fun v => (DocumentEdit.ofJson v).map edit) v <|> list? ofJson v

end DocumentChange

namespace ChangeRemark

def ofJson : Json → Option ChangeRemark :=
  record do
    return {
      label             := ← required "label" text?
      needsConfirmation := ← nullable "needsConfirmation" bool?
      description       := ← nullable "description" text? }

def toJson (a : ChangeRemark) : Json :=
  .obj ([("label", .str a.label)] ++ optional "needsConfirmation" (a.needsConfirmation.map .bool) ++
    optional "description" (a.description.map .str))

end ChangeRemark

namespace WorkspaceEdit

def ofJson : Json → Option WorkspaceEdit :=
  record do
    return {
      changes         := ← omissible "changes" EditSet.ofJson
      documentChanges := ← nullable "documentChanges" DocumentChange.listOfJson
      remarks         := ← nullable "changeAnnotations" (pairs? some ChangeRemark.ofJson) }

def toJson (e : WorkspaceEdit) : Json :=
  .obj (optional "changes" (e.changes.map EditSet.toJson) ++
    optional "documentChanges" (e.documentChanges.map fun cs =>
      .arr (cs.map DocumentChange.toJson)) ++
    optional "changeAnnotations" (e.remarks.map fun as =>
      .obj (as.map fun (k, a) => (k, a.toJson))))

/-- Gives every edit of the list of changes the same remark. -/
def annotateAll (remark : String) (e : WorkspaceEdit) : WorkspaceEdit :=
  { e with documentChanges := e.documentChanges.map fun cs => cs.map fun
      | .edit d      => .edit { d with edits := d.edits.map fun p => .annotated p.edit remark }
      | .operation o => .operation o }

end WorkspaceEdit

end Outline
