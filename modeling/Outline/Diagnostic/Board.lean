import Outline.Diagnostic.Basic

/-!
# The board of published diagnostics

A publication replaces all diagnostics of its document; an empty one takes the document off the
board.
-/

namespace Outline

open Json

/-- The diagnostics last published for each document, in the order of the URIs. -/
abbrev Board := Keyed Uri (List Diagnostic)

/-- All diagnostics of a document at one time. -/
structure Publication where
  uri         : Uri
  diagnostics : List Diagnostic
  deriving Inhabited

namespace Publication

/-- The version is checked and dropped. -/
def ofJson : Json → Option Publication :=
  record do
    let uri ← required "uri" Uri.ofJson
    let diagnostics ← required "diagnostics" (list? Diagnostic.ofJson)
    let _ ← nullable "version" int32?
    return { uri, diagnostics }

end Publication

namespace Board

/-- Puts up a publication. -/
def publish (board : Board) (p : Publication) : Board :=
  if p.diagnostics.isEmpty then Keyed.erase p.uri board else Keyed.insert p.uri p.diagnostics board

/-- The diagnostics of a document. -/
def get (board : Board) (uri : Uri) : List Diagnostic := (Keyed.get? uri board).getD []

end Board

end Outline
