import Outline.Text.Wire
import Outline.Uri.Parser

/-!
# Locations and edit sets

A location is a range in a document. An edit set gives every document it names a list of edits, in
the order of the documents' URIs.
-/

namespace Outline

open Json

namespace Uri

def ofJson (v : Json) : Option Uri := v.text?.bind parse

def toJson (u : Uri) : Json := .str u.text

end Uri

/-- A range in a document. -/
structure Location where
  uri   : Uri
  range : Range
  deriving DecidableEq, Repr, Inhabited

namespace Location

def ofJson : Json → Option Location :=
  record do return { uri := ← required "uri" Uri.ofJson, range := ← required "range" Range.ofJson }

def toJson (l : Location) : Json := .obj [("uri", l.uri.toJson), ("range", l.range.toJson)]

end Location

/-- Edits for each document, in the order of the URIs. -/
abbrev EditSet := Keyed Uri (List TextEdit)

namespace EditSet

/-- Reads an object from URIs to lists of edits. Of two spellings of one URI the last counts. -/
def ofJson (v : Json) : Option EditSet :=
  (pairs? Uri.parse (list? TextEdit.ofJson) v).map Keyed.ofList

def toJson (changes : EditSet) : Json :=
  .obj (changes.map fun (uri, edits) => (uri.text, .arr (edits.map TextEdit.toJson)))

end EditSet

end Outline
