import Outline.Location

/-!
# Diagnostics

A problem that a server reports about a range of a document.
-/

namespace Outline

open Json

/-- The code of a diagnostic. -/
inductive DiagnosticCode where
  | number (n : Int)
  | text (s : String)
  deriving DecidableEq, Repr

/-- Another place that has to do with a diagnostic. -/
structure RelatedPlace where
  location : Location
  message  : String
  deriving DecidableEq, Repr

/-- A problem in a document. -/
structure Diagnostic where
  range           : Range
  severity        : Option Int
  code            : Option DiagnosticCode
  /-- Where the code is described. -/
  codeDescription : Option Uri
  source          : Option String
  message         : String
  related         : Option (List RelatedPlace)
  tags            : Option (List Int)
  data            : Option Json
  deriving Inhabited

namespace DiagnosticCode

def ofJson (v : Json) : Option DiagnosticCode := v.int32?.map number <|> v.text?.map text

def toJson : DiagnosticCode → Json
  | number n => .int n
  | text s   => .str s

end DiagnosticCode

namespace RelatedPlace

def ofJson : Json → Option RelatedPlace :=
  record do
    return {
      location := ← required "location" Location.ofJson
      message  := ← required "message" text? }

def toJson (p : RelatedPlace) : Json :=
  .obj [("location", p.location.toJson), ("message", .str p.message)]

end RelatedPlace

namespace Diagnostic

def ofJson : Json → Option Diagnostic :=
  record do
    return {
      range           := ← required "range" Range.ofJson
      severity        := ← nullable "severity" int32?
      code            := ← nullable "code" DiagnosticCode.ofJson
      codeDescription := ← nullable "codeDescription" (record (required "href" Uri.ofJson))
      source          := ← nullable "source" text?
      message         := ← required "message" text?
      related         := ← nullable "relatedInformation" (list? RelatedPlace.ofJson)
      tags            := ← nullable "tags" (list? int32?)
      data            := ← nullable "data" some }

def toJson (d : Diagnostic) : Json :=
  .obj ([("range", d.range.toJson)] ++ optional "severity" (d.severity.map .int) ++
    optional "code" (d.code.map DiagnosticCode.toJson) ++
    optional "codeDescription" (d.codeDescription.map fun uri => .obj [("href", uri.toJson)]) ++
    optional "source" (d.source.map .str) ++ [("message", .str d.message)] ++
    optional "relatedInformation" (d.related.map fun ps => .arr (ps.map RelatedPlace.toJson)) ++
    optional "tags" (d.tags.map fun ns => .arr (ns.map .int)) ++ optional "data" d.data)

end Diagnostic

end Outline
