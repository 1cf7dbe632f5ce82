import Outline.Json.Decode
import Outline.Text.Edit

/-!
# Positions, ranges and edits as JSON
-/

namespace Outline

open Json

namespace Position

def ofJson : Json → Option Position :=
  record do return { line := ← required "line" nat32?, character := ← required "character" nat32? }

def toJson (p : Position) : Json := .obj [("line", .nat p.line), ("character", .nat p.character)]

end Position

namespace Range

def ofJson : Json → Option Range :=
  record do
    return { start := ← required "start" Position.ofJson, stop := ← required "end" Position.ofJson }

def toJson (r : Range) : Json := .obj [("start", r.start.toJson), ("end", r.stop.toJson)]

end Range

namespace TextEdit

def ofJson : Json → Option TextEdit :=
  record do
    return { range := ← required "range" Range.ofJson, newText := ← required "newText" text? }

def toJson (e : TextEdit) : Json := .obj [("range", e.range.toJson), ("newText", .str e.newText)]

end TextEdit

end Outline
