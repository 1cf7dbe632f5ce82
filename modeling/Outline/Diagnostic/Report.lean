import Outline.Diagnostic.Basic
import Outline.Text.Lines

/-!
# Diagnostics as text

One diagnostic is shown as `path:line.column-line.column [Severity] message`, counted from one; the
end is left out when it is the start. The lines it covers may follow, each indented.
-/

namespace Outline.Diagnostic

/-- The label of a severity. What has no other label is an error. -/
def severityLabel : Option Int → String
  | some 2 => "Warning"
  | some 3 => "Information"
  | some 4 => "Hint"
  | _      => "Error"

/-- A position counted from one, as `line.column`. -/
def placeText (p : Position) : String := s!"{p.oneBased.1}.{p.oneBased.2}"

/-- The lines of the source that the diagnostic covers, each on an indented line of its own. -/
def sourceText (d : Diagnostic) (source : String) : String :=
  let first := d.range.start.line
  let last := max d.range.stop.line first
  "".intercalate ((lineWindow source first (last - first + 1)).map ("\n    " ++ ·))

/-- One diagnostic as text. -/
def describe (path : String) (source : Option String) (d : Diagnostic) : String :=
  path ++ ":" ++ placeText d.range.start ++
    (if d.range.stop = d.range.start then "" else "-" ++ placeText d.range.stop) ++
    " [" ++ severityLabel d.severity ++ "] " ++ d.message ++
    (source.map d.sourceText).getD ""

/-- The diagnostics of a document as text, one a line. -/
def describeAll (path : String) (source : Option String) (ds : List Diagnostic) : String :=
  "\n".intercalate (ds.map (describe path source))

end Outline.Diagnostic
