import Outline.Text.Units

/-!
# Lines for display and blank text

Shown lines end at a line feed, and a carriage return directly before it belongs to the line end.
A text that ends in a line feed has no further empty line.
-/

namespace Outline

/-- Drops one carriage return at the end of a line. -/
def dropReturn (line : List Char) : List Char :=
  match line.reverse with
  | '\r' :: before => before.reverse
  | _              => line

/-- The shown lines of a text; `line` holds the characters of the current line in reverse. -/
def shownLinesFrom : (line : List Char) → List Char → List (List Char)
  | [],   []         => []
  | line, []         => [line.reverse]
  | line, '\n' :: cs => dropReturn line.reverse :: shownLinesFrom [] cs
  | line, c :: cs    => shownLinesFrom (c :: line) cs

/-- The shown lines of a text. -/
def shownLines (text : String) : List String :=
  (shownLinesFrom [] text.toList).map String.ofList

/-- Lines `first`, …, `first + count - 1`, as far as they exist. -/
def lineWindow (text : String) (first count : Nat) : List String :=
  ((shownLines text).drop first).take count

/-- The line together with the lines directly before and after it. -/
def surroundingText (text : String) (line : Nat) : String :=
  let first := line - 1
  "\n".intercalate (lineWindow text first (line + 2 - first))

/-! ### Blank text -/

/-- Characters with the Unicode property White_Space. -/
def isBlank (c : Char) : Bool :=
  let n := c.toNat
  (0x09 ≤ n && n ≤ 0x0D) || n == 0x20 || n == 0x85 || n == 0xA0 || n == 0x1680 ||
    (0x2000 ≤ n && n ≤ 0x200A) || n == 0x2028 || n == 0x2029 || n == 0x202F || n == 0x205F ||
    n == 0x3000

/-- A text of white space only. -/
def isBlankText (s : String) : Bool := s.toList.all isBlank

/-! ### Searching -/

/-- `pattern` occurs in the text. -/
def occursIn (pattern : List Char) : List Char → Bool
  | []      => pattern.isEmpty
  | c :: cs => pattern.isPrefixOf (c :: cs) || occursIn pattern cs

/-- `pattern` occurs in `text`, letter case included. -/
def contains (text pattern : String) : Bool := occursIn pattern.toList text.toList

end Outline
