import Outline.Text.Split
import Outline.Text.Units

/-!
# Positions and ranges

A position is a line and a column, both counted from zero, with columns in UTF-16 units. This
module holds the order of positions, containment of ranges, and the byte offset a position stands
for in a text.
-/

namespace Outline

/-- A place in a text: zero-based line and column, the column in UTF-16 units. -/
structure Position where
  line      : Nat
  character : Nat
  deriving DecidableEq, Repr, Inhabited

/-- The text between two positions. Nothing says that `stop` comes last. -/
structure Range where
  start : Position
  stop  : Position
  deriving DecidableEq, Repr, Inhabited

namespace Position

/-- Reading order: by line, then by column. -/
def le (p q : Position) : Bool :=
  p.line < q.line || (p.line == q.line && p.character ≤ q.character)

theorem le_iff {p q : Position} :
    p.le q = true ↔ p.line < q.line ∨ p.line = q.line ∧ p.character ≤ q.character := by
  simp [le]

/-- The line and column shown to a person, both counted from one. -/
def oneBased (p : Position) : Nat × Nat := (p.line + 1, p.character + 1)

end Position

namespace Range

/-- The empty range at a position. -/
def point (p : Position) : Range := ⟨p, p⟩

/-- `outer` covers `inner` and is not the same range. -/
def strictlyContains (outer inner : Range) : Bool :=
  outer.start.le inner.start && inner.stop.le outer.stop && outer != inner

end Range

/-! ### Byte offsets -/

/-- The text after the first `n` line feeds, if it has as many. -/
def afterLines : Nat → List Char → Option (List Char)
  | 0,     cs      => some cs
  | _ + 1, []      => none
  | n + 1, c :: cs => if c = '\n' then afterLines n cs else afterLines (n + 1) cs

/-- Drops the carriage returns a line ends with. -/
def trimReturns (line : List Char) : List Char :=
  trimEnd (· = '\r') line

/-- The line at the front of a text, without its line feed and the carriage returns before it. -/
def frontLine (cs : List Char) : List Char :=
  trimReturns (cs.takeWhile (· ≠ '\n'))

/-- Bytes of the shortest run of whole characters that reaches `column` UTF-16 units; of the whole
line when it is shorter. -/
def columnOffset : Nat → List Char → Nat
  | _,     []      => 0
  | 0,     _ :: _  => 0
  | n + 1, c :: cs => c.utf8Size + columnOffset (n + 1 - units16 c) cs

/-- The byte offset of a position, `none` when the text has no such line. A column past the end of
its line stands for the end of that line. -/
def offset (text : List Char) (p : Position) : Option Nat :=
  (afterLines p.line text).map fun rest =>
    utf8Length text - utf8Length rest + columnOffset p.character (frontLine rest)

end Outline
