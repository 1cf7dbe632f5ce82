import Outline.Text.Position

/-!
# Text edits

A list of edits describes one change of a text: every range refers to the text before the change.
`applyEdits` resolves the ranges to byte spans, puts the spans in order, and copies the text once,
refusing ranges that do not exist, run backwards or overlap.
-/

namespace Outline

/-- Replaces the text of a range. -/
structure TextEdit where
  range   : Range
  newText : String
  deriving DecidableEq, Repr, Inhabited

/-- An edit whose range has been resolved to byte offsets. -/
structure Span where
  start   : Nat
  stop    : Nat
  newText : List Char
  deriving DecidableEq, Repr

/-- Why a list of edits cannot be applied. -/
inductive EditError where
  /-- The text has no such line. -/
  | noSuchPosition (p : Position)
  /-- The range on this line ends before it starts. -/
  | reversed (line : Nat)
  /-- The edit that starts here begins inside another one. -/
  | overlap (start : Nat)
  deriving DecidableEq, Repr

/-- The byte offset of a position of an edit. -/
def resolvePosition (text : List Char) (p : Position) : Except EditError Nat :=
  match offset text p with
  | some n => .ok n
  | none   => .error (.noSuchPosition p)

namespace TextEdit

/-- Resolves the start, then the end, then compares them. -/
def resolve (text : List Char) (e : TextEdit) : Except EditError Span := do
  let start ← resolvePosition text e.range.start
  let stop ← resolvePosition text e.range.stop
  if stop < start then
    throw (.reversed e.range.start.line)
  return ⟨start, stop, e.newText.toList⟩

end TextEdit

namespace Span

/-- Order in which spans are copied: by start, then by end. -/
def le (s t : Span) : Bool :=
  s.start < t.start || (s.start == t.start && s.stop ≤ t.stop)

/-- Copies `rest`, the text from byte `cursor` on, with ordered spans replaced. -/
def splice : (cursor : Nat) → (rest : List Char) → List Span → Except EditError (List Char)
  | _,      rest, []      => .ok rest
  | cursor, rest, s :: ss => do
    if s.start < cursor then
      throw (.overlap s.start)
    let done ← splice s.stop (dropBytes (s.stop - cursor) rest) ss
    return takeBytes (s.start - cursor) rest ++ s.newText ++ done

end Span

/-- Applies edits to a list of characters as one change. Edits at one place keep their order. -/
def applyEditsTo (text : List Char) (edits : List TextEdit) : Except EditError (List Char) := do
  let spans ← edits.mapM (TextEdit.resolve text)
  Span.splice 0 text (spans.mergeSort Span.le)

/-- Applies edits to a text as one change. -/
def applyEdits (text : String) (edits : List TextEdit) : Except EditError String :=
  (applyEditsTo text.toList edits).map String.ofList

end Outline
