import Outline.Text.Split
import Outline.Text.Utf8

/-!
# File paths

A path is a list of bytes with slashes between names. Paths are compared name by name: doubled and
trailing slashes and single dots in them do not matter there, though they stay in what is shown.
-/

namespace Outline

/-- The name of a file or directory. -/
abbrev Name := List UInt8

/-- A path as it is written. -/
structure Path where
  bytes : List UInt8
  deriving DecidableEq, Repr, Inhabited

/-- A step of a path. -/
inductive Piece where
  /-- The directory itself. -/
  | current
  /-- A slash at the end, which stands behind a directory. -/
  | closing
  /-- The parent directory. -/
  | parent
  /-- An entry of the directory. -/
  | name (n : Name)
  deriving DecidableEq, Repr

namespace Path

def slash : UInt8 := 0x2F
def dot : UInt8 := 0x2E

/-- The path of a text. -/
def ofText (s : String) : Path := ⟨utf8Bytes s⟩

/-- The path as text, for showing. -/
def display (p : Path) : String := lossyText p.bytes

/-- The path of the entry with these names from the root on. -/
def ofNames (names : List Name) : Path :=
  ⟨if names.isEmpty then [slash] else names.flatMap (slash :: ·)⟩

/-- The path starts at the root. -/
def isAbsolute (p : Path) : Bool := p.bytes.head? == some slash

/-- The path ends in a slash. -/
def endsInSlash (p : Path) : Bool := p.bytes.getLast? == some slash

/-- A path seen from a directory: itself when it starts at the root. -/
def join (base p : Path) : Path :=
  if p.isAbsolute then p
  else if base.bytes.isEmpty || base.endsInSlash then ⟨base.bytes ++ p.bytes⟩
  else ⟨base.bytes ++ slash :: p.bytes⟩

/-- A path with an ending added to its last name. -/
def addSuffix (p : Path) (suffix : String) : Path := ⟨p.bytes ++ utf8Bytes suffix⟩

/-- The parts between slashes. -/
def parts (p : Path) : List Name := splitOn slash p.bytes

/-- Parts with slashes between them. -/
def ofParts (parts : List Name) : Path := ⟨[slash].intercalate parts⟩

/-- A part that does not move: nothing or a dot. -/
def isIdle (part : Name) : Bool := part == [] || part == [dot]

/-- The step a part makes. -/
def pieceOf (part : Name) : Piece :=
  if part = [dot, dot] then .parent
  else if part = [dot] then .current
  else .name part

/-- The steps of a path. -/
def pieces (p : Path) : List Piece :=
  (p.parts.filter (· ≠ [])).map pieceOf ++ if p.endsInSlash then [.closing] else []

/-! ### Names of a path -/

/-- The steps of a path that move. -/
def names (p : Path) : List Piece := (p.parts.filter (!isIdle ·)).map pieceOf

/-- The last name, if the path ends in one. -/
def fileName? (p : Path) : Option Name :=
  match p.names.getLast? with
  | some (.name n) => some n
  | _              => none

/-- What follows the last dot of the last name, unless that dot stands first. -/
def extension? (p : Path) : Option Name := do
  let name ← p.fileName?
  let after := name.reverse.takeWhile (· ≠ dot)
  guard (after.length + 1 < name.length)
  return after.reverse

/-- Drops parts that do not move at both ends. -/
def trimIdle (parts : List Name) : List Name :=
  trimBy isIdle parts

/-- The parts left after the given steps. -/
def dropNames : (base : List Piece) → (parts : List Name) → Option (List Name)
  | [],         parts         => some parts
  | _ :: _,     []            => none
  | b :: base,  part :: parts =>
    if isIdle part then dropNames (b :: base) parts
    else if pieceOf part = b then dropNames base parts
    else none

/-- The path from a directory to a path that starts at the root, if it leads into that directory
name by name. -/
def relativeTo? (p base : Path) : Option Path :=
  if base.isAbsolute then (dropNames base.names p.parts).map fun rest => ofParts (trimIdle rest)
  else if base.bytes.isEmpty then
    -- the slash of the root stays
    let shown := ofParts (trimEnd isIdle p.parts)
    some (if shown.bytes.isEmpty then ⟨[slash]⟩ else shown)
  else none

/-- A path that starts at the root leads into a directory, name by name. -/
def isUnder (p base : Path) : Bool := (p.relativeTo? base).isSome

end Path

end Outline
