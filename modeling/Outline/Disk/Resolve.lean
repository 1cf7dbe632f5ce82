import Outline.Disk.Basic

/-!
# Following paths

A path is followed from the root, step by step. Every place it passes through must be a directory,
and a symbolic link is replaced by its target, up to forty times. The last name may be missing.
-/

namespace Outline.Disk

/-- Where a path leads. Nothing stands there when only the last name is missing. -/
structure Found where
  place : Place
  entry : Option Entry

/-- The longest name in bytes. -/
def nameLimit : Nat := 255

/-- The longest path in bytes. -/
def pathLimit : Nat := 4095

/-- How many links one path may follow. -/
def linkLimit : Nat := 40

/-- What a path is followed for. -/
inductive Purpose where
  /-- To find what stands there. -/
  | find
  /-- To write a file, which may be missing. -/
  | write
  deriving DecidableEq, Repr

/-- The place must be a directory. -/
def needDirectory (disk : Disk) (place : Place) : Except IoError Unit :=
  match disk.lookup place with
  | some .directory => .ok ()
  | some _          => .error .notDirectory
  | none            => .error .notFound

/-- Takes steps from a place; `follow` goes on where a link leads. A name with a slash behind it
cannot be written, whatever stands there. -/
def stepAlong (disk : Disk) (purpose : Purpose)
    (follow : Place → List Piece → Except IoError Found) (place : Place) :
    List Piece → Except IoError Found
  | []               => .ok ⟨place, disk.lookup place⟩
  | .current :: rest => do
    disk.needDirectory place
    stepAlong disk purpose follow place rest
  | .closing :: rest => do
    disk.needDirectory place
    stepAlong disk purpose follow place rest
  | .parent :: rest => do
    disk.needDirectory place
    stepAlong disk purpose follow place.dropLast rest
  | .name n :: rest => do
    disk.needDirectory place
    if purpose = .write && rest = [.closing] then
      throw .isDirectory
    if n.length > nameLimit then
      throw .nameTooLong
    match disk.lookup (place ++ [n]) with
    | some (.link target) =>
      follow (if target.isAbsolute then [] else place) (target.pieces ++ rest)
    | _ => stepAlong disk purpose follow (place ++ [n]) rest

/-- Takes steps from a place, following at most `links` links. -/
def walk (disk : Disk) (purpose : Purpose) :
    (links : Nat) → Place → List Piece → Except IoError Found
  | 0         => stepAlong disk purpose fun _ _ => .error .tooManyLinks
  | links + 1 => stepAlong disk purpose (walk disk purpose links)

/-- A path that can be taken apart into names. -/
def checkNames (path : Path) : Except IoError Unit :=
  if path.bytes.contains 0 then .error .embeddedNul
  else if path.bytes.isEmpty then .error .notFound
  else .ok ()

/-- A path the file system takes as a whole. -/
def checkPath (path : Path) : Except IoError Unit := do
  checkNames path
  if path.bytes.length > pathLimit then
    throw .nameTooLong

/-- Where a path leads, through all links. -/
def resolve (disk : Disk) (purpose : Purpose) (path : Path) : Except IoError Found := do
  checkPath path
  disk.walk purpose linkLimit [] path.pieces

/-- What stands where a path leads. -/
def Found.need (found : Found) : Except IoError (Place × Entry) :=
  match found.entry with
  | some entry => .ok (found.place, entry)
  | none       => .error .notFound

/-- The place and entry a path leads to. -/
def find (disk : Disk) (path : Path) : Except IoError (Place × Entry) := do
  (← disk.resolve .find path).need

/-- The place a path leads to, with all links followed. Names are followed one by one, so the path
may be of any length. -/
def canonicalize (disk : Disk) (path : Path) : Except IoError Place := do
  checkNames path
  return (← (← disk.walk .find linkLimit [] path.pieces).need).1

/-- The steps to the directory of the last name, and that name. Without a name at the end there is
nothing to create or remove. -/
def leafOf (path : Path) : Option (List Piece × Name) :=
  let pieces := (path.parts.filter (· ≠ [])).map Path.pieceOf
  match pieces.getLast? with
  | some (.name n) => some (pieces.dropLast, n)
  | _              => none

/-- The place of the last name itself, whether it is a link or missing. -/
def leaf (disk : Disk) (path : Path) : Except IoError Place := do
  checkPath path
  match leafOf path with
  | none            => throw .busy
  | some (front, n) =>
    let parent ← disk.walk .find linkLimit [] front
    disk.needDirectory parent.place
    if n.length > nameLimit then
      throw .nameTooLong
    return parent.place ++ [n]

end Outline.Disk
