import Outline.Disk.Resolve

/-!
# Reading and writing

Reading, writing, renaming and removing entries by path. A write goes through links and creates the
file it ends at; a rename and a removal act on the last name itself.
-/

namespace Outline.Disk

/-- The path leads to an entry. -/
def exists? (disk : Disk) (path : Path) : Bool := (disk.find path).isOk

/-- The path leads to a file. -/
def isFile (disk : Disk) (path : Path) : Bool :=
  match disk.find path with
  | .ok (_, .file _) => true
  | _                => false

/-- The path leads to a directory. -/
def isDirectory (disk : Disk) (path : Path) : Bool :=
  match disk.find path with
  | .ok (_, .directory) => true
  | _                   => false

/-- The content of a file. -/
def read (disk : Disk) (path : Path) : Except IoError ByteArray := do
  match (← disk.find path).2 with
  | .file content => return content
  | .directory    => throw .isDirectory
  | .link _       => throw .tooManyLinks

/-- The content of a file as text. -/
def readText (disk : Disk) (path : Path) : Except IoError String := do
  match String.fromUTF8? (← disk.read path) with
  | some text => return text
  | none      => throw .notText

/-- The place a write goes to. -/
def writePlace (disk : Disk) (path : Path) : Except IoError Place := do
  let found ← disk.resolve .write path
  match found.entry with
  | some .directory => throw .isDirectory
  | some (.link _)  => throw .tooManyLinks
  | _               => return found.place

/-- Puts content into a file, creating it if it is missing. -/
def write (disk : Disk) (path : Path) (content : ByteArray) : Except IoError Disk := do
  return disk.set (← disk.writePlace path) (.file content)

/-- Puts text into a file. -/
def writeText (disk : Disk) (path : Path) (text : String) : Except IoError Disk :=
  disk.write path text.toUTF8

/-- Moves a file or link to another path, over what stands there unless it is a directory. -/
def rename (disk : Disk) (old new : Path) : Except IoError Disk := do
  let source ← disk.leaf old
  let target ← disk.leaf new
  match disk.lookup source with
  | none       => throw .notFound
  | some entry =>
    if new.endsInSlash then
      throw .notDirectory
    if disk.lookup target = some .directory then
      throw .isDirectory
    if source = target then
      return disk
    return (disk.erase source).set target entry

/-- Removes a file or link. -/
def unlink (disk : Disk) (path : Path) : Except IoError Disk := do
  let place ← disk.leaf path
  match disk.lookup place with
  | none            => throw .notFound
  | some .directory => throw .isDirectory
  | some _          => if path.endsInSlash then throw .notDirectory else return disk.erase place

/-! ### Building a disk -/

/-- Makes the directory at a path, and those that lead to it. -/
def makeDirectories (disk : Disk) (path : Path) : Except IoError Disk := do
  checkPath path
  let pieces := path.pieces
  (List.range (pieces.length + 1)).foldlM (fun disk n => do
    let found ← disk.walk .find linkLimit [] (pieces.take n)
    match found.entry with
    | some .directory => return disk
    | some _          => throw IoError.alreadyExists
    | none            => return disk.set found.place .directory) disk

/-- The directory a path stands in, as a path. -/
def parentPath (path : Path) : Path :=
  Path.ofParts (trimEnd (· = []) path.parts).dropLast

/-- Puts an entry at a path, with the directories that lead to it. Files are written through links;
a link needs a free place and a target that is a path. -/
def put (disk : Disk) (path : Path) (entry : Entry) : Except IoError Disk := do
  match entry with
  | .directory    => disk.makeDirectories path
  | .file content => (← disk.makeDirectories (parentPath path)).write path content
  | .link target  =>
    checkPath target
    let disk ← disk.makeDirectories (parentPath path)
    let place ← disk.leaf path
    if (disk.lookup place).isSome then
      throw .alreadyExists
    return disk.set place (.link target)

/-- Removes an entry and all that is in it. -/
def removeTree (disk : Disk) (path : Path) : Except IoError Disk := do
  let place ← disk.leaf path
  if (disk.lookup place).isNone then
    throw .notFound
  return ⟨disk.entries.filter fun e => !place.isPrefixOf e.1⟩

/-! ### Comparing disks -/

/-- The files of a disk with their content. -/
def files (disk : Disk) : List (Place × ByteArray) :=
  disk.entries.filterMap fun (place, entry) =>
    match entry with
    | .file content => some (place, content)
    | _             => none

/-- The content of the file that stands at a place itself. -/
def fileAt? (disk : Disk) (place : Place) : Option ByteArray :=
  match disk.lookup place with
  | some (.file content) => some content
  | _                    => none

/-- Files that differ: with their new content, or none when they are gone. -/
def changes (before after : Disk) : List (Place × Option ByteArray) :=
  ((after.files.filter fun (place, content) => before.fileAt? place ≠ some content).map
    fun (place, content) => (place, some content)) ++
  ((before.files.filter fun (place, _) => (after.fileAt? place).isNone).map
    fun (place, _) => (place, none))

end Outline.Disk
