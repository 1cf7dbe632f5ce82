import Outline.Disk.Operations
import Outline.Error
import Outline.Uri.FilePath

/-!
# Paths in the workspace

Tools name files by paths relative to the root of the workspace, and show them so. A path that is
given must lead, through all links, to a file under the root.
-/

namespace Outline

/-- The file path of a URI. -/
def Uri.path? (u : Uri) : Option Path := u.toPath?.map Path.mk

/-- The path of a document as it is shown: relative to the workspace when it is inside, else the
whole path, and the URI when it is no file. -/
def displayPath (root : Path) (uri : Uri) : String :=
  match uri.path? with
  | none   => uri.text
  | some p => ((p.relativeTo? root).getD p).display

/-- The document is in the workspace, by its names. -/
def isInside (root : Path) (uri : Uri) : Bool :=
  match uri.path? with
  | none   => false
  | some p => p.isUnder root

/-- The URI of the file a path leads to, seen from the directory `cwd`. -/
def Disk.uriOf (disk : Disk) (cwd path : Path) : Except HostError Uri :=
  match disk.canonicalize (cwd.join path) with
  | .ok place => .ok (.ofNames place)
  | .error e  => .error (.documentNotFound
      ("failed to canonicalize path '" ++ path.display ++ "': " ++ e.message))

/-- The file path of a document. -/
def Uri.filePath (uri : Uri) : Except HostError Path :=
  match uri.path? with
  | some path => .ok path
  | none      => .error (.documentNotFound ("not a file URI: " ++ uri.text))

/-- The URI of the file that a path of a tool names. -/
def Disk.locate (disk : Disk) (root : Path) (path : String) : Except ToolError Uri := do
  if (Path.ofText path).isAbsolute then
    throw (.invalidArguments ("path must be relative to the workspace: " ++ path))
  match disk.canonicalize (root.join (.ofText path)) with
  | .error _  => throw (.fileNotFound path)
  | .ok place =>
    if !(Path.ofNames place).isUnder root then
      throw (.invalidArguments ("path is outside the workspace: " ++ path))
    match disk.lookup place with
    | some (.file _) => return .ofNames place
    | _              => throw (.fileNotFound path)

end Outline
