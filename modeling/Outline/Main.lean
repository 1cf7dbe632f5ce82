import Outline.Program

/-!
# The executable

Carries out on the real file system what the program decides on a disk: the disk holds the workspace
and its registration file, and the files that differ afterwards are written back.
-/

namespace Outline.Main

/-- The place of the workspace in the real file system. -/
def findWorkspace (workspace : String) : IO (Except IoError Place) := do
  try
    let path := Path.ofText (← IO.FS.realPath workspace).toString
    return .ok (path.parts.filter (· ≠ []))
  catch _ =>
    return .error .notFound

/-- Reads the file at a path into a disk, if there is one. -/
def loadFile (disk : Disk) (path : Path) : IO Disk := do
  try
    let content ← IO.FS.readBinFile path.display
    return (disk.put path (.file content)).toOption.getD disk
  catch _ =>
    return disk

/-- The disk with a workspace and its registration file. -/
def loadDisk (root : Place) : IO Disk := do
  let path := Path.ofNames root
  let disk := (Disk.empty.makeDirectories path).toOption.getD .empty
  loadFile disk (path.join (.ofText ".mcp.json"))

/-- Writes the files that differ. -/
def store (before after : Disk) : IO Unit := do
  for (place, content) in Disk.changes before after do
    let path := (Path.ofNames place).display
    match content with
    | some bytes => IO.FS.writeBinFile path bytes
    | none       => IO.FS.removeFile path

/-- Shows how the program ended. -/
def finish (before : Disk) (outcome : Program.Outcome) : IO UInt32 := do
  store before outcome.disk
  IO.print outcome.output
  match outcome.report with
  | some report => IO.eprint report
  | none        => pure ()
  return outcome.exitCode.toUInt32

end Outline.Main

open Outline in
/-- Runs the program with the arguments of the command line. -/
def main (args : List String) : IO UInt32 := do
  match CommandLine.read args with
  | .run options =>
    let workspace ← Main.findWorkspace options.workspace
    let disk ←
      match workspace with
      | .ok root => Main.loadDisk root
      | .error _ => pure .empty
    Main.finish disk (Program.runOptions disk options workspace)
  | _ => Main.finish .empty (Program.run .empty ⟨[Path.slash]⟩ args)
