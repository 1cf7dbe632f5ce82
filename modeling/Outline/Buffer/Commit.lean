import Outline.Buffer.Store

/-!
# Writing documents as one change

All new texts are written to temporary files beside the documents first, and these are then renamed
over the documents one by one. When something fails, the temporary files are removed and documents
that were replaced already get their old texts back.
-/

namespace Outline

namespace PendingDocument

/-- The temporary file beside a document. -/
def temporary (d : PendingDocument) : Path := d.path.addSuffix ".symbolsmith-tmp"

/-- Writes all temporary files. The first failure counts, but does not keep the others from being
written. -/
def writeTemporaries : Disk → List PendingDocument → Disk × Option IoError
  | disk, []      => (disk, none)
  | disk, d :: ds =>
    match disk.writeText d.temporary d.text with
    | .ok disk => writeTemporaries disk ds
    | .error e => ((writeTemporaries disk ds).1, some e)

/-- Removes temporary files, as far as they are there. -/
def removeTemporaries (disk : Disk) (ds : List PendingDocument) : Disk :=
  ds.foldl (fun disk d => (disk.unlink d.temporary).toOption.getD disk) disk

/-- Puts old texts back, as far as that is possible. -/
def restore (disk : Disk) (ds : List PendingDocument) : Disk :=
  ds.foldl (fun disk d => (disk.writeText d.path d.previous).toOption.getD disk) disk

/-- Renames the temporary files over their documents; `done` are the documents replaced so far. -/
def replaceAll : (done : List PendingDocument) → Disk → List PendingDocument → Disk × Option IoError
  | _,    disk, []      => (disk, none)
  | done, disk, d :: ds =>
    match disk.rename d.temporary d.path with
    | .ok disk => replaceAll (done ++ [d]) disk ds
    | .error e => (restore (removeTemporaries disk (d :: ds)) done, some e)

end PendingDocument

open PendingDocument

/-- Writes documents as one change. Gives the disk afterwards and what went wrong. -/
def commit (disk : Disk) (ds : List PendingDocument) : Disk × Option IoError :=
  match writeTemporaries disk ds with
  | (disk, some e) => (removeTemporaries disk ds, some e)
  | (disk, none)   => replaceAll [] disk ds

/-- Applies an edit set to open documents and their files as one change. Gives the disk and the
buffers afterwards, and either what the server has to be told or what went wrong. -/
def Buffers.apply (b : Buffers) (disk : Disk) (changes : EditSet) :
    Disk × Buffers × Except HostError (List BufferChange) :=
  match b.prepare changes with
  | .error e => (disk, b, .error e)
  | .ok ds   =>
    match commit disk ds with
    | (disk, some e) => (disk, b, .error (.io e.message))
    | (disk, none)   =>
      let (after, told) := b.accept ds
      (disk, after, .ok told)

end Outline
