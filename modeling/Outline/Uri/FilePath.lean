import Outline.Uri.Basic
import Outline.Uri.Percent

/-!
# URIs and file paths

A file of this machine has one URI: its names, percent-encoded, behind `file://`. A URI leads to a
path when it has a rooted path and no foreign host; the scheme, the query and the fragment do not
matter. A path is a list of bytes, since names need not be text.
-/

namespace Outline.Uri

/-- The URI of the file with these names from the root on. -/
def ofNames (names : List (List UInt8)) : Uri :=
  { scheme := "file", authority := some ⟨"", "", none⟩,
    path := .rooted
      (if names.isEmpty then [""] else names.map (Percent.encodeBytes Percent.segmentSet)),
    query := none, fragment := none }

/-- The URI names no other machine. -/
def isLocal (u : Uri) : Bool :=
  match u.authority with
  | none   => true
  | some a => a.host.isEmpty || a.host == "localhost"

/-- A path that ends in a drive, which needs a slash behind it. -/
def endsInDrive (path : List UInt8) : Bool :=
  match path.reverse with
  | mark :: letter :: _ :: _ =>
    (mark == 0x3A || mark == 0x7C) && (Char.ofNat letter.toNat).isAlpha
  | _ => false

/-- The file path a URI leads to, as bytes. -/
def toPath? (u : Uri) : Option (List UInt8) :=
  match u.path with
  | .rooted (s :: ss) =>
    if u.isLocal then
      let path := (s :: ss).flatMap fun s => 0x2F :: Percent.decode (utf8Bytes s)
      some (if endsInDrive path then path ++ [0x2F] else path)
    else none
  | _ => none

end Outline.Uri
