import Outline.Disk.Path

/-!
# The file system

A disk holds files, directories and symbolic links. Each entry has a place: the names that lead to
it from the root, none of them a link. The root itself is always a directory.
-/

namespace Outline

/-- Where an entry is: its names from the root on. -/
abbrev Place := List Name

/-- Contents are compared byte by byte. -/
instance (priority := high) decidableEqContent : DecidableEq ByteArray := ByteArray.instDecidableEq

/-- What stands at a place. -/
inductive Entry where
  | file (content : ByteArray)
  | directory
  | link (target : Path)
  deriving DecidableEq

/-- Entries under their places. Of two entries for one place the first counts. -/
structure Disk where
  entries : List (Place × Entry)

/-- Why the file system refuses. -/
inductive IoError where
  | notFound
  | permissionDenied
  | busy
  | alreadyExists
  | notDirectory
  | isDirectory
  | nameTooLong
  | tooManyLinks
  | notText
  | embeddedNul
  | nulInCommand
  deriving DecidableEq, Repr

/-- The refusal in words. -/
def IoError.message : IoError → String
  | notFound         => "No such file or directory (os error 2)"
  | permissionDenied => "Permission denied (os error 13)"
  | busy             => "Device or resource busy (os error 16)"
  | alreadyExists    => "File exists (os error 17)"
  | notDirectory     => "Not a directory (os error 20)"
  | isDirectory      => "Is a directory (os error 21)"
  | nameTooLong      => "File name too long (os error 36)"
  | tooManyLinks     => "Too many levels of symbolic links (os error 40)"
  | notText          => "stream did not contain valid UTF-8"
  | embeddedNul      => "file name contained an unexpected NUL byte"
  | nulInCommand     => "nul byte found in provided data"

namespace Disk

/-- The value under a key in a list of pairs. -/
def lookupIn (place : Place) : List (Place × Entry) → Option Entry
  | []           => none
  | (p, e) :: es => if p = place then some e else lookupIn place es

/-- What stands at a place. -/
def lookup (disk : Disk) (place : Place) : Option Entry :=
  if place = [] then some .directory else lookupIn place disk.entries

/-- Puts an entry at a place. -/
def setEntries (place : Place) (entry : Entry) : List (Place × Entry) → List (Place × Entry)
  | []           => [(place, entry)]
  | (p, e) :: es => if p = place then (p, entry) :: es else (p, e) :: setEntries place entry es

/-- Puts an entry at a place. -/
def set (disk : Disk) (place : Place) (entry : Entry) : Disk :=
  ⟨setEntries place entry disk.entries⟩

/-- Removes the entry at a place. -/
def erase (disk : Disk) (place : Place) : Disk := ⟨disk.entries.filter (·.1 ≠ place)⟩

/-- A disk with nothing but its root. -/
def empty : Disk := ⟨[]⟩

/-! ### What the operations do to the entries -/

theorem lookupIn_setEntries (place : Place) (entry : Entry) (es : List (Place × Entry))
    (q : Place) :
    lookupIn q (setEntries place entry es) = if place = q then some entry else lookupIn q es := by
  induction es with
  | nil => rfl
  | cons p es ih =>
    by_cases h : p.1 = place
    · by_cases hq : place = q <;> simp_all [setEntries, lookupIn]
    · by_cases hp : p.1 = q <;> by_cases hq : place = q <;> simp_all [setEntries, lookupIn]

theorem lookupIn_filter (place q : Place) (es : List (Place × Entry)) :
    lookupIn q (es.filter (·.1 ≠ place)) = if place = q then none else lookupIn q es := by
  induction es with
  | nil => simp [lookupIn]
  | cons p es ih =>
    by_cases h : p.1 = place <;> by_cases hq : p.1 = q <;> by_cases hpq : place = q <;>
      simp_all [lookupIn]

theorem lookup_set (disk : Disk) (place : Place) (entry : Entry) (q : Place) (hq : q ≠ []) :
    (disk.set place entry).lookup q = if place = q then some entry else disk.lookup q := by
  simp [lookup, set, hq, lookupIn_setEntries]

theorem lookup_erase (disk : Disk) (place q : Place) (hq : q ≠ []) :
    (disk.erase place).lookup q = if place = q then none else disk.lookup q := by
  have := lookupIn_filter place q disk.entries
  simp_all [lookup, erase]

end Disk

end Outline
