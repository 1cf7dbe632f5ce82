import Mathlib
import Outline.Proofs.Disk.Relative
import Outline.Proofs.Engine.BodyEdits
import Outline.Proofs.Host.Regrouping

/-!
# Paths that were shown

What is shown of a file in the workspace is a path that every operation takes for that same file:
it is relative, and from the root it leads through the same links to the same place.
-/

namespace Outline.Disk

open Outline.Action

variable {d : Disk} {root place : Place} {uri : Uri} {text : String}

/-- The path of a text that leads into the workspace is shown as it is seen from the root. -/
lemma exists_seenFrom_displayPath (hproper : ∀ n ∈ root, Proper n)
    (hpath : uri.path? = some (.ofText text)) (hunder : isInside (.ofNames root) uri = true) :
    ∃ front core back, Path.SeenFrom root (.ofText text) front core back ∧
      Path.ofText (displayPath (.ofNames root) uri) = .ofParts core := by
  have hisUnder : (Path.ofText text).isUnder (.ofNames root) = true := by
    simpa only [isInside, hpath] using hunder
  obtain ⟨rel, hrel⟩ := Option.isSome_iff_exists.mp hisUnder
  obtain ⟨front, core, back, hseen, hcore⟩ := Path.exists_seenFrom hproper hrel
  obtain ⟨shown, hshown⟩ := hseen.exists_text
  refine ⟨front, core, back, hseen, ?_⟩
  simp only [displayPath, hpath, hrel, hcore, hshown, Option.getD_some, Path.display_ofText]

/-- The root of the workspace is a directory. A file in it is found by the path it is shown with, by
every operation that looks for it: this gives the URI of its place, whichever URI it was reported
with. -/
theorem locate_displayPath (d : Disk) (root place : Place) (uri : Uri) (text : String)
    (hroot : d.canonicalize (.ofNames root) = .ok root) (hdir : d.lookup root = some .directory)
    (hpath : uri.path? = some (.ofText text)) (hunder : isInside (.ofNames root) uri = true)
    (hplace : d.canonicalize (.ofText text) = .ok place) (hinside : root <+: place)
    (hfile : ∃ content, d.lookup place = some (.file content)) :
    d.canonicalUri uri = .ok (.ofNames place) ∧
      d.locate (.ofNames root) (displayPath (.ofNames root) uri) = .ok (.ofNames place) ∧
      ∀ (σ : Type) [Host σ] (s : σ), Host.disk s = d →
        exec (Engine.locate (.ofNames root) (displayPath (.ofNames root) uri)) s =
          (.ok (.ofNames place), s) := by
  have hleadsTo := canonicalize_eq_ok_iff.mp hplace
  have hrootTo := canonicalize_eq_ok_iff.mp hroot
  have hnoDirectory : d.lookup place ≠ some .directory := by
    obtain ⟨content, hcontent⟩ := hfile
    simp [hcontent]
  obtain ⟨front, core, back, hseen, hcore⟩ :=
    exists_seenFrom_displayPath hrootTo.solid.proper hpath hunder
  obtain ⟨hrelative, hjoined⟩ := hleadsTo.join hrootTo hdir hnoDirectory hseen
  have hlocate : d.locate (.ofNames root) (displayPath (.ofNames root) uri) =
      .ok (.ofNames place) := by
    refine (locate_ofNames_eq_ok_iff hroot).mpr ⟨place, ⟨?_, ?_, hinside, hfile⟩, rfl⟩
    · rw [hcore, hrelative]
    · rwa [hcore]
  refine ⟨canonicalUri_eq_ok_iff.mpr ⟨place, placeOf_eq_some_iff.mpr ⟨_, hpath, hplace⟩, rfl⟩,
    hlocate, ?_⟩
  rintro σ _ s rfl
  rw [Engine.exec_locate, hlocate]

/-- A workspace `w` with the directory `d`, which holds the file `a %`, and a link `l` to `d`. -/
def workspaceWithLink : Disk :=
  ⟨[([[0x77]], .directory), ([[0x77], [0x64]], .directory),
    ([[0x77], [0x64], utf8Bytes "a %"], .file "f".toUTF8), ([[0x77], [0x6C]], .link ⟨[0x64]⟩)]⟩

/-- A URI of the file, through the link, out again and through the link once more. -/
def uriThroughLink : Uri :=
  ⟨"file", some ⟨"", "", none⟩, .rooted ["w", "", "l%2F..%2Fl", "a%20%25"], none, none⟩

/-- Shown is the path with the link, which leads to the file. -/
theorem locate_displayPath_uriThroughLink :
    uriThroughLink.path? = some (.ofText "/w//l/../l/a %") ∧
      displayPath (.ofNames [[0x77]]) uriThroughLink = "l/../l/a %" ∧
      workspaceWithLink.locate (.ofNames [[0x77]]) (displayPath (.ofNames [[0x77]]) uriThroughLink) =
        .ok (.ofNames [[0x77], [0x64], utf8Bytes "a %"]) := by
  refine ⟨by decide, by decide +kernel, ?_⟩
  exact (locate_displayPath workspaceWithLink [[0x77]] [[0x77], [0x64], utf8Bytes "a %"]
    uriThroughLink "/w//l/../l/a %" (by decide) (by decide) (by decide)
    (by decide) (by decide +kernel) (by decide)
    ⟨"f".toUTF8, by decide⟩).2.1

end Outline.Disk
