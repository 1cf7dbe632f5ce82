import Outline.Proofs.Disk.Located
import Outline.Proofs.Uri.FilePath

/-!
# Files by their own URIs

The URI of a solid place leads back to that place, and to no other. Only a slash behind the path,
which the URI of a drive gets, can be in the way: then there must be a directory.
-/

namespace Outline.Disk

variable {d : Disk} {place place' : Place}

lemma need_eq_ok_iff {found : Found} {result : Place × Entry} :
    found.need = .ok result ↔ found.place = result.1 ∧ found.entry = some result.2 := by
  obtain ⟨place, entry⟩ := found
  cases entry with
  | none => simp [Found.need]
  | some entry => simp [Found.need, Prod.ext_iff]

/-- What a path leads to stands at one place. -/
lemma canonicalize_of_find {path : Path} {result : Place × Entry} (h : d.find path = .ok result) :
    d.canonicalize path = .ok result.1 := by
  unfold find resolve checkPath at h
  obtain ⟨found, hfound, hneed⟩ := bind_eq_ok_iff.mp h
  obtain ⟨_, hcheck, hwalk⟩ := bind_eq_ok_iff.mp hfound
  obtain ⟨_, hnames, -⟩ := bind_eq_ok_iff.mp hcheck
  unfold canonicalize
  exact bind_eq_ok_iff.mpr ⟨_, hnames, bind_eq_ok_iff.mpr ⟨found, hwalk,
    bind_eq_ok_iff.mpr ⟨result, hneed, rfl⟩⟩⟩

/-! ### The path of a solid place -/

namespace Solid

variable (hsolid : d.Solid place)
include hsolid

lemma pieces_pathOf :
    (Uri.pathOf place).pieces =
      place.map .name ++ if (Uri.pathOf place).endsInSlash then [.closing] else [] := by
  rw [Path.pieces_eq, Uri.place_pathOf hsolid.proper,
    List.map_congr_left fun n hn => (hsolid.proper n hn).pieceOf_eq]

lemma walk_pathOf_eq_ok_iff {links : Nat} {found : Found} :
    d.walk .find links [] (Uri.pathOf place).pieces = .ok found ↔
      ((Uri.pathOf place).endsInSlash = true → d.lookup place = some .directory) ∧
        found = ⟨place, d.lookup place⟩ := by
  obtain ⟨follow, hfollow⟩ := d.exists_walk_eq .find links
  have hnames : ∀ rest, d.stepAlong .find follow [] (place.map .name ++ rest) = .ok found ↔
      d.stepAlong .find follow place rest = .ok found :=
    fun rest => stepAlong_names_eq_ok_iff hsolid (by simp)
  rw [hfollow, hsolid.pieces_pathOf, hnames]
  cases (Uri.pathOf place).endsInSlash with
  | false => simp [stepAlong, eq_comm]
  | true => simp [stepAlong, bind_needDirectory_eq_ok_iff, eq_comm (a := found)]

/-- The path of a place leads to no other place. -/
lemma eq_of_canonicalize_pathOf (h : d.canonicalize (Uri.pathOf place) = .ok place') :
    place' = place := by
  unfold canonicalize at h
  obtain ⟨_, -, hrest⟩ := bind_eq_ok_iff.mp h
  obtain ⟨found, hwalk, hend⟩ := bind_eq_ok_iff.mp hrest
  obtain ⟨result, hneed, hresult⟩ := bind_eq_ok_iff.mp hend
  rw [pure_eq_ok_iff.mp hresult, ← (need_eq_ok_iff.mp hneed).1,
    (hsolid.walk_pathOf_eq_ok_iff.mp hwalk).2]

lemma find_pathOf_eq_ok_iff {result : Place × Entry} :
    d.find (Uri.pathOf place) = .ok result ↔
      checkPath (Uri.pathOf place) = .ok () ∧
        ((Uri.pathOf place).endsInSlash = true → d.lookup place = some .directory) ∧
        result.1 = place ∧ d.lookup place = some result.2 := by
  unfold find resolve
  simp only [bind_eq_ok_iff (f := fun found : Found => found.need), checkPath_bind_eq_ok_iff,
    hsolid.walk_pathOf_eq_ok_iff, need_eq_ok_iff]
  constructor
  · rintro ⟨_, ⟨hcheck, hslash, rfl⟩, hplace, hentry⟩
    exact ⟨hcheck, hslash, hplace.symm, hentry⟩
  · rintro ⟨hcheck, hslash, hplace, hentry⟩
    exact ⟨_, ⟨hcheck, hslash, rfl⟩, hplace.symm, hentry⟩

/-- The path of a place ends in a slash for the root and for what looks like a drive. -/
lemma endsInSlash_pathOf_eq_false_iff :
    (Uri.pathOf place).endsInSlash = false ↔
      place ≠ [] ∧ Uri.endsInDrive (Path.ofNames place).bytes = false := by
  rcases List.eq_nil_or_concat place with rfl | ⟨front, n, rfl⟩
  · simp [Uri.pathOf, Path.ofNames, Path.endsInSlash, Uri.endsInDrive]
  · rw [List.concat_eq_append] at hsolid ⊢
    have hn := hsolid.proper n (by simp)
    have hliteral := Path.endsInSlash_ofNames_concat front hn.ne_nil hn.slashless
    cases hdrive : Uri.endsInDrive (Path.ofNames (front ++ [n])).bytes with
    | true => simp [Uri.pathOf, hdrive, Path.endsInSlash]
    | false => simpa [Uri.pathOf, hdrive] using hliteral

end Solid

/-! ### The file of a URI -/

/-- The place of the file that a URI names. -/
def placeOf (d : Disk) (uri : Uri) : Option Place :=
  uri.path?.bind fun path => (d.canonicalize path).toOption

lemma placeOf_eq_some_iff {uri : Uri} :
    d.placeOf uri = some place ↔ ∃ path, uri.path? = some path ∧ d.canonicalize path = .ok place := by
  unfold placeOf
  cases uri.path? with
  | none => simp
  | some path =>
    cases hplace : d.canonicalize path with
    | error e => simp [hplace, Except.toOption]
    | ok place' => simp [hplace, Except.toOption]

lemma solid_of_placeOf {uri : Uri} (h : d.placeOf uri = some place) : d.Solid place := by
  obtain ⟨path, -, hplace⟩ := placeOf_eq_some_iff.mp h
  exact solid_of_canonicalize hplace

/-- The URI of a place names nothing else. -/
lemma Solid.eq_of_placeOf (hsolid : d.Solid place) (h : d.placeOf (.ofNames place) = some place') :
    place' = place := by
  obtain ⟨path, hpath, hplace⟩ := placeOf_eq_some_iff.mp h
  rw [Uri.path?_ofNames] at hpath
  rw [← Option.some.inj hpath] at hplace
  exact hsolid.eq_of_canonicalize_pathOf hplace

end Outline.Disk
