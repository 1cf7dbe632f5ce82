import Mathlib.Data.List.Basic
import Outline.Proofs.Disk.Inside

/-!
# Disks whose links are moved

Where a path leads is decided by the directories and the links. As long as these stay, a write goes
where it went. When links are removed, or moved to other names in their directories, a path can lead
elsewhere; but if every link that was moved led past some file, then no path that led past that file
leads to it now.
-/

namespace Outline.Disk

variable {before d d' : Disk} {path : Path} {place goal x : Place} {pieces : List Piece}

lemma ne_nil_of_not_directory (h : d.lookup place ≠ some .directory) : place ≠ [] := by
  rintro rfl
  exact h rfl

/-! ### Writes -/

/-- Where a write goes there is neither a directory nor a link. -/
lemma writePlace_eq_ok_iff :
    d.writePlace path = .ok place ↔
      d.resolve .write path = .ok ⟨place, d.lookup place⟩ ∧ d.lookup place ≠ some .directory ∧
        ∀ target, d.lookup place ≠ some (.link target) := by
  unfold writePlace
  rw [bind_eq_ok_iff]
  constructor
  · rintro ⟨⟨place', entry⟩, hfound, hplace⟩
    have hentry : entry = d.lookup place' := by
      unfold resolve at hfound
      exact (leads_of_walk (checkPath_bind_eq_ok_iff.mp hfound).2).2
    subst hentry
    dsimp only at hplace
    split at hplace
    · cases hplace
    · cases hplace
    · rename_i hdir hlink
      cases hplace
      exact ⟨hfound, hdir, hlink⟩
  · rintro ⟨hfound, hdir, hlink⟩
    refine ⟨_, hfound, ?_⟩
    dsimp only
    split
    · exact absurd (by assumption) hdir
    · exact absurd (by assumption) (hlink _)
    · rfl

lemma leads_of_writePlace (h : d.writePlace path = .ok goal) :
    d.Leads linkLimit [] path.pieces goal := by
  have hfound := (writePlace_eq_ok_iff.mp h).1
  unfold resolve at hfound
  exact (leads_of_walk (checkPath_bind_eq_ok_iff.mp hfound).2).1

lemma write_eq_ok_iff {content : ByteArray} :
    d.write path content = .ok d' ↔
      ∃ goal, d.writePlace path = .ok goal ∧ d' = d.set goal (.file content) := by
  unfold write
  simp only [bind_eq_ok_iff, pure_eq_ok_iff]

/-- A write to a name in a solid place goes to that name, unless this belongs to a link. -/
lemma Solid.eq_or_leads_of_writePlace {front : Place} {n : Name} (hsolid : d.Solid front)
    (hn : Proper n) (h : d.writePlace (Path.ofNames (front ++ [n])) = .ok goal) :
    goal = front ++ [n] ∨ ∃ links target, links + 1 = linkLimit ∧
      d.lookup (front ++ [n]) = some (.link target) ∧
      d.Leads links (if target.isAbsolute then [] else front) target.pieces goal := by
  have hleads := leads_of_writePlace h
  rw [Path.pieces_ofNames_concat (hsolid.proper_concat hn), List.map_append,
    List.map_singleton] at hleads
  obtain ⟨-, -, ⟨-, further⟩ | ⟨links, target, hlinks, hlink, further⟩⟩ :=
    leads_name_iff.mp (hsolid.leads_of_names [] hleads)
  · cases further
    exact .inl rfl
  · rw [List.append_nil] at further
    exact .inr ⟨links, target, hlinks.symm, hlink, further⟩

/-- A write to a name in a solid place goes along the link there, if there is one. -/
lemma Solid.writePlace_cases {front : Place} {n : Name} (hsolid : d.Solid front) (hn : Proper n)
    (h : d.writePlace (Path.ofNames (front ++ [n])) = .ok goal) :
    d.lookup (front ++ [n]) ≠ some .directory ∧
      ∀ target, d.lookup (front ++ [n]) = some (.link target) →
        ∃ links, d.Leads links (if target.isAbsolute then [] else front) target.pieces goal := by
  obtain ⟨-, hdir, hnoLink⟩ := writePlace_eq_ok_iff.mp h
  rcases hsolid.eq_or_leads_of_writePlace hn h with rfl | ⟨links, target, -, hlink, hleads⟩
  · exact ⟨hdir, fun target hlink => absurd hlink (hnoLink target)⟩
  · refine ⟨by simp [hlink], fun target' hlink' => ⟨links, ?_⟩⟩
    obtain rfl := Entry.link.inj (Option.some.inj (hlink.symm.trans hlink'))
    exact hleads

/-! ### Removals and renames -/

lemma Solid.leaf_ofNames_eq_ok_iff {front : Place} {n : Name} (hsolid : d.Solid front)
    (hn : Proper n) :
    d.leaf (Path.ofNames (front ++ [n])) = .ok place ↔
      (checkPath (Path.ofNames (front ++ [n])) = .ok () ∧ d.lookup front = some .directory ∧
        n.length ≤ nameLimit) ∧ place = front ++ [n] := by
  have hproper := hsolid.proper_concat hn
  have hplace := Path.place_ofNames hproper
  rw [hsolid.leaf_eq_ok_iff hplace hproper, open_iff hplace, hplace]

lemma exists_of_unlink (h : d.unlink path = .ok d') :
    ∃ place, d.leaf path = .ok place ∧ d.lookup place ≠ some .directory ∧ d' = d.erase place := by
  unfold unlink at h
  obtain ⟨place, hleaf, h⟩ := bind_eq_ok_iff.mp h
  refine ⟨place, hleaf, ?_⟩
  split at h
  · cases h
  · cases h
  · rename_i hdir entry
    split at h
    · cases h
    · cases h
      exact ⟨by simpa [entry] using hdir, rfl⟩

lemma exists_of_rename {old new : Path} (h : d.rename old new = .ok d') :
    ∃ source target entry, d.leaf old = .ok source ∧ d.leaf new = .ok target ∧
      new.endsInSlash = false ∧ d.lookup source = some entry ∧ d.lookup target ≠ some .directory ∧
      (d' = d ∨ source ≠ target ∧ d' = (d.erase source).set target entry) := by
  have hslash : new.endsInSlash = false := by
    by_contra hends
    exact rename_ne_ok_of_endsInSlash (by simpa using hends) h
  unfold rename at h
  obtain ⟨source, hsource, h⟩ := bind_eq_ok_iff.mp h
  obtain ⟨target, htarget, h⟩ := bind_eq_ok_iff.mp h
  cases hentry : d.lookup source with
  | none =>
    rw [hentry] at h
    cases h
  | some entry =>
    simp only [hentry, hslash, Bool.false_eq_true, if_false, ite_throw_bind_eq_ok_iff] at h
    obtain ⟨hdir, h⟩ := h
    refine ⟨source, target, entry, hsource, htarget, hslash, hentry, hdir, ?_⟩
    split at h
    · exact .inl (pure_eq_ok_iff.mp h)
    · rename_i hne
      exact .inr ⟨hne, pure_eq_ok_iff.mp h⟩

/-! ### Disks that differ in files -/

namespace SameTree

lemma refl (d : Disk) : SameTree d d := fun _ _ _ => Iff.rfl

lemma symm (h : SameTree d d') : SameTree d' d := fun p entry hentry => (h p entry hentry).symm

/-- Putting a file where there was a file or nothing. -/
lemma set_file (h : SameTree before d) (hdir : d.lookup place ≠ some .directory)
    (hlink : ∀ target, d.lookup place ≠ some (.link target)) (content : ByteArray) :
    SameTree before (d.set place (.file content)) := by
  intro p entry hentry
  rw [h p entry hentry]
  by_cases hp : place = p
  · subst hp
    rw [lookup_set_self (ne_nil_of_not_directory hdir), Option.some.injEq]
    refine iff_of_false (fun heq => ?_) fun heq => hentry content heq.symm
    cases entry with
    | file content' => exact hentry content' rfl
    | directory => exact hdir heq
    | link target => exact hlink target heq
  · rw [lookup_set_of_ne hp]

lemma stepAlong_eq_ok (h : SameTree d d') {purpose : Purpose}
    {follow follow' : Place → List Piece → Except IoError Found}
    (hfollow : ∀ place pieces found, follow place pieces = .ok found →
      follow' place pieces = .ok ⟨found.place, d'.lookup found.place⟩) {found : Found}
    (hsteps : d.stepAlong purpose follow place pieces = .ok found) :
    d'.stepAlong purpose follow' place pieces = .ok ⟨found.place, d'.lookup found.place⟩ := by
  induction pieces generalizing place with
  | nil =>
    cases hsteps
    rfl
  | cons piece rest ih =>
    cases piece with
    | current =>
      obtain ⟨hdir, hsteps⟩ := bind_needDirectory_eq_ok_iff.mp hsteps
      exact bind_needDirectory_eq_ok_iff.mpr ⟨(h.directory_iff _).mp hdir, ih hsteps⟩
    | closing =>
      obtain ⟨hdir, hsteps⟩ := bind_needDirectory_eq_ok_iff.mp hsteps
      exact bind_needDirectory_eq_ok_iff.mpr ⟨(h.directory_iff _).mp hdir, ih hsteps⟩
    | parent =>
      obtain ⟨hdir, hsteps⟩ := bind_needDirectory_eq_ok_iff.mp hsteps
      exact bind_needDirectory_eq_ok_iff.mpr ⟨(h.directory_iff _).mp hdir, ih hsteps⟩
    | name n =>
      obtain ⟨hdir, hclosing, hshort, hsteps⟩ := stepAlong_name_eq_ok_iff.mp hsteps
      refine stepAlong_name_eq_ok_iff.mpr ⟨(h.directory_iff _).mp hdir, hclosing, hshort, ?_⟩
      split at hsteps
      · rename_i target hlink
        rw [(h.link_iff _ target).mp hlink]
        exact hfollow _ _ _ hsteps
      · rename_i hnoLink
        split
        · rename_i target hlink
          exact absurd ((h.link_iff _ target).mpr hlink) (hnoLink target)
        · exact ih hsteps

lemma walk_eq_ok (h : SameTree d d') {purpose : Purpose} {links : Nat} {found : Found}
    (hwalk : d.walk purpose links place pieces = .ok found) :
    d'.walk purpose links place pieces = .ok ⟨found.place, d'.lookup found.place⟩ := by
  induction links generalizing place pieces found with
  | zero =>
    refine h.stepAlong_eq_ok (fun _ _ _ hfollow => ?_) hwalk
    cases hfollow
  | succ links ih => exact h.stepAlong_eq_ok (fun _ _ _ => ih) hwalk

/-- A write goes to the same place. -/
lemma writePlace_eq_ok (h : SameTree d d') (hplace : d.writePlace path = .ok place) :
    d'.writePlace path = .ok place := by
  obtain ⟨hfound, hdir, hlink⟩ := writePlace_eq_ok_iff.mp hplace
  unfold resolve at hfound
  obtain ⟨hcheck, hwalk⟩ := checkPath_bind_eq_ok_iff.mp hfound
  refine writePlace_eq_ok_iff.mpr ⟨?_, mt (h.directory_iff place).mpr hdir,
    fun target => mt (h.link_iff place target).mpr (hlink target)⟩
  unfold resolve
  exact checkPath_bind_eq_ok_iff.mpr ⟨hcheck, h.walk_eq_ok hwalk⟩

end SameTree

/-! ### Disks with other links -/

/-- A link at the place leads past `x`: to another place, and not to a directory. -/
def LeadsPast (before : Disk) (x place : Place) (target : Path) : Prop :=
  ∃ links goal,
    before.Leads links (if target.isAbsolute then [] else place.dropLast) target.pieces goal ∧
    before.lookup goal ≠ some .directory ∧ goal ≠ x

/-- What has become of the disk `before`: the place `x` is as it was and the directories are the
same, and a link is an old one, or stands at one of the places `sites` and led past `x` from there. -/
structure Drift (before : Disk) (sites : Place → Prop) (x : Place) (d : Disk) : Prop where
  kept        : d.lookup x = before.lookup x
  directories : ∀ p, d.lookup p = some .directory ↔ before.lookup p = some .directory
  links       : ∀ p target, d.lookup p = some (.link target) →
    before.lookup p = some (.link target) ∨ sites p ∧ before.LeadsPast x p target

lemma SameTree.drift (h : SameTree before d) (hkept : d.lookup x = before.lookup x)
    (sites : Place → Prop) : Drift before sites x d where
  kept        := hkept
  directories := fun p => (h.directory_iff p).symm
  links       := fun p target hlink => .inl ((h.link_iff p target).mpr hlink)

namespace Drift

variable {sites : Place → Prop} (h : Drift before sites x d)
include h

/-! ### Changing an entry -/

lemma erase (hne : place ≠ x) (hdir : d.lookup place ≠ some .directory) :
    Drift before sites x (d.erase place) where
  kept := by rw [lookup_erase_of_ne hne, h.kept]
  directories := by
    intro p
    rw [← h.directories p]
    by_cases hp : place = p
    · subst hp
      rw [lookup_erase_self (ne_nil_of_not_directory hdir)]
      exact iff_of_false (by simp) hdir
    · rw [lookup_erase_of_ne hp]
  links := by
    intro p target hlink
    by_cases hp : place = p
    · subst hp
      rw [lookup_erase_self (ne_nil_of_not_directory hdir)] at hlink
      cases hlink
    · rw [lookup_erase_of_ne hp] at hlink
      exact h.links p target hlink

lemma set {entry : Entry} (hne : place ≠ x) (hdir : d.lookup place ≠ some .directory)
    (hentry : entry ≠ .directory)
    (hlink : ∀ target, entry = .link target → sites place ∧ before.LeadsPast x place target) :
    Drift before sites x (d.set place entry) where
  kept := by rw [lookup_set_of_ne hne, h.kept]
  directories := by
    intro p
    rw [← h.directories p]
    by_cases hp : place = p
    · subst hp
      rw [lookup_set_self (ne_nil_of_not_directory hdir), Option.some.injEq]
      exact iff_of_false hentry hdir
    · rw [lookup_set_of_ne hp]
  links := by
    intro p target htarget
    by_cases hp : place = p
    · subst hp
      rw [lookup_set_self (ne_nil_of_not_directory hdir), Option.some.injEq] at htarget
      exact .inr (hlink target htarget)
    · rw [lookup_set_of_ne hp] at htarget
      exact h.links p target htarget

/-- Places where no link is put stay solid. -/
lemma solid (hsolid : before.Solid place)
    (hsite : sites place → before.lookup place = some .directory) : d.Solid place where
  proper  := hsolid.proper
  short   := hsolid.short
  above   := fun front hfront hne => (h.directories front).mpr (hsolid.above front hfront hne)
  settled := by
    intro target hlink
    rcases h.links place target hlink with hold | ⟨hmoved, -⟩
    · exact hsolid.settled target hold
    · rw [(h.directories place).mpr (hsite hmoved)] at hlink
      cases hlink

/-! ### Where paths lead -/

variable {content : ByteArray} (hx : before.lookup x = some (.file content))
include hx

/-- Steps that led past `x` do so now, when links that were moved do. These are met with fewer links
left to follow, which makes the induction in the next lemma. The steps `rest` behind cannot be taken
unless the first ones led to a directory. -/
lemma passes_of_moved {bound : Nat}
    (hmoved : ∀ m < bound, ∀ p target, before.LeadsPast x p target → ∀ rest goal,
      d.Leads m (if target.isAbsolute then [] else p.dropLast) (target.pieces ++ rest) goal →
        rest = [] ∧ goal ≠ x)
    {links m : Nat} {p z : Place} {rest : List Piece} (hbefore : before.Leads links p pieces z)
    (hz : z ≠ x) (hm : m ≤ bound) (hrest : before.lookup z = some .directory → rest = [])
    (hnow : d.Leads m p (pieces ++ rest) goal) : rest = [] ∧ goal ≠ x := by
  have hfollowed {m : Nat} {p : Place} {n : Name} {target : Path} {rest' : List Piece}
      (hm : m < bound) (hpast : before.LeadsPast x (p ++ [n]) target)
      (further : d.Leads m (if target.isAbsolute then [] else p) (target.pieces ++ (rest' ++ rest))
        goal) : rest = [] ∧ goal ≠ x := by
    obtain ⟨hnil, hne⟩ := hmoved m hm _ _ hpast (rest' ++ rest) goal (by rwa [List.dropLast_concat])
    exact ⟨(List.append_eq_nil_iff.mp hnil).2, hne⟩
  induction hbefore generalizing m with
  | arrived links p =>
    by_cases hdir : before.lookup p = some .directory
    · obtain rfl := hrest hdir
      cases hnow
      exact ⟨rfl, hz⟩
    · obtain ⟨hnil, rfl⟩ := hnow.eq_of_not_directory (mt (h.directories p).mp hdir)
      exact ⟨hnil, hz⟩
  | stay hidle _ _ ih =>
    rcases hidle with rfl | rfl
    · cases hnow with
      | stay _ _ further => exact ih hz hm hrest further
    · cases hnow with
      | stay _ _ further => exact ih hz hm hrest further
  | leave _ _ ih =>
    cases hnow with
    | stay hidle _ _ => simp at hidle
    | leave _ further => exact ih hz hm hrest further
  | @enter links p z n rest' _ _ hnoLink _ ih =>
    obtain ⟨-, -, ⟨-, further⟩ | ⟨m', target, rfl, hlink, further⟩⟩ := leads_name_iff.mp hnow
    · exact ih hz hm hrest further
    · rcases h.links _ _ hlink with hold | ⟨-, hpast⟩
      · exact absurd hold (hnoLink target)
      · exact hfollowed hm hpast further
  | @follow links p z n rest' target _ _ hlink _ ih =>
    rw [List.cons_append] at hnow
    obtain ⟨-, -, ⟨-, further⟩ | ⟨m', target', rfl, hlink', further⟩⟩ := leads_name_iff.mp hnow
    · -- the link is gone, so no step goes on from its place
      have hdir : d.lookup (p ++ [n]) ≠ some .directory := by
        rw [ne_eq, h.directories, hlink]
        simp
      obtain ⟨hnil, rfl⟩ := further.eq_of_not_directory hdir
      refine ⟨(List.append_eq_nil_iff.mp hnil).2, ?_⟩
      rintro rfl
      rw [hx] at hlink
      cases hlink
    · rcases h.links _ _ hlink' with hold | ⟨-, hpast⟩
      · rw [hlink, Option.some.injEq, Entry.link.injEq] at hold
        subst hold
        rw [← List.append_assoc] at further
        exact ih hz (Nat.le_of_succ_le hm) hrest further
      · exact hfollowed hm hpast further

/-- A link that led past `x` does so now. -/
lemma passes_of_leadsPast (m : Nat) (p : Place) (target : Path)
    (hpast : before.LeadsPast x p target) (rest : List Piece) (goal : Place)
    (hnow : d.Leads m (if target.isAbsolute then [] else p.dropLast) (target.pieces ++ rest) goal) :
    rest = [] ∧ goal ≠ x := by
  induction m using Nat.strongRecOn generalizing p target rest goal with
  | _ m ih =>
    obtain ⟨links, z, hbefore, hdir, hz⟩ := hpast
    exact h.passes_of_moved hx ih hbefore hz (Nat.le_refl m) (fun hd => absurd hd hdir) hnow

/-- Steps that led past `x` do so now. -/
lemma ne_of_leads {links m : Nat} {p z : Place} (hbefore : before.Leads links p pieces z)
    (hz : z ≠ x) (hnow : d.Leads m p pieces goal) : goal ≠ x := by
  rw [← List.append_nil pieces] at hnow
  exact (h.passes_of_moved hx (fun m' _ => h.passes_of_leadsPast hx m') hbefore hz (Nat.le_refl m)
    (fun _ => rfl) hnow).2

end Drift

end Outline.Disk
