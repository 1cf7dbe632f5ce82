import Outline.Proofs.Disk.Place

/-!
# Operations on literal paths

A path is located when it is the literal path of a name in a solid place and that name is no link.
Then each operation has one description: when it succeeds, and which entry it sets or erases. What
decides this stays the same on all disks with the same directories and links.
-/

namespace Outline.Disk

variable {d d' : Disk} {path : Path}

/-! ### Entries after an operation -/

lemma lookup_set_self {place : Place} (hplace : place ≠ []) (entry : Entry) :
    (d.set place entry).lookup place = some entry := by
  rw [lookup_set d place entry place hplace, if_pos rfl]

lemma lookup_set_of_ne {place x : Place} (hne : place ≠ x) (entry : Entry) :
    (d.set place entry).lookup x = d.lookup x := by
  by_cases hx : x = []
  · simp [lookup, hx]
  · rw [lookup_set d place entry x hx, if_neg hne]

lemma lookup_erase_self {place : Place} (hplace : place ≠ []) :
    (d.erase place).lookup place = none := by
  rw [lookup_erase d place place hplace, if_pos rfl]

lemma lookup_erase_of_ne {place x : Place} (hne : place ≠ x) :
    (d.erase place).lookup x = d.lookup x := by
  by_cases hx : x = []
  · simp [lookup, hx]
  · rw [lookup_erase d place x hx, if_neg hne]

/-! ### Walking along names -/

/-- Going along the names of a solid place leads to it. -/
lemma stepAlong_names_eq_ok_iff {purpose : Purpose}
    {follow : Place → List Piece → Except IoError Found} {place names : Place} {rest : List Piece}
    {found : Found} (hsolid : d.Solid (place ++ names))
    (hrest : ¬ (purpose = .write ∧ rest = [.closing])) :
    d.stepAlong purpose follow place (names.map .name ++ rest) = .ok found ↔
      d.stepAlong purpose follow (place ++ names) rest = .ok found := by
  induction names generalizing place with
  | nil => rw [List.map_nil, List.nil_append, List.append_nil]
  | cons n names ih =>
    have hsplit : place ++ n :: names = (place ++ [n]) ++ names := by simp
    have hdir : d.lookup place = some .directory :=
      hsolid.above place (List.prefix_append place _) (by simp)
    have hlen : n.length ≤ nameLimit := hsolid.short n (by simp)
    have hnext : ¬ (purpose = .write ∧ names.map Piece.name ++ rest = [.closing]) := by
      cases names with
      | nil => exact hrest
      | cons m names => simp
    have hsettled : ∀ target, d.lookup (place ++ [n]) ≠ some (.link target) := by
      intro target
      by_cases hnames : names = []
      · subst hnames
        exact hsolid.settled target
      · rw [hsolid.above (place ++ [n]) (hsplit ▸ List.prefix_append _ _) (by simpa using hnames)]
        simp
    rw [hsplit] at hsolid
    rw [List.map_cons, List.cons_append, stepAlong_name_eq_ok_iff, hsplit, ← ih hsolid]
    -- `hsettled` rules out the case of a link
    simp only [hdir, hnext, hlen, not_false_eq_true, true_and]

lemma exists_walk_eq (d : Disk) (purpose : Purpose) (links : Nat) :
    ∃ follow, d.walk purpose links = d.stepAlong purpose follow := by
  cases links with
  | zero => exact ⟨_, rfl⟩
  | succ links => exact ⟨_, rfl⟩

lemma walk_names_eq_ok_iff {purpose : Purpose} {links : Nat} {names : Place} {found : Found}
    (hsolid : d.Solid names) :
    d.walk purpose links [] (names.map .name) = .ok found ↔ found = ⟨names, d.lookup names⟩ := by
  obtain ⟨follow, hfollow⟩ := d.exists_walk_eq purpose links
  have hiff : d.stepAlong purpose follow [] (names.map .name ++ []) = .ok found ↔
      d.stepAlong purpose follow ([] ++ names) [] = .ok found :=
    stepAlong_names_eq_ok_iff hsolid (by simp)
  rw [List.append_nil, List.nil_append] at hiff
  rw [hfollow, hiff, stepAlong, Except.ok.injEq, eq_comm]

/-! ### Located paths -/

/-- An entry can stand where the path leads: its directory is there, and neither the path nor its
last name is too long. -/
structure Open (d : Disk) (path : Path) : Prop where
  checked   : checkPath path = .ok ()
  directory : d.lookup path.place.dropLast = some .directory
  short     : ∀ n, path.place.getLast? = some n → n.length ≤ nameLimit

/-- The path is the literal path of a name in a solid place, and what can have this name is no
link. -/
structure Located (d : Disk) (path : Path) : Prop where
  literal : path = Path.ofNames path.place
  ne_nil  : path.place ≠ []
  proper  : ∀ n ∈ path.place, Proper n
  solid   : d.Solid path.place.dropLast
  settled : Open d path → ∀ target, d.lookup path.place ≠ some (.link target)

lemma Located.exists_concat (h : Located d path) :
    ∃ front n, path.place = front ++ [n] ∧ path = Path.ofNames (front ++ [n]) ∧
      (∀ m ∈ front ++ [n], Proper m) ∧ d.Solid front := by
  obtain ⟨front, n, hplace⟩ := List.eq_nil_or_concat path.place |>.resolve_left h.ne_nil
  rw [List.concat_eq_append] at hplace
  have hsolid := h.solid
  rw [hplace, List.dropLast_concat] at hsolid
  exact ⟨front, n, hplace, hplace ▸ h.literal, hplace ▸ h.proper, hsolid⟩

lemma Located.endsInSlash (h : Located d path) : path.endsInSlash = false := by
  obtain ⟨front, n, -, hpath, hproper, -⟩ := h.exists_concat
  rw [hpath]
  have hn := hproper n (by simp)
  exact Path.endsInSlash_ofNames_concat front hn.ne_nil hn.slashless

lemma checkNames_eq_ok_iff {u : Unit} :
    checkNames path = .ok u ↔ path.bytes ≠ [] ∧ 0 ∉ path.bytes := by
  unfold checkNames
  by_cases hnul : 0 ∈ path.bytes
  · simp [hnul]
  · by_cases hempty : path.bytes = []
    · simp [hempty]
    · simp [hnul, hempty]

lemma checkPath_bind_eq_ok_iff {α : Type} {f : Unit → Except IoError α} {a : α} :
    checkPath path >>= f = .ok a ↔ checkPath path = .ok () ∧ f () = .ok a := by
  rw [bind_eq_ok_iff]
  constructor
  · rintro ⟨_, hcheck, hf⟩
    exact ⟨hcheck, hf⟩
  · rintro ⟨hcheck, hf⟩
    exact ⟨(), hcheck, hf⟩

lemma leafOf_eq_some {front : Place} {n : Name} (hplace : path.place = front ++ [n])
    (hproper : ∀ m ∈ front ++ [n], Proper m) : leafOf path = some (front.map .name, n) := by
  have hpieces : (path.parts.filter (· ≠ [])).map Path.pieceOf = front.map .name ++ [.name n] := by
    change path.place.map Path.pieceOf = _
    rw [hplace, List.map_congr_left fun m hm => (hproper m hm).pieceOf_eq]
    simp
  unfold leafOf
  simp only [hpieces, List.getLast?_concat, List.dropLast_concat]

lemma open_iff {front : Place} {n : Name} (hplace : path.place = front ++ [n]) :
    Open d path ↔
      checkPath path = .ok () ∧ d.lookup front = some .directory ∧ n.length ≤ nameLimit := by
  constructor
  · rintro ⟨hcheck, hdir, hshort⟩
    rw [hplace, List.dropLast_concat] at hdir
    exact ⟨hcheck, hdir, hshort n (by simp [hplace])⟩
  · rintro ⟨hcheck, hdir, hshort⟩
    refine ⟨hcheck, by rwa [hplace, List.dropLast_concat], fun m hm => ?_⟩
    rw [hplace, List.getLast?_concat, Option.some.injEq] at hm
    rwa [← hm]

/-- The last name of a literal path. -/
lemma Solid.leaf_eq_ok_iff {front : Place} {n : Name} (hsolid : d.Solid front)
    (hplace : path.place = front ++ [n]) (hproper : ∀ m ∈ front ++ [n], Proper m) {place : Place} :
    d.leaf path = .ok place ↔ Open d path ∧ place = path.place := by
  unfold leaf
  rw [checkPath_bind_eq_ok_iff, leafOf_eq_some hplace hproper, open_iff hplace, hplace]
  simp only [bind_eq_ok_iff (f := fun parent : Found => _), walk_names_eq_ok_iff hsolid,
    exists_eq_left, bind_needDirectory_eq_ok_iff, ite_throw_bind_eq_ok_iff, Nat.not_lt,
    pure_eq_ok_iff, and_assoc]

lemma Located.leaf_eq_ok_iff (h : Located d path) {place : Place} :
    d.leaf path = .ok place ↔ Open d path ∧ place = path.place := by
  obtain ⟨front, n, hplace, -, hproper, hsolid⟩ := h.exists_concat
  exact hsolid.leaf_eq_ok_iff hplace hproper

/-- A name in a solid place is located, if it is no link. -/
lemma Solid.located {front : Place} {n : Name} (hsolid : d.Solid front) (hn : Proper n)
    (hsettled : d.leaf (Path.ofNames (front ++ [n])) = .ok (front ++ [n]) →
      ∀ target, d.lookup (front ++ [n]) ≠ some (.link target)) :
    Located d (Path.ofNames (front ++ [n])) := by
  have hproper := hsolid.proper_concat hn
  have hplace := Path.place_ofNames hproper
  refine ⟨by rw [hplace], by simp [hplace], by rwa [hplace], ?_, fun hopen => ?_⟩
  · rwa [hplace, List.dropLast_concat]
  · rw [hplace]
    exact hsettled ((hsolid.leaf_eq_ok_iff hplace hproper).mpr ⟨hopen, hplace.symm⟩)

/-- The literal path of a solid place leads to what stands there. -/
lemma Solid.lookup_of_find {front : Place} {n : Name} (hsolid : d.Solid (front ++ [n]))
    {found : Place × Entry} (hfind : d.find (Path.ofNames (front ++ [n])) = .ok found) :
    Open d (Path.ofNames (front ++ [n])) ∧ d.lookup (front ++ [n]) = some found.2 := by
  unfold find resolve at hfind
  obtain ⟨end', hend, hneed⟩ := bind_eq_ok_iff.mp hfind
  obtain ⟨hcheck, hwalk⟩ := checkPath_bind_eq_ok_iff.mp hend
  rw [Path.pieces_ofNames_concat hsolid.proper, walk_names_eq_ok_iff hsolid] at hwalk
  subst hwalk
  constructor
  · refine (open_iff (Path.place_ofNames hsolid.proper)).mpr ⟨hcheck, ?_, hsolid.short n (by simp)⟩
    exact hsolid.above front (List.prefix_append front [n]) (by simp)
  · unfold Found.need at hneed
    split at hneed
    · rename_i entry hentry
      cases hneed
      exact hentry
    · cases hneed

lemma Located.resolve_write_eq_ok_iff (h : Located d path) {found : Found} :
    d.resolve .write path = .ok found ↔
      Open d path ∧ found = ⟨path.place, d.lookup path.place⟩ := by
  obtain ⟨front, n, hplace, hpath, hproper, hsolid⟩ := h.exists_concat
  have hpieces : path.pieces = front.map .name ++ [.name n] := by
    rw [hpath, Path.pieces_ofNames_concat hproper, List.map_append, List.map_singleton]
  obtain ⟨follow, hfollow⟩ := d.exists_walk_eq .write linkLimit
  have hiff : d.stepAlong .write follow [] (front.map .name ++ [.name n]) = .ok found ↔
      d.stepAlong .write follow ([] ++ front) [.name n] = .ok found :=
    stepAlong_names_eq_ok_iff hsolid (by simp)
  unfold resolve
  rw [checkPath_bind_eq_ok_iff, hfollow, hpieces, hiff, List.nil_append, stepAlong_name_eq_ok_iff]
  simp only [reduceCtorEq, and_false, not_false_eq_true, true_and, ← and_assoc]
  rw [and_assoc (a := checkPath path = _), ← open_iff hplace]
  refine and_congr_right fun hopen => ?_
  have hsettled := h.settled hopen
  rw [hplace] at hsettled ⊢
  simp only [stepAlong, Except.ok.injEq, eq_comm (b := found)]

/-- A write goes to the place of a located path, unless a directory stands there. -/
lemma Located.writePlace_eq_ok_iff (h : Located d path) {place : Place} :
    d.writePlace path = .ok place ↔
      Open d path ∧ d.lookup path.place ≠ some .directory ∧ place = path.place := by
  unfold writePlace
  rw [bind_eq_ok_iff]
  constructor
  · rintro ⟨found, hfound, hplace⟩
    obtain ⟨hopen, rfl⟩ := h.resolve_write_eq_ok_iff.mp hfound
    split at hplace
    · cases hplace
    · cases hplace
    · rename_i hdir _
      cases hplace
      exact ⟨hopen, hdir, rfl⟩
  · rintro ⟨hopen, hdir, rfl⟩
    refine ⟨_, h.resolve_write_eq_ok_iff.mpr ⟨hopen, rfl⟩, ?_⟩
    have hsettled := h.settled hopen
    -- neither a directory nor a link stands there
    simp only
    rfl

lemma Located.write_eq_ok_iff (h : Located d path) {content : ByteArray} :
    d.write path content = .ok d' ↔ Open d path ∧ d.lookup path.place ≠ some .directory ∧
      d' = d.set path.place (.file content) := by
  unfold write
  simp only [bind_eq_ok_iff, pure_eq_ok_iff, h.writePlace_eq_ok_iff]
  constructor
  · rintro ⟨_, ⟨hopen, hdir, rfl⟩, hd'⟩
    exact ⟨hopen, hdir, hd'⟩
  · rintro ⟨hopen, hdir, hd'⟩
    exact ⟨_, ⟨hopen, hdir, rfl⟩, hd'⟩

/-- A removal erases the entry of a located path, unless it is missing or a directory. -/
lemma Located.unlink_eq_ok_iff (h : Located d path) :
    d.unlink path = .ok d' ↔ Open d path ∧ d.lookup path.place ≠ none ∧
      d.lookup path.place ≠ some .directory ∧ d' = d.erase path.place := by
  unfold unlink
  simp only [bind_eq_ok_iff, h.leaf_eq_ok_iff, h.endsInSlash]
  constructor
  · rintro ⟨_, ⟨hopen, rfl⟩, hd'⟩
    split at hd'
    · cases hd'
    · cases hd'
    · rename_i hdir entry
      cases hd'
      refine ⟨hopen, by simp [entry], by simp_all, rfl⟩
  · rintro ⟨hopen, hnone, hdir, rfl⟩
    refine ⟨_, ⟨hopen, rfl⟩, ?_⟩
    split
    · exact absurd (by assumption) hnone
    · exact absurd (by assumption) hdir
    · rfl

/-- A rename moves an entry to the place of a located path, unless a directory stands there. -/
lemma Located.rename_eq_ok_iff {old new : Path} (hold : Located d old) (hnew : Located d new)
    (hne : old.place ≠ new.place) :
    d.rename old new = .ok d' ↔ Open d old ∧ Open d new ∧ d.lookup new.place ≠ some .directory ∧
      ∃ entry, d.lookup old.place = some entry ∧ d' = (d.erase old.place).set new.place entry := by
  unfold rename
  simp only [bind_eq_ok_iff, hold.leaf_eq_ok_iff, hnew.leaf_eq_ok_iff, hnew.endsInSlash]
  constructor
  · rintro ⟨_, ⟨hopen, rfl⟩, _, ⟨hopen', rfl⟩, hd'⟩
    cases hentry : d.lookup old.place with
    | none =>
      rw [hentry] at hd'
      cases hd'
    | some entry =>
      simp only [hentry, Bool.false_eq_true, if_false, ite_throw_bind_eq_ok_iff, hne,
        pure_eq_ok_iff] at hd'
      exact ⟨hopen, hopen', hd'.1, entry, rfl, hd'.2⟩
  · rintro ⟨hopen, hopen', hdir, entry, hentry, hd'⟩
    refine ⟨_, ⟨hopen, rfl⟩, _, ⟨hopen', rfl⟩, ?_⟩
    simp only [hentry, Bool.false_eq_true, if_false, ite_throw_bind_eq_ok_iff, hne, pure_eq_ok_iff]
    exact ⟨hdir, hd'⟩

/-- Nothing is renamed to a path that ends in a slash. -/
lemma rename_ne_ok_of_endsInSlash {old new : Path} (hslash : new.endsInSlash = true) :
    d.rename old new ≠ .ok d' := by
  unfold rename
  simp only [ne_eq, bind_eq_ok_iff, hslash]
  rintro ⟨source, -, target, -, hd'⟩
  cases hentry : d.lookup source with
  | none =>
    rw [hentry] at hd'
    cases hd'
  | some entry =>
    rw [hentry] at hd'
    cases hd'

/-! ### Disks with the same directories and links -/

/-- The disks differ in files only. -/
def SameTree (d d' : Disk) : Prop :=
  ∀ x entry, (∀ content, entry ≠ .file content) →
    (d.lookup x = some entry ↔ d'.lookup x = some entry)

namespace SameTree

lemma directory_iff (h : SameTree d d') (x : Place) :
    d.lookup x = some .directory ↔ d'.lookup x = some .directory :=
  h x .directory (by simp)

lemma link_iff (h : SameTree d d') (x : Place) (target : Path) :
    d.lookup x = some (.link target) ↔ d'.lookup x = some (.link target) :=
  h x (.link target) (by simp)

lemma solid (h : SameTree d d') {place : Place} (hsolid : d.Solid place) : d'.Solid place where
  proper  := hsolid.proper
  short   := hsolid.short
  above   := fun front hfront hne => (h.directory_iff front).mp (hsolid.above front hfront hne)
  settled := fun target hlink => hsolid.settled target ((h.link_iff place target).mpr hlink)

lemma open_iff (h : SameTree d d') : Open d path ↔ Open d' path := by
  constructor
  · rintro ⟨hcheck, hdir, hshort⟩
    exact ⟨hcheck, (h.directory_iff _).mp hdir, hshort⟩
  · rintro ⟨hcheck, hdir, hshort⟩
    exact ⟨hcheck, (h.directory_iff _).mpr hdir, hshort⟩

lemma located (h : SameTree d d') (hpath : Located d path) : Located d' path where
  literal := hpath.literal
  ne_nil  := hpath.ne_nil
  proper  := hpath.proper
  solid   := h.solid hpath.solid
  settled := fun hopen target hlink =>
    hpath.settled (h.open_iff.mpr hopen) target ((h.link_iff path.place target).mpr hlink)

end SameTree

end Outline.Disk
