import Mathlib.Data.List.Basic
import Outline.Proofs.Disk.Canonical

/-!
# Files inside the workspace

`Leads` says step by step where a path goes: a name enters a directory, two dots leave the directory
that the steps have got to, and a link is replaced by the steps of its target. Whether the place at
the end is under the root of the workspace is decided name by name. So a path of a tool is accepted
exactly when it is relative and leads to a file whose names begin with those of the root.
-/

namespace Outline

namespace Path

variable {base names : Place}

lemma isIdle_eq_false {n : Name} (h : Proper n) : isIdle n = false := by
  simp [isIdle, h.ne_nil, h.ne_dot]

/-- Steps can be dropped when they are the first ones of those that move. -/
lemma isSome_dropNames_iff {pieces : List Piece} {parts : List Name} :
    (dropNames pieces parts).isSome = true ↔
      pieces <+: (parts.filter (!isIdle ·)).map pieceOf := by
  induction parts generalizing pieces with
  | nil =>
    cases pieces with
    | nil => simp [dropNames]
    | cons b pieces => simp [dropNames]
  | cons part parts ih =>
    cases pieces with
    | nil => simp [dropNames]
    | cons b pieces =>
      rw [dropNames]
      by_cases hidle : isIdle part = true
      · rw [if_pos hidle, ih, List.filter_cons_of_neg (by simp [hidle])]
      · rw [if_neg hidle, List.filter_cons_of_pos (by simp [hidle]), List.map_cons,
          List.cons_prefix_cons, ← ih]
        by_cases hb : pieceOf part = b
        · simp [hb]
        · simp [hb, Ne.symm hb]

/-- A path is under a directory when it begins with the steps that lead there. -/
lemma isUnder_iff {p base : Path} (hbase : base.isAbsolute = true) :
    p.isUnder base = true ↔ base.names <+: p.names := by
  rw [isUnder, relativeTo?, if_pos hbase, Option.isSome_map, isSome_dropNames_iff, names, names]

lemma names_ofNames (h : ∀ n ∈ names, Proper n) : (ofNames names).names = names.map .name := by
  by_cases hne : names = []
  · subst hne
    rfl
  · have hkept : names.filter (!isIdle ·) = names :=
      List.filter_eq_self.mpr fun n hn => by rw [isIdle_eq_false (h n hn), Bool.not_false]
    rw [Path.names, parts_ofNames (fun n hn => (h n hn).slashless) hne,
      List.filter_cons_of_neg (by simp [isIdle]), hkept]
    exact List.map_congr_left fun n hn => (h n hn).pieceOf_eq

lemma isAbsolute_ofNames (names : Place) : (ofNames names).isAbsolute = true := by
  cases names with
  | nil => rfl
  | cons n names => rfl

/-- One place is under another when it begins with the names of that one. -/
lemma isUnder_ofNames_iff (hbase : ∀ n ∈ base, Proper n) (hnames : ∀ n ∈ names, Proper n) :
    (ofNames names).isUnder (ofNames base) = true ↔ base <+: names := by
  rw [isUnder_iff (isAbsolute_ofNames base), names_ofNames hbase, names_ofNames hnames,
    List.prefix_map_iff_of_injective fun _ _ => Piece.name.inj]

end Path

namespace Disk

variable {d : Disk}

/-! ### Where steps lead -/

/-- From a place, the steps lead to the place `goal`, by way of at most `links` links. -/
inductive Leads (d : Disk) : (links : Nat) → Place → List Piece → (goal : Place) → Prop where
  | arrived (links : Nat) (place : Place) : Leads d links place [] place
  | stay {links : Nat} {place goal : Place} {piece : Piece} {rest : List Piece}
      (idle : piece = .current ∨ piece = .closing) (inDirectory : d.lookup place = some .directory)
      (further : Leads d links place rest goal) : Leads d links place (piece :: rest) goal
  | leave {links : Nat} {place goal : Place} {rest : List Piece}
      (inDirectory : d.lookup place = some .directory)
      (further : Leads d links place.dropLast rest goal) :
      Leads d links place (.parent :: rest) goal
  | enter {links : Nat} {place goal : Place} {n : Name} {rest : List Piece}
      (inDirectory : d.lookup place = some .directory) (short : n.length ≤ nameLimit)
      (noLink : ∀ target, d.lookup (place ++ [n]) ≠ some (.link target))
      (further : Leads d links (place ++ [n]) rest goal) : Leads d links place (.name n :: rest) goal
  | follow {links : Nat} {place goal : Place} {n : Name} {rest : List Piece} {target : Path}
      (inDirectory : d.lookup place = some .directory) (short : n.length ≤ nameLimit)
      (isLink : d.lookup (place ++ [n]) = some (.link target))
      (further : Leads d links (if target.isAbsolute then [] else place) (target.pieces ++ rest) goal) :
      Leads d (links + 1) place (.name n :: rest) goal

variable {links : Nat} {place goal : Place} {found : Found} {purpose : Purpose}

lemma leads_of_stepAlong {follow : Place → List Piece → Except IoError Found}
    (hfollow : ∀ place n target rest, d.lookup place = some .directory → n.length ≤ nameLimit →
      d.lookup (place ++ [n]) = some (.link target) →
      follow (if target.isAbsolute then [] else place) (target.pieces ++ rest) = .ok found →
      d.Leads links place (.name n :: rest) found.place ∧ found.entry = d.lookup found.place)
    {pieces : List Piece} (h : d.stepAlong purpose follow place pieces = .ok found) :
    d.Leads links place pieces found.place ∧ found.entry = d.lookup found.place := by
  induction pieces generalizing place with
  | nil =>
    cases h
    exact ⟨.arrived links place, rfl⟩
  | cons piece rest ih =>
    cases piece with
    | current =>
      obtain ⟨hdir, h⟩ := bind_needDirectory_eq_ok_iff.mp h
      exact ⟨.stay (.inl rfl) hdir (ih h).1, (ih h).2⟩
    | closing =>
      obtain ⟨hdir, h⟩ := bind_needDirectory_eq_ok_iff.mp h
      exact ⟨.stay (.inr rfl) hdir (ih h).1, (ih h).2⟩
    | parent =>
      obtain ⟨hdir, h⟩ := bind_needDirectory_eq_ok_iff.mp h
      exact ⟨.leave hdir (ih h).1, (ih h).2⟩
    | name n =>
      obtain ⟨hdir, -, hshort, h⟩ := stepAlong_name_eq_ok_iff.mp h
      split at h
      · rename_i target hlink
        exact hfollow place n target rest hdir hshort hlink h
      · rename_i hnoLink
        exact ⟨.enter hdir hshort hnoLink (ih h).1, (ih h).2⟩

/-- Whatever a path is followed for, it goes where its steps lead. -/
lemma leads_of_walk {pieces : List Piece} (h : d.walk purpose links place pieces = .ok found) :
    d.Leads links place pieces found.place ∧ found.entry = d.lookup found.place := by
  induction links generalizing place pieces with
  | zero =>
    refine leads_of_stepAlong (fun place n target rest _ _ _ h => ?_) h
    cases h
  | succ links ih =>
    refine leads_of_stepAlong (fun place n target rest hdir hshort hlink h => ?_) h
    exact ⟨.follow hdir hshort hlink (ih h).1, (ih h).2⟩

lemma Leads.walk_eq {pieces : List Piece} (h : d.Leads links place pieces goal) :
    d.walk .find links place pieces = .ok ⟨goal, d.lookup goal⟩ := by
  induction h with
  | arrived links place =>
    obtain ⟨follow, hfollow⟩ := d.exists_walk_eq .find links
    rw [hfollow, stepAlong]
  | @stay links place goal piece rest hidle hdir _ ih =>
    obtain ⟨follow, hfollow⟩ := d.exists_walk_eq .find links
    rw [hfollow] at ih ⊢
    rcases hidle with rfl | rfl
    · exact bind_needDirectory_eq_ok_iff.mpr ⟨hdir, ih⟩
    · exact bind_needDirectory_eq_ok_iff.mpr ⟨hdir, ih⟩
  | @leave links place goal rest hdir _ ih =>
    obtain ⟨follow, hfollow⟩ := d.exists_walk_eq .find links
    rw [hfollow] at ih ⊢
    exact bind_needDirectory_eq_ok_iff.mpr ⟨hdir, ih⟩
  | @enter links place goal n rest hdir hshort hnoLink _ ih =>
    obtain ⟨follow, hfollow⟩ := d.exists_walk_eq .find links
    rw [hfollow] at ih ⊢
    refine stepAlong_name_eq_ok_iff.mpr ⟨hdir, by simp, hshort, ?_⟩
    split
    · rename_i target hlink
      exact absurd hlink (hnoLink target)
    · exact ih
  | follow hdir hshort hlink _ ih =>
    refine stepAlong_name_eq_ok_iff.mpr ⟨hdir, by simp, hshort, ?_⟩
    rw [hlink]
    exact ih

/-- No step is taken from a place that is no directory. -/
lemma Leads.eq_of_not_directory {pieces : List Piece} (hdir : d.lookup place ≠ some .directory)
    (h : d.Leads links place pieces goal) : pieces = [] ∧ goal = place := by
  cases h with
  | arrived => exact ⟨rfl, rfl⟩
  | stay _ hin _ => exact absurd hin hdir
  | leave hin _ => exact absurd hin hdir
  | enter hin _ _ _ => exact absurd hin hdir
  | follow hin _ _ _ => exact absurd hin hdir

lemma leads_name_iff {n : Name} {rest : List Piece} :
    d.Leads links place (.name n :: rest) goal ↔
      d.lookup place = some .directory ∧ n.length ≤ nameLimit ∧
      ((∀ target, d.lookup (place ++ [n]) ≠ some (.link target)) ∧
          d.Leads links (place ++ [n]) rest goal ∨
        ∃ links' target, links = links' + 1 ∧ d.lookup (place ++ [n]) = some (.link target) ∧
          d.Leads links' (if target.isAbsolute then [] else place) (target.pieces ++ rest) goal) := by
  constructor
  · intro h
    cases h with
    | stay hidle _ _ => simp at hidle
    | enter hdir hshort hnoLink further => exact ⟨hdir, hshort, .inl ⟨hnoLink, further⟩⟩
    | follow hdir hshort hlink further =>
      exact ⟨hdir, hshort, .inr ⟨_, _, rfl, hlink, further⟩⟩
  · rintro ⟨hdir, hshort, ⟨hnoLink, further⟩ | ⟨_, _, rfl, hlink, further⟩⟩
    · exact .enter hdir hshort hnoLink further
    · exact .follow hdir hshort hlink further

/-- The names of a solid place lead to it. -/
lemma Solid.leads (hsolid : d.Solid place) (links : Nat) :
    d.Leads links [] (place.map .name) place := by
  have hwalk : d.walk .find links [] (place.map .name) = .ok ⟨place, d.lookup place⟩ :=
    (walk_names_eq_ok_iff hsolid).mpr rfl
  exact (leads_of_walk hwalk).1

/-- Behind the names of a solid place, steps go on from there. -/
lemma Solid.leads_of_names (front : Place) {names : Place} {rest : List Piece}
    (hsolid : d.Solid (front ++ names)) (h : d.Leads links front (names.map .name ++ rest) goal) :
    d.Leads links (front ++ names) rest goal := by
  induction names generalizing front with
  | nil => rwa [List.append_nil]
  | cons n names ih =>
    rw [List.append_cons] at hsolid ⊢
    refine ih _ hsolid ?_
    rw [List.map_cons, List.cons_append] at h
    obtain ⟨-, -, ⟨-, further⟩ | ⟨_, target, -, hlink, -⟩⟩ := leads_name_iff.mp h
    · exact further
    · rcases names with _ | ⟨m, names⟩
      · rw [List.append_nil] at hsolid
        exact absurd hlink (hsolid.settled target)
      · rw [hsolid.above (front ++ [n]) (List.prefix_append _ _) (by simp)] at hlink
        cases hlink

/-- The path leads to the place, and something stands there. -/
structure LeadsTo (d : Disk) (path : Path) (place : Place) : Prop where
  ne_nil  : path.bytes ≠ []
  noNul   : 0 ∉ path.bytes
  leads   : d.Leads linkLimit [] path.pieces place
  present : d.lookup place ≠ none

lemma canonicalize_eq_ok_iff {path : Path} :
    d.canonicalize path = .ok place ↔ d.LeadsTo path place := by
  unfold canonicalize
  simp only [bind_eq_ok_iff, pure_eq_ok_iff, checkNames_eq_ok_iff, need_eq_ok_iff]
  constructor
  · rintro ⟨_, ⟨hempty, hnul⟩, found, hwalk, ⟨place', entry⟩, ⟨hplace, hentry⟩, rfl⟩
    obtain ⟨hleads, hlookup⟩ := leads_of_walk hwalk
    subst hplace
    refine ⟨hempty, hnul, hleads, ?_⟩
    rw [← hlookup, hentry]
    exact Option.some_ne_none entry
  · rintro ⟨hempty, hnul, hleads, hpresent⟩
    obtain ⟨entry, hentry⟩ := Option.ne_none_iff_exists'.mp hpresent
    exact ⟨(), ⟨hempty, hnul⟩, _, hleads.walk_eq, (place, entry), ⟨rfl, hentry⟩, rfl⟩

lemma LeadsTo.solid {path : Path} (h : d.LeadsTo path place) : d.Solid place :=
  solid_of_canonicalize (canonicalize_eq_ok_iff.mpr h)

/-! ### Paths of tools -/

variable {path : String} {uri : Uri}

lemma locate_eq_ok_iff {root : Path} :
    d.locate root path = .ok uri ↔
      ∃ place, (Path.ofText path).isAbsolute = false ∧
        d.canonicalize (root.join (.ofText path)) = .ok place ∧
        (Path.ofNames place).isUnder root = true ∧
        (∃ content, d.lookup place = some (.file content)) ∧ uri = .ofNames place := by
  rw [locate, ite_throw_bind_eq_ok_iff, Bool.not_eq_true]
  constructor
  · rintro ⟨hrelative, h⟩
    split at h
    · cases h
    · rename_i place hplace
      obtain ⟨hinside, h⟩ := ite_throw_bind_eq_ok_iff.mp h
      split at h
      · rename_i content hfile
        exact ⟨place, hrelative, hplace, by simpa using hinside, ⟨content, hfile⟩,
          pure_eq_ok_iff.mp h⟩
      · cases h
  · rintro ⟨place, hrelative, hplace, hinside, ⟨content, hfile⟩, rfl⟩
    refine ⟨hrelative, ?_⟩
    simp only [hplace, hinside, hfile, Bool.not_true, Bool.false_eq_true, if_false]
    rfl

/-- Seen from the root of the workspace, the path leads to a file inside it. -/
structure LeadsInside (d : Disk) (root : Place) (path : String) (place : Place) : Prop where
  relative : (Path.ofText path).isAbsolute = false
  leadsTo  : d.LeadsTo ((Path.ofNames root).join (.ofText path)) place
  inside   : root <+: place
  isFile   : ∃ content, d.lookup place = some (.file content)

/-- Nothing but a path to a file inside the workspace is accepted. -/
lemma locate_ofNames_eq_ok_iff {root : Place}
    (hroot : d.canonicalize (.ofNames root) = .ok root) :
    d.locate (.ofNames root) path = .ok uri ↔
      ∃ place, d.LeadsInside root path place ∧ uri = .ofNames place := by
  have hunder {place : Place}
      (hplace : d.canonicalize ((Path.ofNames root).join (.ofText path)) = .ok place) :
      (Path.ofNames place).isUnder (.ofNames root) = true ↔ root <+: place :=
    Path.isUnder_ofNames_iff (solid_of_canonicalize hroot).proper
      (solid_of_canonicalize hplace).proper
  rw [locate_eq_ok_iff]
  constructor
  · rintro ⟨place, hrelative, hplace, hinside, hfile, huri⟩
    exact ⟨place, ⟨hrelative, canonicalize_eq_ok_iff.mp hplace, (hunder hplace).mp hinside, hfile⟩,
      huri⟩
  · rintro ⟨place, ⟨hrelative, hleadsTo, hinside, hfile⟩, huri⟩
    have hplace := canonicalize_eq_ok_iff.mpr hleadsTo
    exact ⟨place, hrelative, hplace, (hunder hplace).mpr hinside, hfile, huri⟩

end Disk

end Outline
