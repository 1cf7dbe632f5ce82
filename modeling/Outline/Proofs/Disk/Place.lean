import Mathlib.Data.List.Basic
import Outline.Disk.Operations
import Outline.Proofs.Outcome

/-!
# Places without links

A place is solid when only directories lead to it and nothing on the way is a link. A path that is
followed to its end leads to a solid place, and the literal path of a solid place leads to that
place itself. For a path that is the literal path of a name in a solid place, `Located`, each
operation has one description: when it succeeds, and which entry it sets or erases.
-/

namespace Outline

/-! ### Cutting at separators -/

section SplitOn

variable {α : Type} [DecidableEq α] {separator : α}

lemma splitOn_cons_self (separator : α) (as : List α) :
    splitOn separator (separator :: as) = [] :: splitOn separator as :=
  if_pos rfl

lemma splitOn_cons_of_ne {a : α} {as part : List α} {parts : List (List α)} (ha : a ≠ separator)
    (has : splitOn separator as = part :: parts) :
    splitOn separator (a :: as) = (a :: part) :: parts := by
  refine (if_neg ha).trans ?_
  rw [has]

lemma splitOn_ne_nil (as : List α) : splitOn separator as ≠ [] := by
  induction as with
  | nil => exact List.cons_ne_nil _ _
  | cons a as ih =>
    by_cases ha : a = separator
    · rw [ha, splitOn_cons_self]
      exact List.cons_ne_nil _ _
    · obtain ⟨part, parts, has⟩ := List.exists_cons_of_ne_nil ih
      rw [splitOn_cons_of_ne ha has]
      exact List.cons_ne_nil _ _

/-- What is put in front belongs to the first part. -/
lemma splitOn_append_left {as bs part : List α} {parts : List (List α)} (h : separator ∉ as)
    (hbs : splitOn separator bs = part :: parts) :
    splitOn separator (as ++ bs) = (as ++ part) :: parts := by
  induction as with
  | nil => exact hbs
  | cons a as ih =>
    rw [List.mem_cons, not_or] at h
    exact splitOn_cons_of_ne (Ne.symm h.1) (ih h.2)

lemma splitOn_of_not_mem {as : List α} (h : separator ∉ as) : splitOn separator as = [as] := by
  have hself : splitOn separator (as ++ []) = [as ++ []] := splitOn_append_left h rfl
  rwa [List.append_nil] at hself

lemma splitOn_append_cons {as : List α} (h : separator ∉ as) (rest : List α) :
    splitOn separator (as ++ separator :: rest) = as :: splitOn separator rest := by
  rw [splitOn_append_left h (splitOn_cons_self separator rest), List.append_nil]

/-- Parts with a separator before each are found again. -/
lemma splitOn_flatMap_cons {parts : List (List α)} (h : ∀ part ∈ parts, separator ∉ part)
    {as : List α} (has : separator ∉ as) :
    splitOn separator (as ++ parts.flatMap (separator :: ·)) = as :: parts := by
  induction parts generalizing as with
  | nil => rw [List.flatMap_nil, List.append_nil, splitOn_of_not_mem has]
  | cons part parts ih =>
    rw [List.flatMap_cons, List.cons_append, splitOn_append_cons has,
      ih (fun p hp => h p (List.mem_cons_of_mem part hp)) (h part List.mem_cons_self)]

lemma separator_not_mem_of_mem_splitOn {as part : List α} (h : part ∈ splitOn separator as) :
    separator ∉ part := by
  induction as generalizing part with
  | nil =>
    rw [List.mem_singleton.mp h]
    exact List.not_mem_nil
  | cons a as ih =>
    by_cases ha : a = separator
    · rw [ha, splitOn_cons_self] at h
      rcases List.mem_cons.mp h with rfl | h
      · exact List.not_mem_nil
      · exact ih h
    · obtain ⟨first, parts, has⟩ := List.exists_cons_of_ne_nil (splitOn_ne_nil as)
      rw [splitOn_cons_of_ne ha has] at h
      rw [has] at ih
      rcases List.mem_cons.mp h with rfl | h
      · rw [List.mem_cons, not_or]
        exact ⟨Ne.symm ha, ih List.mem_cons_self⟩
      · exact ih (List.mem_cons_of_mem first h)

lemma mem_of_mem_splitOn {as part : List α} (h : part ∈ splitOn separator as) : part ⊆ as := by
  induction as generalizing part with
  | nil =>
    rw [List.mem_singleton.mp h]
    exact List.Subset.refl []
  | cons a as ih =>
    by_cases ha : a = separator
    · rw [ha, splitOn_cons_self] at h
      rcases List.mem_cons.mp h with rfl | h
      · exact List.nil_subset _
      · exact List.subset_cons_of_subset a (ih h)
    · obtain ⟨first, parts, has⟩ := List.exists_cons_of_ne_nil (splitOn_ne_nil as)
      rw [splitOn_cons_of_ne ha has] at h
      rw [has] at ih
      rcases List.mem_cons.mp h with rfl | h
      · exact List.cons_subset_cons a (ih List.mem_cons_self)
      · exact List.subset_cons_of_subset a (ih (List.mem_cons_of_mem first h))

end SplitOn

/-! ### Names and literal paths -/

/-- A name that stands for itself in a path. -/
structure Proper (n : Name) : Prop where
  ne_nil    : n ≠ []
  slashless : Path.slash ∉ n
  ne_dot    : n ≠ [Path.dot]
  ne_dots   : n ≠ [Path.dot, Path.dot]

lemma Proper.pieceOf_eq {n : Name} (h : Proper n) : Path.pieceOf n = .name n := by
  rw [Path.pieceOf, if_neg h.ne_dots, if_neg h.ne_dot]

namespace Path

/-- The names of a path that are not empty. -/
def place (p : Path) : Place := p.parts.filter (· ≠ [])

lemma pieces_eq (p : Path) :
    p.pieces = p.place.map pieceOf ++ if p.endsInSlash then [.closing] else [] := rfl

/-- The names that a path goes along stand for themselves. -/
lemma proper_of_mem_pieces {p : Path} {n : Name} (h : .name n ∈ p.pieces) : Proper n := by
  have hmem : .name n ∈ p.place.map pieceOf := by
    rw [pieces_eq] at h
    split at h <;> simpa using h
  obtain ⟨part, hpart, hpiece⟩ := List.mem_map.mp hmem
  obtain ⟨hpart, hne⟩ := List.mem_filter.mp hpart
  unfold pieceOf at hpiece
  split at hpiece
  · cases hpiece
  · split at hpiece
    · cases hpiece
    · cases hpiece
      exact ⟨of_decide_eq_true hne, separator_not_mem_of_mem_splitOn hpart, by assumption,
        by assumption⟩

variable {names : List Name}

lemma parts_ofNames (h : ∀ n ∈ names, slash ∉ n) (hne : names ≠ []) :
    (ofNames names).parts = [] :: names := by
  have hcut := splitOn_flatMap_cons h (List.not_mem_nil (a := slash))
  rw [parts, ofNames, if_neg (by simpa using hne)]
  exact hcut

lemma place_ofNames (h : ∀ n ∈ names, Proper n) : (ofNames names).place = names := by
  by_cases hne : names = []
  · subst hne
    rfl
  · rw [place, parts_ofNames (fun n hn => (h n hn).slashless) hne, List.filter_cons]
    simp only [ne_eq, not_true_eq_false, decide_false, Bool.false_eq_true, if_false]
    exact List.filter_eq_self.mpr fun m hm => decide_eq_true (h m hm).ne_nil

lemma bytes_ofNames_ne_nil (names : List Name) : (ofNames names).bytes ≠ [] := by
  cases names with
  | nil => simp [ofNames]
  | cons n names => simp [ofNames]

lemma noNul_ofNames_iff : 0 ∉ (ofNames names).bytes ↔ ∀ n ∈ names, 0 ∉ n := by
  cases names with
  | nil => simp [ofNames, slash]
  | cons n names => simp [ofNames, slash]

lemma bytes_ofNames_concat (front : List Name) (n : Name) :
    (ofNames (front ++ [n])).bytes = front.flatMap (slash :: ·) ++ slash :: n := by
  simp [ofNames]

lemma endsInSlash_ofNames_concat (front : List Name) {n : Name} (hne : n ≠ []) (h : slash ∉ n) :
    (ofNames (front ++ [n])).endsInSlash = false := by
  rw [endsInSlash, bytes_ofNames_concat]
  obtain ⟨init, last, rfl⟩ := List.eq_nil_or_concat n |>.resolve_left hne
  have hlast : last ≠ slash := by
    rintro rfl
    exact h (by simp)
  rw [List.concat_eq_append, ← List.cons_append, ← List.append_assoc, List.getLast?_concat]
  simpa using hlast

lemma pieces_ofNames_concat {front : List Name} {n : Name} (h : ∀ m ∈ front ++ [n], Proper m) :
    (ofNames (front ++ [n])).pieces = (front ++ [n]).map .name := by
  have hn := h n (by simp)
  rw [pieces_eq, place_ofNames h, endsInSlash_ofNames_concat front hn.ne_nil hn.slashless]
  simp only [Bool.false_eq_true, if_false, List.append_nil]
  exact List.map_congr_left fun m hm => (h m hm).pieceOf_eq

end Path

/-! ### Solid places -/

namespace Disk

variable {d d' : Disk}

lemma needDirectory_eq_ok_iff {place : Place} {u : Unit} :
    d.needDirectory place = .ok u ↔ d.lookup place = some .directory := by
  unfold needDirectory
  split <;> simp_all

/-- Only directories lead to the place, and it is not a link. -/
structure Solid (d : Disk) (place : Place) : Prop where
  proper  : ∀ n ∈ place, Proper n
  short   : ∀ n ∈ place, n.length ≤ nameLimit
  above   : ∀ front, front <+: place → front ≠ place → d.lookup front = some .directory
  settled : ∀ target, d.lookup place ≠ some (.link target)

lemma solid_nil (d : Disk) : d.Solid [] where
  proper  := by simp
  short   := by simp
  above   := by simp
  settled := by simp [lookup]

namespace Solid

lemma proper_concat {place : Place} {n : Name} (h : d.Solid place) (hn : Proper n) :
    ∀ m ∈ place ++ [n], Proper m :=
  List.forall_mem_append.mpr ⟨h.proper, List.forall_mem_singleton.mpr hn⟩

lemma concat {place : Place} {n : Name} (h : d.Solid place)
    (hdir : d.lookup place = some .directory) (hn : Proper n) (hlen : n.length ≤ nameLimit)
    (hsettled : ∀ target, d.lookup (place ++ [n]) ≠ some (.link target)) :
    d.Solid (place ++ [n]) where
  proper := h.proper_concat hn
  short := List.forall_mem_append.mpr ⟨h.short, List.forall_mem_singleton.mpr hlen⟩
  above := by
    intro front hfront hne
    rcases List.prefix_concat_iff.mp hfront with rfl | hfront
    · exact absurd rfl hne
    · by_cases heq : front = place
      · rwa [heq]
      · exact h.above front hfront heq
  settled := hsettled

lemma dropLast {place : Place} (h : d.Solid place) : d.Solid place.dropLast := by
  by_cases hnil : place = []
  · subst hnil
    exact h
  · have hne : place.dropLast ≠ place := by
      intro heq
      have := congrArg List.length heq
      have := List.length_pos_of_ne_nil hnil
      rw [List.length_dropLast] at *
      omega
    have hdir := h.above _ (List.dropLast_prefix place) hne
    refine ⟨fun n hn => h.proper n ((List.dropLast_prefix place).subset hn),
      fun n hn => h.short n ((List.dropLast_prefix place).subset hn),
      fun front hfront hfne => ?_, ?_⟩
    · refine h.above front (hfront.trans (List.dropLast_prefix place)) fun heq => ?_
      subst heq
      exact hfne (hfront.eq_of_length_le (List.dropLast_prefix front).length_le)
    · simp [hdir]

end Solid

/-! ### Following a path to its end -/

lemma bind_needDirectory_eq_ok_iff {α : Type} {place : Place} {f : Unit → Except IoError α}
    {a : α} :
    d.needDirectory place >>= f = .ok a ↔ d.lookup place = some .directory ∧ f () = .ok a := by
  rw [bind_eq_ok_iff]
  constructor
  · rintro ⟨_, hdir, hf⟩
    exact ⟨needDirectory_eq_ok_iff.mp hdir, hf⟩
  · rintro ⟨hdir, hf⟩
    exact ⟨(), needDirectory_eq_ok_iff.mpr hdir, hf⟩

lemma stepAlong_name_eq_ok_iff {purpose : Purpose}
    {follow : Place → List Piece → Except IoError Found} {place : Place} {n : Name}
    {rest : List Piece} {found : Found} :
    d.stepAlong purpose follow place (.name n :: rest) = .ok found ↔
      d.lookup place = some .directory ∧ ¬ (purpose = .write ∧ rest = [.closing]) ∧
      n.length ≤ nameLimit ∧
      (match d.lookup (place ++ [n]) with
        | some (.link target) =>
          follow (if target.isAbsolute then [] else place) (target.pieces ++ rest)
        | _ => d.stepAlong purpose follow (place ++ [n]) rest) = .ok found := by
  rw [stepAlong, bind_needDirectory_eq_ok_iff, ite_throw_bind_eq_ok_iff, ite_throw_bind_eq_ok_iff]
  exact and_congr_right fun _ => and_congr (not_congr (by simp)) (and_congr Nat.not_lt Iff.rfl)

/-- Steps from a solid place lead to one, when links do. -/
lemma solid_of_stepAlong {purpose : Purpose}
    {follow : Place → List Piece → Except IoError Found}
    (hfollow : ∀ place pieces found, d.Solid place → (∀ n, .name n ∈ pieces → Proper n) →
      follow place pieces = .ok found → d.Solid found.place)
    {place : Place} {pieces : List Piece} {found : Found} (hplace : d.Solid place)
    (hproper : ∀ n, .name n ∈ pieces → Proper n)
    (h : d.stepAlong purpose follow place pieces = .ok found) : d.Solid found.place := by
  induction pieces generalizing place with
  | nil =>
    cases h
    exact hplace
  | cons piece rest ih =>
    have hrest : ∀ n, .name n ∈ rest → Proper n := fun n hn => hproper n (List.mem_cons_of_mem _ hn)
    cases piece with
    | current => exact ih hplace hrest (bind_needDirectory_eq_ok_iff.mp h).2
    | closing => exact ih hplace hrest (bind_needDirectory_eq_ok_iff.mp h).2
    | parent => exact ih hplace.dropLast hrest (bind_needDirectory_eq_ok_iff.mp h).2
    | name n =>
      rw [stepAlong_name_eq_ok_iff] at h
      obtain ⟨hdir, -, hlen, h⟩ := h
      have hn := hproper n List.mem_cons_self
      split at h
      · rename_i target hlink
        refine hfollow _ _ found ?_ ?_ h
        · split
          · exact solid_nil d
          · exact hplace
        · intro m hm
          rcases List.mem_append.mp hm with hm | hm
          · exact Path.proper_of_mem_pieces hm
          · exact hrest m hm
      · rename_i hsettled
        exact ih (hplace.concat hdir hn hlen hsettled) hrest h

lemma solid_of_walk {purpose : Purpose} {links : Nat} {place : Place} {pieces : List Piece}
    {found : Found} (hplace : d.Solid place) (hproper : ∀ n, .name n ∈ pieces → Proper n)
    (h : d.walk purpose links place pieces = .ok found) : d.Solid found.place := by
  induction links generalizing place pieces found with
  | zero =>
    refine solid_of_stepAlong ?_ hplace hproper h
    intro _ _ _ _ _ h
    cases h
  | succ links ih => exact solid_of_stepAlong (fun _ _ _ hp hn h => ih hp hn h) hplace hproper h

/-- A path that can be followed to its end leads to a solid place, where something stands. -/
lemma solid_of_canonicalize {path : Path} {place : Place} (h : d.canonicalize path = .ok place) :
    d.Solid place := by
  unfold canonicalize at h
  obtain ⟨_, -, h⟩ := bind_eq_ok_iff.mp h
  obtain ⟨found, hwalk, h⟩ := bind_eq_ok_iff.mp h
  obtain ⟨⟨place', entry⟩, hneed, h⟩ := bind_eq_ok_iff.mp h
  have hsolid := solid_of_walk (solid_nil d) (fun n hn => Path.proper_of_mem_pieces hn) hwalk
  cases h
  unfold Found.need at hneed
  split at hneed
  · cases hneed
    exact hsolid
  · cases hneed

end Disk

end Outline
