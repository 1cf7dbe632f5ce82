import Mathlib.Data.List.Induction
import Outline.Proofs.Keyed
import Outline.Usage

/-!
# Groups of usages

Usages are grouped under two keys, the path of their document and the kind of the symbol they belong
to. Every usage is in the group of its keys and in no other, in each group they keep their order, and
there are no empty groups.
-/

namespace Outline

/-- All usages of some groups, group by group. -/
def UsageGroups.usages (groups : UsageGroups) : List Usage :=
  groups.flatMap fun g => g.2.flatMap Prod.snd

namespace Usage

/-- Groups of the usages of one document: in the order of the kinds, and none is empty. -/
structure KindsInOrder (kinds : Keyed String (List Usage)) : Prop where
  ascending : kinds.Pairwise fun x y => compare x.1 y.1 = .lt
  ne_nil    : kinds ≠ []
  filled    : ∀ k ∈ kinds, k.2 ≠ []

lemma group_concat (usages : List Usage) (u : Usage) :
    group (usages ++ [u]) = Keyed.upsert u.relativePath
      (fun kinds => Keyed.append u.label [u] (kinds.getD [])) (group usages) := by
  rw [group, List.foldl_append, List.foldl_cons, List.foldl_nil, group]

lemma ascending_group (usages : List Usage) :
    (group usages).Pairwise fun x y => compare x.1 y.1 = .lt := by
  induction usages using List.reverseRecOn with
  | nil => exact .nil
  | append_singleton usages u ih =>
    rw [group_concat]
    exact Keyed.ascending_upsert u.relativePath _ ih

/-- Adding a usage to the groups of a document leaves them in order. -/
lemma kindsInOrder_append (kind : String) (u : Usage) {kinds : Keyed String (List Usage)}
    (hascending : kinds.Pairwise fun x y => compare x.1 y.1 = .lt)
    (hfilled : ∀ k ∈ kinds, k.2 ≠ []) : KindsInOrder (Keyed.append kind [u] kinds) where
  ascending := Keyed.ascending_upsert kind _ hascending
  ne_nil := by
    obtain ⟨k, hk, -⟩ := Keyed.exists_mem_upsert kind (fun old => old.getD [] ++ [u]) kinds
    exact List.ne_nil_of_mem hk
  filled := Keyed.forall_mem_upsert (P := (· ≠ [])) (by simp) (by simp) hfilled kind

lemma kindsInOrder_of_mem_group (usages : List Usage) :
    ∀ g ∈ group usages, KindsInOrder g.2 := by
  induction usages using List.reverseRecOn with
  | nil => simp [group]
  | append_singleton usages u ih =>
    rw [group_concat]
    refine Keyed.forall_mem_upsert ?_ (fun kinds h => ?_) ih u.relativePath
    · exact kindsInOrder_append u.label u .nil (by simp)
    · exact kindsInOrder_append u.label u h.ascending h.filled

/-- Under its two keys every usage is found, and no other, in the order in which they were given. -/
lemma under_group (usages : List Usage) (path kind : String) :
    Keyed.under kind (Keyed.under path (group usages)) =
      usages.filter fun u => u.relativePath = path ∧ u.label = kind := by
  induction usages using List.reverseRecOn with
  | nil => rfl
  | append_singleton usages u ih =>
    have hkinds : (Keyed.under path (group usages)).Pairwise fun x y => compare x.1 y.1 = .lt := by
      rcases Keyed.under_eq_nil_or (ascending_group usages) path with hnil | ⟨g, hg, heq⟩
      · rw [hnil]
        exact .nil
      · rw [heq]
        exact (kindsInOrder_of_mem_group usages g hg).ascending
    have hsame (a b : String) : compare a b = .eq ↔ a = b := Std.LawfulEqOrd.compare_eq_iff_eq
    rw [group_concat, Keyed.under_upsert path u.relativePath (Keyed.append u.label [u])
      (ascending_group usages), List.filter_append, ← ih]
    by_cases hpath : path = u.relativePath
    · rw [if_pos ((hsame _ _).mpr hpath), Keyed.under_append kind u.label [u] hkinds]
      by_cases hkind : kind = u.label
      · simp [hpath, hkind]
      · simp [hkind, hsame, Ne.symm hkind]
    · simp [hsame, hpath, Ne.symm hpath]

/-- Grouping loses no usage and takes none twice. -/
lemma usages_group_perm (usages : List Usage) : (group usages).usages.Perm usages := by
  induction usages using List.reverseRecOn with
  | nil => exact .refl _
  | append_singleton usages u ih =>
    rw [group_concat]
    have hadded (kinds : Keyed String (List Usage)) :
        ((Keyed.append u.label [u] kinds).flatMap Prod.snd).Perm (kinds.flatMap Prod.snd ++ [u]) :=
      Keyed.flatMap_upsert_perm (F := id) (.refl _) (fun _ => .refl _) u.label kinds
    exact (Keyed.flatMap_upsert_perm (hadded []) hadded u.relativePath _).trans (ih.append_right [u])

end Usage

end Outline
