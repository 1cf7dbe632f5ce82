import Mathlib.Data.List.Induction
import Mathlib.Order.Defs.LinearOrder
import Outline.Keyed
import Outline.Uri.Basic

/-!
# What stands under a key

Putting a value under a key changes what stands under that key and nothing else, whatever the order
of the pairs. Keys in increasing order stay so. Lists that are gathered under their keys lose nothing
and keep their order under every key.
-/

namespace Outline

namespace Keyed

variable {κ α : Type} [Ord κ] [Std.TransOrd κ] {k k' : κ}

/-! ### The first pair -/

section First

omit [Std.TransOrd κ]

lemma get?_cons (k : κ) (first : κ × α) (m : Keyed κ α) :
    get? k (first :: m) = if compare k first.1 = .eq then some first.2 else get? k m :=
  rfl

lemma upsert_cons (k : κ) (f : Option α → α) (first : κ × α) (m : Keyed κ α) :
    upsert k f (first :: m) =
      match compare k first.1 with
      | .lt => (k, f none) :: first :: m
      | .eq => (first.1, f (some first.2)) :: m
      | .gt => first :: upsert k f m :=
  rfl

lemma erase_cons (k : κ) (first : κ × α) (m : Keyed κ α) :
    erase k (first :: m) = if compare k first.1 = .eq then m else first :: erase k m :=
  rfl

end First

/-! ### Keys that are put in -/

@[simp] lemma get?_insert_self (k : κ) (v : α) (m : Keyed κ α) :
    get? k (insert k v m) = some v := by
  induction m with
  | nil => exact if_pos Std.ReflCmp.compare_self
  | cons p m ih =>
    unfold insert at ih
    cases h : compare k p.1 <;> simp [insert, upsert_cons, get?_cons, h, ih]

lemma get?_insert_of_ne (h : compare k k' ≠ .eq) (v : α) (m : Keyed κ α) :
    get? k (insert k' v m) = get? k m := by
  induction m with
  | nil => exact if_neg h
  | cons p m ih =>
    unfold insert at ih
    cases h' : compare k' p.1 with
    | lt => simp [insert, upsert_cons, get?_cons, h', h]
    | eq =>
      have hp : compare k p.1 ≠ .eq := by rwa [← Std.TransCmp.congr_right h']
      simp [insert, upsert_cons, get?_cons, h', hp]
    | gt => simp [insert, upsert_cons, get?_cons, h', ih]

lemma get?_congr (h : compare k k' = .eq) (m : Keyed κ α) : get? k m = get? k' m := by
  induction m with
  | nil => rfl
  | cons p m ih => simp only [get?_cons, Std.TransCmp.congr_left h, ih]

omit [Std.TransOrd κ] in
lemma key_of_mem_upsert {f : Option α → α} {m : Keyed κ α} {p : κ × α} (h : p ∈ upsert k f m) :
    p.1 = k ∨ ∃ q ∈ m, q.1 = p.1 := by
  induction m with
  | nil =>
    exact .inl (congrArg Prod.fst (List.mem_singleton.mp h))
  | cons first m ih =>
    rw [upsert_cons] at h
    split at h
    · rcases List.mem_cons.mp h with rfl | h
      · exact .inl rfl
      · exact .inr ⟨p, h, rfl⟩
    · rcases List.mem_cons.mp h with rfl | h
      · exact .inr ⟨first, List.mem_cons_self, rfl⟩
      · exact .inr ⟨p, List.mem_cons_of_mem first h, rfl⟩
    · rcases List.mem_cons.mp h with rfl | h
      · exact .inr ⟨p, List.mem_cons_self, rfl⟩
      · exact (ih h).imp_right fun ⟨q, hq, heq⟩ => ⟨q, List.mem_cons_of_mem first hq, heq⟩

/-- The keys stay in order. -/
lemma ascending_upsert (k : κ) (f : Option α → α) {m : Keyed κ α}
    (h : m.Pairwise fun x y => compare x.1 y.1 = .lt) :
    (upsert k f m).Pairwise fun x y => compare x.1 y.1 = .lt := by
  induction m with
  | nil => exact List.pairwise_singleton _ _
  | cons first m ih =>
    obtain ⟨hfirst, hrest⟩ := List.pairwise_cons.mp h
    rw [upsert_cons]
    split
    · rename_i hlt
      refine List.pairwise_cons.mpr ⟨fun p hp => ?_, h⟩
      rcases List.mem_cons.mp hp with rfl | hp
      · exact hlt
      · exact Std.TransCmp.lt_trans hlt (hfirst p hp)
    · exact List.pairwise_cons.mpr ⟨hfirst, hrest⟩
    · rename_i hgt
      refine List.pairwise_cons.mpr ⟨fun p hp => ?_, ih hrest⟩
      rcases key_of_mem_upsert hp with heq | ⟨q, hq, heq⟩
      · rw [heq]
        exact Std.OrientedCmp.lt_of_gt hgt
      · rw [← heq]
        exact hfirst q hq

/-! ### Lists gathered under their keys -/

/-- All that is listed under a key, in its order. -/
def under (k : κ) (pairs : List (κ × List α)) : List α :=
  (pairs.filter fun p => compare k p.1 = .eq).flatMap Prod.snd

omit [Std.TransOrd κ] in
lemma under_cons (k : κ) (p : κ × List α) (pairs : List (κ × List α)) :
    under k (p :: pairs) = (if compare k p.1 = .eq then p.2 else []) ++ under k pairs := by
  by_cases h : compare k p.1 = .eq
  · simp [under, h]
  · simp [under, h]

omit [Std.TransOrd κ] in
lemma under_singleton (k : κ) (p : κ × List α) :
    under k [p] = if compare k p.1 = .eq then p.2 else [] := by
  rw [under_cons, show under k ([] : List (κ × List α)) = [] from rfl, List.append_nil]

lemma under_congr (h : compare k k' = .eq) (pairs : List (κ × List α)) :
    under k pairs = under k' pairs := by
  simp only [under, Std.TransCmp.congr_left h]

omit [Std.TransOrd κ] in
lemma under_eq_nil {pairs : List (κ × List α)} (h : ∀ p ∈ pairs, compare k p.1 ≠ .eq) :
    under k pairs = [] := by
  rw [under, List.filter_eq_nil_iff.mpr (by simpa using h), List.flatMap_nil]

omit [Std.TransOrd κ] in
lemma under_eq_nil_of_lt {m : Keyed κ (List α)} (h : ∀ p ∈ m, compare k p.1 = .lt) :
    under k m = [] := by
  refine under_eq_nil fun p hp => ?_
  rw [h p hp]
  decide

/-- Behind a pair in increasing order its key does not come again. -/
lemma under_eq_nil_of_eq {m : Keyed κ (List α)} (hk : compare k k' = .eq)
    (h : ∀ p ∈ m, compare k' p.1 = .lt) : under k m = [] := by
  refine under_eq_nil_of_lt fun p hp => ?_
  rw [Std.TransCmp.congr_left hk]
  exact h p hp

/-- In increasing order every key has one list. -/
lemma under_of_mem {m : Keyed κ (List α)} (h : m.Pairwise fun x y => compare x.1 y.1 = .lt)
    {p : κ × List α} (hp : p ∈ m) : under p.1 m = p.2 := by
  induction m with
  | nil => cases hp
  | cons first m ih =>
    obtain ⟨hfirst, hrest⟩ := List.pairwise_cons.mp h
    rw [under_cons]
    rcases List.mem_cons.mp hp with rfl | hp
    · rw [if_pos Std.ReflCmp.compare_self, under_eq_nil_of_lt hfirst, List.append_nil]
    · have hgt : compare p.1 first.1 = .gt := Std.OrientedCmp.gt_of_lt (hfirst p hp)
      rw [if_neg (by rw [hgt]; decide), ih hrest hp, List.nil_append]

/-- Under a key stands nothing, or one list of a pair. -/
lemma under_eq_nil_or {m : Keyed κ (List α)} (h : m.Pairwise fun x y => compare x.1 y.1 = .lt)
    (k : κ) : under k m = [] ∨ ∃ p ∈ m, under k m = p.2 := by
  induction m with
  | nil => exact .inl rfl
  | cons p m ih =>
    obtain ⟨hp, hm⟩ := List.pairwise_cons.mp h
    rw [under_cons]
    by_cases hk : compare k p.1 = .eq
    · refine .inr ⟨p, List.mem_cons_self, ?_⟩
      rw [if_pos hk, under_eq_nil_of_eq hk hp, List.append_nil]
    · rw [if_neg hk, List.nil_append]
      exact (ih hm).imp_right fun ⟨q, hq, heq⟩ => ⟨q, List.mem_cons_of_mem p hq, heq⟩

/-- Changing the list under a key changes nothing under the others. -/
lemma under_upsert (k k' : κ) (g : List α → List α) {m : Keyed κ (List α)}
    (h : m.Pairwise fun x y => compare x.1 y.1 = .lt) :
    under k (upsert k' (fun old => g (old.getD [])) m) =
      if compare k k' = .eq then g (under k m) else under k m := by
  induction m with
  | nil =>
    exact under_singleton k (k', g [])
  | cons p m ih =>
    obtain ⟨hp, hm⟩ := List.pairwise_cons.mp h
    rw [upsert_cons]
    split
    · rename_i hlt
      rw [under_cons, Option.getD_none]
      by_cases hk : compare k k' = .eq
      · have hbehind : ∀ q ∈ p :: m, compare k' q.1 = .lt :=
          List.forall_mem_cons.mpr ⟨hlt, fun q hq => Std.TransCmp.lt_trans hlt (hp q hq)⟩
        rw [if_pos hk, if_pos hk, under_eq_nil_of_eq hk hbehind, List.append_nil]
      · rw [if_neg hk, if_neg hk, List.nil_append]
    · rename_i heq
      rw [under_cons, under_cons, Option.getD_some, Std.TransCmp.congr_right heq]
      by_cases hk : compare k p.1 = .eq
      · rw [if_pos hk, if_pos hk, if_pos hk, under_eq_nil_of_eq hk hp, List.append_nil,
          List.append_nil]
      · rw [if_neg hk, if_neg hk, if_neg hk]
    · rename_i hgt
      rw [under_cons, under_cons, ih hm]
      by_cases hk : compare k k' = .eq
      · have hne : compare k p.1 ≠ .eq := by
          rw [Std.TransCmp.congr_left hk, hgt]
          decide
        rw [if_pos hk, if_pos hk, if_neg hne, List.nil_append, List.nil_append]
      · rw [if_neg hk, if_neg hk]

lemma under_append (k k' : κ) (vs : List α) {m : Keyed κ (List α)}
    (h : m.Pairwise fun x y => compare x.1 y.1 = .lt) :
    under k (append k' vs m) = under k m ++ if compare k k' = .eq then vs else [] := by
  rw [append, under_upsert k k' (· ++ vs) h]
  split
  · rfl
  · rw [List.append_nil]

omit [Std.TransOrd κ] in
/-- What holds of all values holds when one is put in or changed that has it too. -/
lemma forall_mem_upsert {P : α → Prop} {f : Option α → α} (hnone : P (f none))
    (hsome : ∀ v, P v → P (f (some v))) {m : Keyed κ α} (h : ∀ p ∈ m, P p.2) (k : κ) :
    ∀ p ∈ upsert k f m, P p.2 := by
  induction m with
  | nil => exact List.forall_mem_singleton.mpr hnone
  | cons first m ih =>
    obtain ⟨hfirst, hm⟩ := List.forall_mem_cons.mp h
    rw [upsert_cons]
    split
    · exact List.forall_mem_cons.mpr ⟨hnone, h⟩
    · exact List.forall_mem_cons.mpr ⟨hsome first.2 hfirst, hm⟩
    · exact List.forall_mem_cons.mpr ⟨hfirst, ih hm⟩

omit [Std.TransOrd κ] in
/-- What is added to one value is added to all of them together. -/
lemma flatMap_upsert_perm {β : Type} {F : α → List β} {f : Option α → α} {vs : List β}
    (hnone : (F (f none)).Perm vs) (hsome : ∀ v, (F (f (some v))).Perm (F v ++ vs)) (k : κ)
    (m : Keyed κ α) :
    ((upsert k f m).flatMap fun p => F p.2).Perm ((m.flatMap fun p => F p.2) ++ vs) := by
  induction m with
  | nil =>
    have hself : upsert k f [] = [(k, f none)] := rfl
    rwa [hself, List.flatMap_singleton, List.flatMap_nil, List.nil_append]
  | cons first m ih =>
    rw [upsert_cons]
    split
    · rw [List.flatMap_cons]
      exact (hnone.append_right _).trans List.perm_append_comm
    · rw [List.flatMap_cons, List.flatMap_cons]
      refine ((hsome first.2).append_right _).trans ?_
      rw [List.append_assoc, List.append_assoc]
      exact List.perm_append_comm.append_left _
    · rw [List.flatMap_cons, List.flatMap_cons, List.append_assoc]
      exact ih.append_left _

variable {pairs : List (κ × List α)} {p q : κ × List α}

omit [Std.TransOrd κ] in
lemma gather_concat (pairs : List (κ × List α)) (p : κ × List α) :
    gather (pairs ++ [p]) = append p.1 p.2 (gather pairs) := by
  rw [gather, List.foldl_append, List.foldl_cons, List.foldl_nil, gather]

lemma ascending_gather (pairs : List (κ × List α)) :
    (gather pairs).Pairwise fun x y => compare x.1 y.1 = .lt := by
  induction pairs using List.reverseRecOn with
  | nil => exact .nil
  | append_singleton pairs p ih =>
    rw [gather_concat]
    exact ascending_upsert p.1 _ ih

omit [Std.TransOrd κ] in
/-- Gathering loses nothing and takes nothing twice. -/
lemma flatMap_gather_perm (pairs : List (κ × List α)) :
    ((gather pairs).flatMap Prod.snd).Perm (pairs.flatMap Prod.snd) := by
  induction pairs using List.reverseRecOn with
  | nil => exact .refl _
  | append_singleton pairs p ih =>
    rw [gather_concat, List.flatMap_append, List.flatMap_singleton]
    exact (flatMap_upsert_perm (F := id) (.refl _) (fun _ => .refl _) p.1 _).trans
      (ih.append_right p.2)

omit [Std.TransOrd κ] in
/-- What comes behind all keys is put at the end. -/
lemma upsert_of_forall_gt {f : Option α → α} {m : Keyed κ α}
    (h : ∀ p ∈ m, compare k p.1 = .gt) : upsert k f m = m ++ [(k, f none)] := by
  induction m with
  | nil => rfl
  | cons first m ih =>
    obtain ⟨hfirst, hm⟩ := List.forall_mem_cons.mp h
    rw [upsert_cons, hfirst]
    exact congrArg (first :: ·) (ih hm)

omit [Std.TransOrd κ] in
lemma ofList_concat (pairs : List (κ × α)) (p : κ × α) :
    ofList (pairs ++ [p]) = insert p.1 p.2 (ofList pairs) := by
  rw [ofList, List.foldl_append, List.foldl_cons, List.foldl_nil, ofList]

omit [Std.TransOrd κ] in
lemma forall_mem_ofList {P : α → Prop} {pairs : List (κ × α)} (h : ∀ p ∈ pairs, P p.2) :
    ∀ p ∈ ofList pairs, P p.2 := by
  induction pairs using List.reverseRecOn with
  | nil => exact h
  | append_singleton pairs p ih =>
    obtain ⟨hpairs, hp⟩ := List.forall_mem_append.mp h
    rw [ofList_concat]
    have hp : P p.2 := hp p (List.mem_singleton.mpr rfl)
    exact forall_mem_upsert hp (fun _ _ => hp) (ih hpairs) p.1

lemma ofList_of_ascending {m : Keyed κ α} (h : m.Pairwise fun x y => compare x.1 y.1 = .lt) :
    ofList m = m := by
  induction m using List.reverseRecOn with
  | nil => rfl
  | append_singleton m p ih =>
    obtain ⟨hm, -, hbehind⟩ := List.pairwise_append.mp h
    have hgt : ∀ q ∈ m, compare p.1 q.1 = .gt := fun q hq =>
      Std.OrientedCmp.gt_of_lt (hbehind q hq p (List.mem_singleton.mpr rfl))
    rw [ofList_concat, ih hm, insert, upsert_of_forall_gt hgt]

lemma ascending_ofList (pairs : List (κ × α)) :
    (ofList pairs).Pairwise fun x y => compare x.1 y.1 = .lt := by
  induction pairs using List.reverseRecOn with
  | nil => exact .nil
  | append_singleton pairs p ih =>
    rw [ofList, List.foldl_append]
    exact ascending_upsert p.1 _ ih

/-- What is in increasing order is gathered already. -/
lemma gather_of_ascending {m : Keyed κ (List α)}
    (h : m.Pairwise fun x y => compare x.1 y.1 = .lt) : gather m = m := by
  induction m using List.reverseRecOn with
  | nil => rfl
  | append_singleton m p ih =>
    obtain ⟨hm, -, hbehind⟩ := List.pairwise_append.mp h
    have hgt : ∀ q ∈ m, compare p.1 q.1 = .gt := fun q hq =>
      Std.OrientedCmp.gt_of_lt (hbehind q hq p (List.mem_singleton.mpr rfl))
    rw [gather_concat, ih hm, append, upsert_of_forall_gt hgt]
    rfl

/-- Under every key stands all that was given for it, in the same order. -/
lemma under_gather (k : κ) (pairs : List (κ × List α)) : under k (gather pairs) = under k pairs := by
  induction pairs using List.reverseRecOn with
  | nil => rfl
  | append_singleton pairs p ih =>
    rw [gather_concat, under_append k p.1 p.2 (ascending_gather pairs), ih, ← under_singleton,
      under, under, under, List.filter_append, List.flatMap_append]

omit [Std.TransOrd κ] in
/-- There are no keys but those that were given. -/
lemma exists_of_mem_gather (hq : q ∈ gather pairs) : ∃ p ∈ pairs, p.1 = q.1 := by
  induction pairs using List.reverseRecOn generalizing q with
  | nil => cases hq
  | append_singleton pairs p ih =>
    rw [gather_concat] at hq
    rcases key_of_mem_upsert hq with heq | ⟨q', hq', heq⟩
    · exact ⟨p, by simp, heq.symm⟩
    · obtain ⟨p', hp', heq'⟩ := ih hq'
      exact ⟨p', List.mem_append_left [p] hp', heq'.trans heq⟩

lemma exists_mem_upsert (k : κ) (f : Option α → α) (m : Keyed κ α) :
    ∃ q ∈ upsert k f m, compare k q.1 = .eq := by
  induction m with
  | nil => exact ⟨_, List.mem_singleton.mpr rfl, Std.ReflCmp.compare_self⟩
  | cons first m ih =>
    rw [upsert_cons]
    split
    · exact ⟨_, List.mem_cons_self, Std.ReflCmp.compare_self⟩
    · rename_i heq
      exact ⟨_, List.mem_cons_self, heq⟩
    · obtain ⟨q, hq, heq⟩ := ih
      exact ⟨q, List.mem_cons_of_mem first hq, heq⟩

omit [Std.TransOrd κ] in
lemma exists_mem_upsert_of_mem {m : Keyed κ α} {p : κ × α} (hp : p ∈ m) (k : κ)
    (f : Option α → α) : ∃ q ∈ upsert k f m, q.1 = p.1 := by
  induction m with
  | nil => cases hp
  | cons first m ih =>
    rw [upsert_cons]
    split
    · exact ⟨p, List.mem_cons_of_mem _ hp, rfl⟩
    · rcases List.mem_cons.mp hp with rfl | hp
      · exact ⟨_, List.mem_cons_self, rfl⟩
      · exact ⟨p, List.mem_cons_of_mem _ hp, rfl⟩
    · rcases List.mem_cons.mp hp with rfl | hp
      · exact ⟨p, List.mem_cons_self, rfl⟩
      · obtain ⟨q, hq, heq⟩ := ih hp
        exact ⟨q, List.mem_cons_of_mem first hq, heq⟩

/-- Every key that was given is there. -/
lemma exists_mem_gather (hp : p ∈ pairs) : ∃ q ∈ gather pairs, compare p.1 q.1 = .eq := by
  induction pairs using List.reverseRecOn with
  | nil => cases hp
  | append_singleton pairs last ih =>
    rw [gather_concat]
    rcases List.mem_append.mp hp with hp | hp
    · obtain ⟨q, hq, heq⟩ := ih hp
      obtain ⟨q', hq', heq'⟩ := exists_mem_upsert_of_mem hq last.1 (fun old => old.getD [] ++ last.2)
      exact ⟨q', hq', by rwa [heq']⟩
    · rw [List.mem_singleton.mp hp]
      exact exists_mem_upsert last.1 _ _

omit [Std.TransOrd κ] in
lemma get?_eq_none {m : Keyed κ α} (h : ∀ p ∈ m, compare k p.1 ≠ .eq) : get? k m = none := by
  induction m with
  | nil => rfl
  | cons first m ih =>
    obtain ⟨hfirst, hm⟩ := List.forall_mem_cons.mp h
    rw [get?_cons, if_neg hfirst, ih hm]

/-- In increasing order every pair is found under its key. -/
lemma get?_eq_some_of_mem {m : Keyed κ α} (h : m.Pairwise fun x y => compare x.1 y.1 = .lt)
    {p : κ × α} (hp : p ∈ m) (hk : compare k p.1 = .eq) : get? k m = some p.2 := by
  induction m with
  | nil => cases hp
  | cons first m ih =>
    obtain ⟨hfirst, hm⟩ := List.pairwise_cons.mp h
    rw [get?_cons]
    rcases List.mem_cons.mp hp with rfl | hp
    · rw [if_pos hk]
    · have hgt : compare k first.1 = .gt := by
        rw [Std.TransCmp.congr_left hk]
        exact Std.OrientedCmp.gt_of_lt (hfirst p hp)
      rw [if_neg (by rw [hgt]; decide), ih hm hp]

/-- In increasing order all that is listed under a key is the value there. -/
lemma get?_eq_some_under {m : Keyed κ (List α)} (h : m.Pairwise fun x y => compare x.1 y.1 = .lt)
    (hk : ∃ p ∈ m, compare k p.1 = .eq) : get? k m = some (under k m) := by
  obtain ⟨p, hp, heq⟩ := hk
  rw [get?_eq_some_of_mem h hp heq, under_congr heq, under_of_mem h hp]

/-- The value under a key is all that was given for it, if anything was. -/
lemma get?_gather (k : κ) (pairs : List (κ × List α)) :
    get? k (gather pairs) =
      if pairs.any (fun p => compare k p.1 = .eq) then some (under k pairs) else none := by
  split
  · rename_i hany
    obtain ⟨p, hp, heq⟩ := List.any_eq_true.mp hany
    obtain ⟨q, hq, hpq⟩ := exists_mem_gather hp
    rw [← under_gather]
    refine get?_eq_some_under (ascending_gather pairs) ⟨q, hq, ?_⟩
    rwa [Std.TransCmp.congr_left (of_decide_eq_true heq)]
  · rename_i hnone
    refine get?_eq_none fun q hq heq => hnone ?_
    obtain ⟨p, hp, hkey⟩ := exists_of_mem_gather hq
    exact List.any_eq_true.mpr ⟨p, hp, decide_eq_true (hkey ▸ heq)⟩

omit [Std.TransOrd κ] in
lemma upsert_ne_nil (k : κ) (f : Option α → α) (m : Keyed κ α) : upsert k f m ≠ [] := by
  cases m with
  | nil => exact List.cons_ne_nil _ _
  | cons first m =>
    rw [upsert_cons]
    split <;> exact List.cons_ne_nil _ _

omit [Std.TransOrd κ] in
lemma gather_eq_nil_iff {pairs : List (κ × List α)} : gather pairs = [] ↔ pairs = [] := by
  rcases List.eq_nil_or_concat pairs with rfl | ⟨front, p, rfl⟩
  · simp [gather]
  · rw [List.concat_eq_append, gather_concat]
    simp [append, upsert_ne_nil]

/-! ### Keys that are found and removed -/

omit [Std.TransOrd κ] in
lemma exists_of_get?_eq_some {m : Keyed κ α} {v : α} (h : get? k m = some v) :
    ∃ p ∈ m, compare k p.1 = .eq ∧ p.2 = v := by
  induction m with
  | nil => cases h
  | cons first m ih =>
    rw [get?_cons] at h
    split at h
    · rename_i heq
      exact ⟨first, List.mem_cons_self, heq, Option.some.inj h⟩
    · obtain ⟨p, hp, heq⟩ := ih h
      exact ⟨p, List.mem_cons_of_mem first hp, heq⟩

omit [Std.TransOrd κ] in
lemma erase_sublist (k : κ) (m : Keyed κ α) : (erase k m).Sublist m := by
  induction m with
  | nil => exact .refl _
  | cons first m ih =>
    rw [erase_cons]
    split
    · exact List.sublist_cons_self first m
    · exact ih.cons_cons first

lemma get?_erase_self {m : Keyed κ α} (h : m.Pairwise fun x y => compare x.1 y.1 = .lt) (k : κ) :
    get? k (erase k m) = none := by
  induction m with
  | nil => rfl
  | cons first m ih =>
    obtain ⟨hfirst, hm⟩ := List.pairwise_cons.mp h
    rw [erase_cons]
    split
    · rename_i heq
      refine get?_eq_none fun p hp => ?_
      rw [Std.TransCmp.congr_left heq, hfirst p hp]
      decide
    · rename_i hne
      rw [get?_cons, if_neg hne, ih hm]

lemma get?_erase_of_ne (h : compare k k' ≠ .eq) (m : Keyed κ α) :
    get? k (erase k' m) = get? k m := by
  induction m with
  | nil => rfl
  | cons first m ih =>
    rw [erase_cons, get?_cons]
    split
    · rename_i heq
      rw [if_neg (by rwa [← Std.TransCmp.congr_right heq])]
    · rw [get?_cons, ih]

/-! ### Values grouped by a key -/

section Group

variable {key : α → κ} {values : List α}

omit [Std.TransOrd κ] in
/-- Grouping values is gathering lists of one value. -/
lemma group_eq_gather (key : α → κ) (values : List α) :
    group key values = gather (values.map fun v => (key v, [v])) := by
  rw [group, gather, List.foldl_map]

omit [Std.TransOrd κ] in
lemma group_concat (key : α → κ) (values : List α) (v : α) :
    group key (values ++ [v]) = append (key v) [v] (group key values) := by
  rw [group, List.foldl_append, List.foldl_cons, List.foldl_nil, group]

lemma ascending_group (key : α → κ) (values : List α) :
    (group key values).Pairwise fun x y => compare x.1 y.1 = .lt := by
  rw [group_eq_gather]
  exact ascending_gather _

omit [Std.TransOrd κ] in
lemma map_append {β : Type} (f : α → β) (k : κ) (vs : List α) (m : Keyed κ (List α)) :
    (append k vs m).map (Prod.map id (List.map f)) =
      append k (vs.map f) (m.map (Prod.map id (List.map f))) := by
  unfold append
  induction m with
  | nil => rfl
  | cons first m ih =>
    cases h : compare k first.1 <;> simp [upsert_cons, h, ih]

end Group

end Keyed

instance : Std.TransOrd Uri :=
  inferInstanceAs (Std.TransCmp (compareOn Uri.text))

/-- URIs are the same for the order when they are written the same. -/
lemma Uri.compare_eq_iff {u v : Uri} : compare u v = .eq ↔ u.text = v.text := by
  change compare u.text v.text = .eq ↔ u.text = v.text
  exact Std.LawfulEqOrd.compare_eq_iff_eq

lemma Uri.compare_lt_iff {u v : Uri} : compare u v = .lt ↔ u.text < v.text := by
  change compare u.text v.text = .lt ↔ u.text < v.text
  exact compareOfLessAndEq_eq_lt

end Outline
