import Mathlib.Data.List.Basic
import Outline.Json.Decode
import Outline.Proofs.Outcome

/-!
# Decoding records

What it means that the fields of a record can be read one after the other, from an object or from an
array. In an object, a field that may be left out is read as one that may be `null`, and what a
required field gives is what a field that may be left out would give.
-/

namespace Outline.Json

variable {α β : Type} {name : String} {value : Json → Option α} {slots slots' : Slots}
  {fields : List (String × Json)}

/-! ### Steps -/

lemma bind_run_eq_some_iff {x : Fields α} {f : α → Fields β} {result : β × Slots} :
    (x >>= f).run slots = some result ↔
      ∃ a slots', x.run slots = some (a, slots') ∧ (f a).run slots' = some result := by
  rw [StateT.run_bind, Option.bind_eq_bind, Option.bind_eq_some_iff]
  simp

lemma pure_run_eq_some_iff {a : α} {result : α × Slots} :
    (pure a : Fields α).run slots = some result ↔ result = (a, slots) := by
  rw [StateT.run_pure]
  simp [eq_comm]

lemma liftM_run_eq_some_iff {x : Option α} {a : α} :
    (liftM x : Fields α).run slots = some (a, slots') ↔ x = some a ∧ slots' = slots := by
  cases x with
  | none => exact iff_of_false (by rintro ⟨⟩) (by simp)
  | some b =>
    change some (b, slots) = some (a, slots') ↔ _
    simp [eq_comm]

lemma modifyGet_run_eq_some_iff {f : Slots → α × Slots} {a : α} :
    (modifyGet f : Fields α).run slots = some (a, slots') ↔ f slots = (a, slots') := by
  rw [StateT.run_modifyGet]
  exact Option.some_inj

/-! ### Fields -/

lemma required_run_eq_some_iff {a : α} :
    (required name value).run slots = some (a, slots') ↔
      ∃ v, slots.take name = (some v, slots') ∧ value v = some a := by
  simp only [required, bind_run_eq_some_iff, modifyGet_run_eq_some_iff]
  constructor
  · rintro ⟨_ | v, rest, htake, hrun⟩
    · cases hrun
    · obtain ⟨hvalue, rfl⟩ := liftM_run_eq_some_iff.mp hrun
      exact ⟨v, htake, hvalue⟩
  · rintro ⟨v, htake, hvalue⟩
    exact ⟨some v, slots', htake, liftM_run_eq_some_iff.mpr ⟨hvalue, rfl⟩⟩

lemma omissible_run_eq_some_iff {a : Option α} :
    (omissible name value).run slots = some (a, slots') ↔
      ∃ v, slots.take name = (v, slots') ∧ v.elim (some none) (orNull? value) = some a := by
  simp only [omissible, withDefault, bind_run_eq_some_iff, modifyGet_run_eq_some_iff]
  constructor
  · rintro ⟨_ | v, rest, htake, hrun⟩
    · cases hrun
      exact ⟨none, htake, rfl⟩
    · obtain ⟨hvalue, rfl⟩ := liftM_run_eq_some_iff.mp hrun
      exact ⟨some v, htake, hvalue⟩
  · rintro ⟨_ | v, htake, hvalue⟩
    · cases hvalue
      exact ⟨none, slots', htake, rfl⟩
    · exact ⟨some v, slots', htake, liftM_run_eq_some_iff.mpr ⟨hvalue, rfl⟩⟩

/-- A reader that refuses `null` is not disturbed by a `null` being allowed. -/
lemma orNull?_of_eq_some {v : Json} {a : α} (hnull : value .null = none) (h : value v = some a) :
    orNull? value v = some (some a) := by
  cases v with
  | null =>
    rw [hnull] at h
    cases h
  | _ => exact congrArg (Option.map some) h

/-- What a reader takes that may not be left out, a reader takes that may be. -/
lemma omissible_run_of_required {value' : Json → Option β} {a : α} {b : β}
    (hnull : value' .null = none) (hvalue : ∀ v, value v = some a → value' v = some b)
    (h : (required name value).run slots = some (a, slots')) :
    (omissible name value').run slots = some (some b, slots') := by
  obtain ⟨v, htake, ha⟩ := required_run_eq_some_iff.mp h
  rw [omissible_run_eq_some_iff]
  exact ⟨some v, htake, orNull?_of_eq_some hnull (hvalue v ha)⟩

/-! ### Fields of an object -/

lemma find?_append (name : String) (fields others : List (String × Json)) :
    find? name (fields ++ others) = (find? name fields).or (find? name others) := by
  induction fields with
  | nil => rfl
  | cons f fields ih =>
    rw [List.cons_append, find?, find?, ih]
    split <;> rfl

lemma find?_optional (name name' : String) (v : Option Json) :
    find? name (optional name' v) = if name = name' then v else none := by
  cases v with
  | none => exact (ite_self none).symm
  | some v => rfl

/-- What an object has under a name. It makes no difference whether this is `null` or missing. -/
def member? (fields : List (String × Json)) (name : String) (value : Json → Option α) :
    Option (Option α) :=
  (find? name fields).elim (some none) (orNull? value)

lemma omissible_run_named_eq_some_iff {a : Option α} :
    (omissible name value).run (.named fields) = some (a, slots') ↔
      member? fields name value = some a ∧ slots' = .named fields := by
  simp only [omissible_run_eq_some_iff, Slots.take, Prod.mk.injEq]
  constructor
  · rintro ⟨_, ⟨rfl, rfl⟩, ha⟩
    exact ⟨ha, rfl⟩
  · rintro ⟨ha, rfl⟩
    exact ⟨_, ⟨rfl, rfl⟩, ha⟩

lemma omissible_run_of_member? {a : Option α} (h : member? fields name value = some a) :
    (omissible name value).run (.named fields) = some (a, .named fields) := by
  rw [omissible_run_named_eq_some_iff]
  exact ⟨h, rfl⟩

/-- In an object it makes no difference whether a field may be left out. -/
lemma nullable_run_named_eq_some_iff {a : Option α} :
    (nullable name value).run (.named fields) = some (a, slots') ↔
      member? fields name value = some a ∧ slots' = .named fields := by
  have hsame : (nullable name value).run (.named fields) =
      (omissible name value).run (.named fields) := rfl
  rw [hsame, omissible_run_named_eq_some_iff]

lemma required_run_named {a : α}
    (h : (required name value).run (.named fields) = some (a, slots')) : slots' = .named fields := by
  obtain ⟨v, htake, -⟩ := required_run_eq_some_iff.mp h
  rw [Slots.take, Prod.mk.injEq] at htake
  exact htake.2.symm

/-- A reader that goes through the fields up to the first one of a name. -/
lemma eq_member?_of_cons {field : List (String × Json) → Option (Option α)}
    (hnil : field [] = some none)
    (hcons : ∀ f fields, field (f :: fields) =
      if f.1 = name then orNull? value f.2 else field fields) (fields : List (String × Json)) :
    field fields = member? fields name value := by
  induction fields with
  | nil => exact hnil
  | cons f fields ih =>
    rw [hcons, ih, member?, member?, find?]
    by_cases hname : f.1 = name
    · rw [if_pos hname, if_pos hname.symm, Option.elim_some]
    · rw [if_neg hname, if_neg (Ne.symm hname)]

lemma member?_of_find?_eq_none (h : find? name fields = none) :
    member? fields name value = some none := by
  rw [member?, h, Option.elim_none]

lemma member?_of_required {a : α} (hnull : value .null = none)
    (h : (required name value).run (.named fields) = some (a, slots')) :
    member? fields name value = some (some a) := by
  have hrun := omissible_run_of_required hnull (fun _ ha => ha) h
  rw [omissible_run_named_eq_some_iff] at hrun
  exact hrun.1

/-- What an object has under the name of a value that was written there, or left out. -/
lemma member?_of_written {write : α → Json} {a : Option α} (hnull : value .null = none)
    (hvalue : ∀ b ∈ a, value (write b) = some b) (h : find? name fields = a.map write) :
    member? fields name value = some a := by
  cases a with
  | none => exact member?_of_find?_eq_none h
  | some b =>
    rw [member?, h, Option.map_some, Option.elim_some]
    exact orNull?_of_eq_some hnull (hvalue b rfl)

lemma member?_of_text {a : Option String} (h : find? name fields = a.map .str) :
    member? fields name text? = some a :=
  member?_of_written rfl (fun _ _ => rfl) h

/-! ### Lists -/

lemma list?_map {read : Json → Option α} {write : α → Json} {as : List α}
    (h : ∀ a ∈ as, read (write a) = some a) : list? read (.arr (as.map write)) = some as := by
  rw [list?, mapM_eq_some_iff, List.map_map]
  exact List.map_congr_left h

/-- What two readers of elements give each, two readers of lists give for the whole list. -/
lemma list?_arr_map {read : Json → Option α} {read' : Json → Option β} {f : α → β} {vs : List Json}
    {as : List α} (hitem : ∀ v ∈ vs, ∀ a, read v = some a → read' v = some (f a))
    (h : list? read (.arr vs) = some as) : list? read' (.arr vs) = some (as.map f) := by
  rw [list?, mapM_eq_some_iff] at h ⊢
  calc vs.map read' = vs.map fun v => (read v).map f := by
        refine List.map_congr_left fun v hv => ?_
        have hread : read v ∈ as.map some := h ▸ List.mem_map_of_mem hv
        obtain ⟨a, -, ha⟩ := List.mem_map.mp hread
        rw [← ha, hitem v hv a ha.symm, Option.map_some]
    _ = (vs.map read).map (Option.map f) := by rw [List.map_map]; rfl
    _ = (as.map some).map (Option.map f) := by rw [h]
    _ = (as.map f).map some := by rw [List.map_map, List.map_map]; rfl

/-- The same for lists under a name. -/
lemma member?_list_map {read : Json → Option α} {read' : Json → Option β} {f : α → β}
    {as : Option (List α)}
    (hitem : ∀ vs, find? name fields = some (.arr vs) → ∀ v ∈ vs, ∀ a, read v = some a →
      read' v = some (f a))
    (h : member? fields name (list? read) = some as) :
    member? fields name (list? read') = some (as.map (·.map f)) := by
  rw [member?] at h ⊢
  cases hfind : find? name fields with
  | none =>
    rw [hfind] at h
    cases h
    rfl
  | some v =>
    rw [hfind, Option.elim_some] at h
    rw [Option.elim_some]
    cases v with
    | null =>
      cases h
      rfl
    | arr vs =>
      obtain ⟨as, has, rfl⟩ := Option.map_eq_some_iff.mp h
      exact orNull?_of_eq_some rfl (list?_arr_map (hitem vs hfind) has)
    | _ => cases h

/-! ### Whole records -/

/-- Nothing may be left over when all fields are read. -/
lemma bind_isDone_eq_some_iff {x : Option (α × Slots)} {a : α} :
    (x.bind fun result => if result.2.isDone then some result.1 else none) = some a ↔
      ∃ rest, x = some (a, rest) ∧ rest.isDone = true := by
  rw [Option.bind_eq_some_iff]
  constructor
  · rintro ⟨⟨a', rest⟩, hx, hresult⟩
    obtain ⟨hdone, ha⟩ := Option.ite_none_right_eq_some.mp hresult
    cases ha
    exact ⟨rest, hx, hdone⟩
  · rintro ⟨rest, hx, hdone⟩
    exact ⟨(a, rest), hx, if_pos hdone⟩

lemma record_obj_eq_some_iff {f : Fields α} {a : α} :
    record f (.obj fields) = some a ↔ ∃ rest, f.run (.named fields) = some (a, rest) ∧
      rest.isDone = true :=
  bind_isDone_eq_some_iff

lemma record_obj_of_run {f : Fields α} {a : α}
    (h : f.run (.named fields) = some (a, .named fields)) : record f (.obj fields) = some a :=
  record_obj_eq_some_iff.mpr ⟨_, h, rfl⟩

lemma record_arr_eq_some_iff {f : Fields α} {a : α} {items : List Json} :
    record f (.arr items) = some a ↔ ∃ rest, f.run (.placed items) = some (a, rest) ∧
      rest.isDone = true :=
  bind_isDone_eq_some_iff

/-- A record that is read as one of another kind field by field is read so as a whole. -/
lemma record_of_run {f : Fields α} {g : Fields β} {a : α} {b : β} {v : Json}
    (hrun : ∀ slots slots', f.run slots = some (a, slots') → g.run slots = some (b, slots'))
    (h : record f v = some a) : record g v = some b := by
  cases v with
  | obj fields =>
    obtain ⟨rest, hf, hdone⟩ := record_obj_eq_some_iff.mp h
    exact record_obj_eq_some_iff.mpr ⟨rest, hrun _ _ hf, hdone⟩
  | arr items =>
    obtain ⟨rest, hf, hdone⟩ := record_arr_eq_some_iff.mp h
    exact record_arr_eq_some_iff.mpr ⟨rest, hrun _ _ hf, hdone⟩
  | _ => cases h

end Outline.Json
