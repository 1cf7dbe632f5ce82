import Outline.Proofs.Json.Scalars
import Outline.Proofs.Keyed

/-!
# What reading JSON gives

A value that is read is tidy: its integers have 64 bits, the names in its objects are in increasing
order, and there are no more containers inside each other than the reader has room for.
-/

namespace Outline.Json

/-- The numbers have the property `P`, the names of objects are in increasing order, and at most
`room` containers stand inside each other. -/
inductive Tidy (P : Number → Prop) : (room : Nat) → Json → Prop where
  | null (room : Nat) : Tidy P room .null
  | bool (room : Nat) (b : Bool) : Tidy P room (.bool b)
  | num (room : Nat) {n : Number} (hn : P n) : Tidy P room (.num n)
  | str (room : Nat) (s : String) : Tidy P room (.str s)
  | arr {room : Nat} {items : List Json} (hitems : ∀ v ∈ items, Tidy P room v) :
      Tidy P (room + 1) (.arr items)
  | obj {room : Nat} {fields : List (String × Json)}
      (hnames : fields.Pairwise fun f g => compare f.1 g.1 = .lt)
      (hvalues : ∀ f ∈ fields, Tidy P room f.2) : Tidy P (room + 1) (.obj fields)

/-- A number as it is read: an integer of 64 bits, or a double. -/
def IsRead : Number → Prop
  | .int n    => IsInteger64 n
  | .double _ => True

variable {room : Nat} {cs rest : List Char}

lemma isRead_of_numberBody {negative : Bool} {n : Number}
    (h : numberBody negative cs = some (n, rest)) : IsRead n := by
  cases n with
  | double d => trivial
  | int n =>
    obtain ⟨_, _, _, -, -, -, hvalue⟩ := numberBody_int_eq_some_iff.mp h
    exact (integer?_eq_some_iff.mp hvalue).1

/-! ### Items and fields -/

section Readers

variable {value : List Char → Option (Json × List Char)}

/-- Items are one item and the others behind a comma, or one item before the bracket. -/
lemma itemsWith_eq_some_iff {items : List Json} :
    itemsWith value cs = some (items, rest) ↔
      ∃ v after, value (skipBlanks cs) = some (v, after) ∧
        ((∃ more others, skipBlanks after = ',' :: more ∧ more.length < cs.length ∧
          itemsWith value more = some (others, rest) ∧ items = v :: others) ∨
        (skipBlanks after = ']' :: rest ∧ items = [v])) := by
  rw [itemsWith]
  constructor
  · intro h
    split at h
    · cases h
    · rename_i v after hv
      refine ⟨v, after, hv, ?_⟩
      split at h
      · rename_i more hmore
        split at h
        · rename_i hlength
          obtain ⟨⟨others, rest'⟩, hothers, hitems⟩ := Option.map_eq_some_iff.mp h
          cases hitems
          exact .inl ⟨more, others, hmore, hlength, hothers, rfl⟩
        · cases h
      · rename_i more hmore
        cases h
        exact .inr ⟨hmore, rfl⟩
      · cases h
  · rintro ⟨v, after, hv, ⟨more, others, hmore, hlength, hothers, rfl⟩ | ⟨hend, rfl⟩⟩
    · simp only [hv, hmore, dif_pos hlength, hothers, Option.map_some]
    · simp only [hv, hend]

/-- Fields are one field and the others behind a comma, or one field before the brace. -/
lemma fieldsWith_eq_some_iff {fields : List (String × Json)} :
    fieldsWith value cs = some (fields, rest) ↔
      ∃ name behind v after, fieldName cs = some (name, behind) ∧
        value (skipBlanks behind) = some (v, after) ∧
        ((∃ more others, skipBlanks after = ',' :: more ∧ more.length < cs.length ∧
          fieldsWith value more = some (others, rest) ∧ fields = (name, v) :: others) ∨
        (skipBlanks after = '}' :: rest ∧ fields = [(name, v)])) := by
  rw [fieldsWith]
  constructor
  · intro h
    split at h
    · cases h
    · rename_i name behind hname
      split at h
      · cases h
      · rename_i v after hv
        refine ⟨name, behind, v, after, hname, hv, ?_⟩
        split at h
        · rename_i more hmore
          split at h
          · rename_i hlength
            obtain ⟨⟨others, rest'⟩, hothers, hfields⟩ := Option.map_eq_some_iff.mp h
            cases hfields
            exact .inl ⟨more, others, hmore, hlength, hothers, rfl⟩
          · cases h
        · rename_i more hmore
          cases h
          exact .inr ⟨hmore, rfl⟩
        · cases h
  · rintro ⟨name, behind, v, after, hname, hv,
      ⟨more, others, hmore, hlength, hothers, rfl⟩ | ⟨hend, rfl⟩⟩
    · simp only [hname, hv, hmore, dif_pos hlength, hothers, Option.map_some]
    · simp only [hname, hv, hend]

variable {P : Json → Prop} (hvalue : ∀ cs v rest, value cs = some (v, rest) → P v)
include hvalue

lemma forall_mem_of_itemsWith {items : List Json} (h : itemsWith value cs = some (items, rest)) :
    ∀ v ∈ items, P v := by
  induction items generalizing cs with
  | nil => exact List.forall_mem_nil P
  | cons first items ih =>
    obtain ⟨v, after, hv, hrest⟩ := itemsWith_eq_some_iff.mp h
    rcases hrest with ⟨more, others, -, -, hothers, hitems⟩ | ⟨-, hitems⟩
    · cases hitems
      exact List.forall_mem_cons.mpr ⟨hvalue _ _ after hv, ih hothers⟩
    · cases hitems
      exact List.forall_mem_singleton.mpr (hvalue _ _ after hv)

lemma forall_mem_of_fieldsWith {fields : List (String × Json)}
    (h : fieldsWith value cs = some (fields, rest)) : ∀ f ∈ fields, P f.2 := by
  induction fields generalizing cs with
  | nil => exact List.forall_mem_nil _
  | cons first fields ih =>
    obtain ⟨name, behind, v, after, -, hv, hrest⟩ := fieldsWith_eq_some_iff.mp h
    rcases hrest with ⟨more, others, -, -, hothers, hfields⟩ | ⟨-, hfields⟩
    · cases hfields
      exact List.forall_mem_cons.mpr ⟨hvalue _ _ after hv, ih hothers⟩
    · cases hfields
      exact List.forall_mem_singleton.mpr (hvalue _ _ after hv)

end Readers

/-! ### Values -/

/-- The fields of an object are brought in order. -/
lemma tidy_object {P : Number → Prop} {fields : List (String × Json)}
    (h : ∀ f ∈ fields, Tidy P room f.2) : Tidy P (room + 1) (object fields) :=
  .obj (Keyed.ascending_ofList fields) (Keyed.forall_mem_ofList h)

lemma tidy_of_valueIn {v : Json} (h : valueIn room cs = some (v, rest)) : Tidy IsRead room v := by
  induction room using Nat.strongRecOn generalizing cs v rest with
  | _ room ih =>
    unfold valueIn at h
    split at h
    case h_6 | h_7 => cases h
    case h_8 =>
      split at h
      · cases h
        exact .arr (List.forall_mem_nil _)
      · obtain ⟨⟨items, after⟩, hitems, hv⟩ := Option.map_eq_some_iff.mp h
        cases hv
        exact .arr (forall_mem_of_itemsWith (fun _ _ _ hw => ih _ (Nat.lt_succ_self _) hw) hitems)
    case h_9 =>
      split at h
      · cases h
        exact .obj .nil (List.forall_mem_nil _)
      · obtain ⟨⟨fields, after⟩, hfields, hv⟩ := Option.map_eq_some_iff.mp h
        cases hv
        exact tidy_object
          (forall_mem_of_fieldsWith (fun _ _ _ hw => ih _ (Nat.lt_succ_self _) hw) hfields)
    case h_5 | h_10 =>
      obtain ⟨⟨n, after⟩, hn, hv⟩ := Option.map_eq_some_iff.mp h
      cases hv
      exact .num _ (isRead_of_numberBody hn)
    all_goals
      obtain ⟨_, -, hv⟩ := Option.map_eq_some_iff.mp h
      cases hv
      constructor

theorem tidy_of_parse {text : String} {v : Json} (h : parse text = some v) :
    Tidy IsRead 127 v := by
  unfold parse at h
  split at h
  · rename_i v' rest hv
    obtain ⟨-, hv'⟩ := Option.ite_none_right_eq_some.mp h
    cases hv'
    exact tidy_of_valueIn hv
  · cases h

end Outline.Json
