import Outline.Proofs.Json.Decoding
import Outline.Proofs.Outcome
import Outline.Symbol.Raw

/-!
# The tolerant shape of a symbol

A symbol that is written in one of the two strict shapes is read in the tolerant shape as what it
stands for there, as long as it does not use a name that only the other shape knows. A symbol in the
tolerant shape is read back as it was written.
-/

namespace Outline

open Json

/-! ### What can be sent -/

/-- A URI in normal form, which reading its written form gives back. -/
def Uri.IsNormal (u : Uri) : Prop := parse u.text = some u

/-- Line and column are numbers of 32 bits. -/
def Position.InBounds (p : Position) : Prop :=
  p.line < UInt32.size ∧ p.character < UInt32.size

def Range.InBounds (r : Range) : Prop := r.start.InBounds ∧ r.stop.InBounds

/-- A kind is a number of 32 bits with a sign. -/
def SymbolKind.InBounds (kind : SymbolKind) : Prop :=
  -0x80000000 ≤ kind.code ∧ kind.code < 0x80000000

structure RawLocation.InBounds (l : RawLocation) : Prop where
  uri   : ∀ u ∈ l.uri, u.IsNormal
  range : ∀ r ∈ l.range, r.InBounds

structure RawInfo.InBounds (i : RawInfo) : Prop where
  kind           : ∀ kind ∈ i.kind, kind.InBounds
  range          : ∀ r ∈ i.range, r.InBounds
  selectionRange : ∀ r ∈ i.selectionRange, r.InBounds
  location       : ∀ l ∈ i.location, l.InBounds

/-- All numbers of a symbol fit into 32 bits and all its URIs are in normal form. -/
inductive RawSymbol.InBounds : RawSymbol → Prop where
  | mk {info : RawInfo} {children : Option (List RawSymbol)} (hinfo : info.InBounds)
      (hchildren : ∀ ss ∈ children, ∀ s ∈ ss, InBounds s) : InBounds (.mk info children)

/-- A symbol that is written with objects for it and for all symbols in it, and none of them has a
name that is only known to the flat shape. -/
inductive Json.IsNestedOnly : Json → Prop where
  | obj {fields : List (String × Json)} (hlocation : find? "location" fields = none)
      (hcontainer : find? "containerName" fields = none)
      (hchildren : ∀ vs, find? "children" fields = some (.arr vs) → ∀ v ∈ vs, IsNestedOnly v) :
      IsNestedOnly (.obj fields)

/-! ### Ranges and places -/

lemma nat32?_nat {n : Nat} (h : n < UInt32.size) : nat32? (.nat n) = some n := by
  have hn : (0 : Int) ≤ n ∧ (n : Int) < UInt32.size := ⟨by omega, by exact_mod_cast h⟩
  simp only [nat32?, intWithin?, Json.nat, Bool.and_eq_true, decide_eq_true_eq]
  rw [if_pos hn, Option.map_some, Int.toNat_natCast]

lemma Position.ofJson_toJson {p : Position} (h : p.InBounds) : ofJson p.toJson = some p := by
  refine record_obj_of_run ?_
  simp only [bind_run_eq_some_iff, pure_run_eq_some_iff, required_run_eq_some_iff]
  exact ⟨p.line, _, ⟨_, rfl, nat32?_nat h.1⟩, p.character, _, ⟨_, rfl, nat32?_nat h.2⟩, rfl⟩

lemma Range.ofJson_toJson {r : Range} (h : r.InBounds) : ofJson r.toJson = some r := by
  refine record_obj_of_run ?_
  simp only [bind_run_eq_some_iff, pure_run_eq_some_iff, required_run_eq_some_iff]
  exact ⟨r.start, _, ⟨_, rfl, Position.ofJson_toJson h.1⟩, r.stop, _,
    ⟨_, rfl, Position.ofJson_toJson h.2⟩, rfl⟩

lemma SymbolKind.ofJson_toJson {kind : SymbolKind} (h : kind.InBounds) :
    ofJson kind.toJson = some kind := by
  simp [ofJson, toJson, int32?, intWithin?, Json.int, h.1, h.2]

lemma Uri.ofJson_toJson {u : Uri} (h : u.IsNormal) : ofJson u.toJson = some u := by
  rw [ofJson, toJson, text?, Option.bind_some]
  exact h

lemma RawLocation.ofJson_toJson {l : RawLocation} (h : l.InBounds) : ofJson l.toJson = some l := by
  refine record_obj_of_run ?_
  simp only [bind_run_eq_some_iff, pure_run_eq_some_iff]
  refine ⟨l.uri, _, omissible_run_of_member? ?_, l.range, _, omissible_run_of_member? ?_, rfl⟩
  · refine member?_of_written rfl (fun u hu => Uri.ofJson_toJson (h.uri u hu)) ?_
    simp [find?_append, find?_optional]
  · refine member?_of_written rfl (fun r hr => Range.ofJson_toJson (h.range r hr)) ?_
    simp [find?_append, find?_optional]

/-- What is read as a location is read as a place with both its parts. -/
lemma RawLocation.ofJson_of_location {v : Json} {l : Location} (h : Location.ofJson v = some l) :
    ofJson v = some ⟨l.uri, l.range⟩ := by
  refine record_of_run ?_ h
  intro slots slots' hrun
  simp only [bind_run_eq_some_iff, pure_run_eq_some_iff] at hrun ⊢
  obtain ⟨uri, slots₁, huri, range, slots₂, hrange, hl⟩ := hrun
  cases hl
  exact ⟨_, _, omissible_run_of_required rfl (fun _ hv => hv) huri, _, _,
    omissible_run_of_required rfl (fun _ hv => hv) hrange, rfl⟩

/-! ### Symbols without their children -/

/-- The fields of an object, read one by one, are those of `i`. -/
structure RawInfo.IsIn (i : RawInfo) (fields : List (String × Json)) : Prop where
  name           : member? fields "name" text? = some i.name
  kind           : member? fields "kind" SymbolKind.ofJson = some i.kind
  detail         : member? fields "detail" text? = some i.detail
  range          : member? fields "range" Range.ofJson = some i.range
  selectionRange : member? fields "selectionRange" Range.ofJson = some i.selectionRange
  location       : member? fields "location" RawLocation.ofJson = some i.location
  containerName  : member? fields "containerName" text? = some i.containerName

lemma RawInfo.IsIn.run_fields {i : RawInfo} {fields : List (String × Json)} (h : i.IsIn fields) :
    RawInfo.fields.run (.named fields) = some (i, .named fields) := by
  simp only [RawInfo.fields, bind_run_eq_some_iff, pure_run_eq_some_iff]
  exact ⟨_, _, omissible_run_of_member? h.name, _, _, omissible_run_of_member? h.kind,
    _, _, omissible_run_of_member? h.detail, _, _, omissible_run_of_member? h.range,
    _, _, omissible_run_of_member? h.selectionRange, _, _, omissible_run_of_member? h.location,
    _, _, omissible_run_of_member? h.containerName, rfl⟩

/-- The fields of a nested symbol. -/
lemma NestedInfo.isIn_toRaw {i : NestedInfo} {fields : List (String × Json)} {rest : Slots}
    (hlocation : find? "location" fields = none) (hcontainer : find? "containerName" fields = none)
    (h : NestedInfo.fields.run (.named fields) = some (i, rest)) : i.toRaw.IsIn fields := by
  simp only [NestedInfo.fields, bind_run_eq_some_iff, pure_run_eq_some_iff] at h
  obtain ⟨name, _, hname, h⟩ := h
  obtain rfl := required_run_named hname
  obtain ⟨detail, _, hdetail, h⟩ := h
  obtain ⟨hdetailIn, rfl⟩ := nullable_run_named_eq_some_iff.mp hdetail
  obtain ⟨kind, _, hkind, h⟩ := h
  obtain rfl := required_run_named hkind
  obtain ⟨tags, _, htags, h⟩ := h
  obtain ⟨-, rfl⟩ := nullable_run_named_eq_some_iff.mp htags
  obtain ⟨deprecated, _, hdeprecated, h⟩ := h
  obtain ⟨-, rfl⟩ := nullable_run_named_eq_some_iff.mp hdeprecated
  obtain ⟨range, _, hrange, h⟩ := h
  obtain rfl := required_run_named hrange
  obtain ⟨selectionRange, _, hselection, hi⟩ := h
  cases hi
  exact {
    name := member?_of_required rfl hname
    kind := member?_of_required rfl hkind
    detail := hdetailIn
    range := member?_of_required rfl hrange
    selectionRange := member?_of_required rfl hselection
    location := member?_of_find?_eq_none hlocation
    containerName := member?_of_find?_eq_none hcontainer }

/-- The fields of a symbol that is written in the tolerant shape. -/
lemma RawInfo.isIn_append {i : RawInfo} (h : i.InBounds) {fields : List (String × Json)}
    (hfields : ∀ name, name ≠ "children" → find? name fields = none) :
    i.IsIn (i.toFields ++ fields) := by
  constructor
  case name | detail | containerName =>
    refine member?_of_text ?_
    simp [toFields, find?_append, find?_optional, hfields]
  case kind =>
    refine member?_of_written rfl (fun k hk => SymbolKind.ofJson_toJson (h.kind k hk)) ?_
    simp [toFields, find?_append, find?_optional, hfields]
  case range =>
    refine member?_of_written rfl (fun r hr => Range.ofJson_toJson (h.range r hr)) ?_
    simp [toFields, find?_append, find?_optional, hfields]
  case selectionRange =>
    refine member?_of_written rfl (fun r hr => Range.ofJson_toJson (h.selectionRange r hr)) ?_
    simp [toFields, find?_append, find?_optional, hfields]
  case location =>
    refine member?_of_written rfl (fun l hl => RawLocation.ofJson_toJson (h.location l hl)) ?_
    simp [toFields, find?_append, find?_optional, hfields]

/-! ### Children -/

namespace RawSymbol

lemma ofJsonList_eq_mapM (vs : List Json) : ofJsonList vs = vs.mapM ofJson := by
  induction vs with
  | nil => rw [ofJsonList, List.mapM_nil, Option.pure_def]
  | cons v vs ih => rw [ofJsonList, List.mapM_cons, ih]

lemma childrenValue_eq (v : Json) : childrenValue v = orNull? (list? ofJson) v := by
  cases v <;> simp [childrenValue, orNull?, list?, ofJsonList_eq_mapM]

lemma childrenField_eq_member? (fields : List (String × Json)) :
    childrenField fields = member? fields "children" (list? ofJson) := by
  apply eq_member?_of_cons
  · rw [childrenField]
  · intro f fields
    rw [childrenField, childrenValue_eq]

lemma toJsonList_eq_map (ss : List RawSymbol) : toJsonList ss = ss.map toJson := by
  induction ss with
  | nil => rw [toJsonList, List.map_nil]
  | cons s ss ih => rw [toJsonList, List.map_cons, ih]

lemma childrenFields_eq_optional (children : Option (List RawSymbol)) :
    childrenFields children =
      optional "children" (children.map fun ss => .arr (ss.map toJson)) := by
  cases children with
  | none => rw [childrenFields]; rfl
  | some ss => rw [childrenFields, toJsonList_eq_map]; rfl

/-- An object is read as a symbol when it has the fields and the children of that symbol. -/
lemma ofJson_obj {info : RawInfo} {children : Option (List RawSymbol)}
    {fields : List (String × Json)} (hinfo : info.IsIn fields)
    (hchildren : member? fields "children" (list? ofJson) = some children) :
    ofJson (.obj fields) = some (.mk info children) := by
  rw [ofJson, hinfo.run_fields, childrenField_eq_member?, hchildren]
  rfl

end RawSymbol

namespace NestedSymbol

lemma ofJsonList_eq_mapM (vs : List Json) : ofJsonList vs = vs.mapM ofJson := by
  induction vs with
  | nil => rw [ofJsonList, List.mapM_nil, Option.pure_def]
  | cons v vs ih => rw [ofJsonList, List.mapM_cons, ih]

lemma childrenValue_eq (v : Json) : childrenValue v = orNull? (list? ofJson) v := by
  cases v <;> simp [childrenValue, orNull?, list?, ofJsonList_eq_mapM]

lemma childrenField_eq_member? (fields : List (String × Json)) :
    childrenField fields = member? fields "children" (list? ofJson) := by
  apply eq_member?_of_cons
  · rw [childrenField]
  · intro f fields
    rw [childrenField, childrenValue_eq]

lemma ofJson_obj_eq_some_iff {s : NestedSymbol} {fields : List (String × Json)} :
    ofJson (.obj fields) = some s ↔ ∃ info rest children,
      NestedInfo.fields.run (.named fields) = some (info, rest) ∧
      member? fields "children" (list? ofJson) = some children ∧ s = .mk info children := by
  rw [ofJson, childrenField_eq_member?]
  constructor
  · intro h
    obtain ⟨⟨info, rest⟩, hinfo, h⟩ := Option.bind_eq_some_iff.mp h
    obtain ⟨children, hchildren, h⟩ := Option.bind_eq_some_iff.mp h
    cases h
    exact ⟨info, rest, children, hinfo, hchildren, rfl⟩
  · rintro ⟨info, rest, children, hinfo, hchildren, rfl⟩
    rw [hinfo, hchildren]
    rfl

lemma toRawList_eq_map (ss : List NestedSymbol) : toRawList ss = ss.map toRaw := by
  induction ss with
  | nil => rw [toRawList, List.map_nil]
  | cons s ss ih => rw [toRawList, List.map_cons, ih]

lemma toRawChildren_eq_map (children : Option (List NestedSymbol)) :
    toRawChildren children = children.map (·.map toRaw) := by
  cases children with
  | none => rw [toRawChildren, Option.map_none]
  | some ss => rw [toRawChildren, toRawList_eq_map, Option.map_some]

end NestedSymbol

/-! ### Whole symbols -/

/-- A symbol in the nested shape stands for the same symbol in the tolerant shape. -/
lemma RawSymbol.ofJson_of_nested {v : Json} (hv : v.IsNestedOnly) {s : NestedSymbol}
    (h : NestedSymbol.ofJson v = some s) : ofJson v = some s.toRaw := by
  induction hv generalizing s with
  | @obj fields hlocation hcontainer _ ih =>
    obtain ⟨info, rest, children, hinfo, hchildren, rfl⟩ :=
      NestedSymbol.ofJson_obj_eq_some_iff.mp h
    rw [NestedSymbol.toRaw, NestedSymbol.toRawChildren_eq_map]
    refine ofJson_obj (NestedInfo.isIn_toRaw hlocation hcontainer hinfo) ?_
    exact member?_list_map (fun vs hvs w hw t ht => ih vs hvs w hw ht) hchildren

/-- A symbol in the flat shape stands for the same symbol in the tolerant shape. -/
lemma RawSymbol.ofJson_of_flat {fields : List (String × Json)} {s : FlatSymbol}
    (hdetail : find? "detail" fields = none) (hrange : find? "range" fields = none)
    (hselection : find? "selectionRange" fields = none)
    (hchildren : find? "children" fields = none)
    (h : FlatSymbol.ofJson (.obj fields) = some s) : ofJson (.obj fields) = some s.toRaw := by
  obtain ⟨rest, h, -⟩ := record_obj_eq_some_iff.mp h
  simp only [bind_run_eq_some_iff, pure_run_eq_some_iff] at h
  obtain ⟨name, _, hname, h⟩ := h
  obtain rfl := required_run_named hname
  obtain ⟨kind, _, hkind, h⟩ := h
  obtain rfl := required_run_named hkind
  obtain ⟨tags, _, htags, h⟩ := h
  obtain ⟨-, rfl⟩ := nullable_run_named_eq_some_iff.mp htags
  obtain ⟨deprecated, _, hdeprecated, h⟩ := h
  obtain ⟨-, rfl⟩ := nullable_run_named_eq_some_iff.mp hdeprecated
  obtain ⟨location, _, hlocation, h⟩ := h
  have hplace := omissible_run_of_required rfl
    (fun _ hl => RawLocation.ofJson_of_location hl) hlocation
  obtain rfl := required_run_named hlocation
  obtain ⟨container, _, hcontainer, hs⟩ := h
  obtain ⟨hcontainerIn, -⟩ := nullable_run_named_eq_some_iff.mp hcontainer
  cases hs
  refine ofJson_obj ?_ (member?_of_find?_eq_none hchildren)
  exact {
    name := member?_of_required rfl hname
    kind := member?_of_required rfl hkind
    detail := member?_of_find?_eq_none hdetail
    range := member?_of_find?_eq_none hrange
    selectionRange := member?_of_find?_eq_none hselection
    location := (omissible_run_named_eq_some_iff.mp hplace).1
    containerName := hcontainerIn }

/-- A symbol in the tolerant shape is read back as it was written. -/
lemma RawSymbol.ofJson_toJson {s : RawSymbol} (h : s.InBounds) : ofJson s.toJson = some s := by
  induction h with
  | @mk info children hinfo _ ih =>
    rw [toJson, childrenFields_eq_optional]
    refine ofJson_obj (RawInfo.isIn_append hinfo ?_) ?_
    · intro name hname
      rw [find?_optional, if_neg hname]
    · refine member?_of_written rfl (fun ss hss => list?_map (ih ss hss)) ?_
      simp [RawInfo.toFields, find?_append, find?_optional]

/-- The tolerant shape agrees with both strict shapes and with itself. -/
theorem tolerant_shape_agrees :
    (∀ v s, v.IsNestedOnly → NestedSymbol.ofJson v = some s →
      RawSymbol.ofJson v = some s.toRaw) ∧
    (∀ fields s, find? "detail" fields = none → find? "range" fields = none →
      find? "selectionRange" fields = none → find? "children" fields = none →
      FlatSymbol.ofJson (.obj fields) = some s → RawSymbol.ofJson (.obj fields) = some s.toRaw) ∧
    ∀ s : RawSymbol, s.InBounds → RawSymbol.ofJson s.toJson = some s := by
  refine ⟨?_, ?_, ?_⟩
  · intro v s hv h
    exact RawSymbol.ofJson_of_nested hv h
  · intro fields s hdetail hrange hselection hchildren h
    exact RawSymbol.ofJson_of_flat hdetail hrange hselection hchildren h
  · intro s h
    exact RawSymbol.ofJson_toJson h

/-- A class with a method of no children, in the nested shape. -/
def classSample : Json :=
  .obj [("name", .str "A"), ("kind", .int 5), ("range", (Range.point ⟨0, 6⟩).toJson),
    ("selectionRange", (Range.point ⟨0, 6⟩).toJson), ("children", .arr [
      .obj [("name", .str "f"), ("detail", .null), ("kind", .int 6),
        ("range", (Range.point ⟨1, 2⟩).toJson), ("selectionRange", (Range.point ⟨1, 2⟩).toJson),
        ("children", .arr [])]])]

/-- The same class in the flat shape, in the document `file:///a`. -/
def flatSample : List (String × Json) :=
  [("name", .str "A"), ("kind", .int 5), ("deprecated", .null), ("location",
    .obj [("uri", .str "file:///a"), ("range", (Range.point ⟨0, 6⟩).toJson)])]

def uriSample : Uri := ⟨"file", some ⟨"", "", none⟩, .rooted ["a"], none, none⟩

/-- Something in that document, that has an empty list of children. -/
def bareSample : RawSymbol :=
  .mk ⟨none, none, none, some (.point ⟨0, 6⟩), none, some ⟨some uriSample, none⟩, none⟩ (some [])

lemma isNestedOnly_classSample : classSample.IsNestedOnly := by
  refine .obj rfl rfl fun vs hvs v hv => ?_
  cases hvs
  obtain rfl := List.mem_singleton.mp hv
  refine .obj rfl rfl fun vs hvs v hv => ?_
  cases hvs
  cases hv

lemma isNormal_uriSample : uriSample.IsNormal := by
  unfold Uri.IsNormal
  decide +kernel

lemma flatSample_eq_some : FlatSymbol.ofJson (.obj flatSample) =
    some ⟨"A", ⟨5⟩, ⟨uriSample, .point ⟨0, 6⟩⟩, none⟩ := by
  have htext : uriSample.toJson = .str "file:///a" := congrArg Json.str (by decide)
  have huri := Uri.ofJson_toJson isNormal_uriSample
  rw [htext] at huri
  have hlocation : Location.ofJson (.obj [("uri", .str "file:///a"),
      ("range", (Range.point ⟨0, 6⟩).toJson)]) = some ⟨uriSample, .point ⟨0, 6⟩⟩ := by
    refine record_obj_of_run ?_
    simp only [bind_run_eq_some_iff, pure_run_eq_some_iff, required_run_eq_some_iff]
    exact ⟨_, _, ⟨_, rfl, huri⟩, _, _, ⟨_, rfl, rfl⟩, rfl⟩
  refine record_obj_of_run ?_
  simp only [bind_run_eq_some_iff, pure_run_eq_some_iff, required_run_eq_some_iff]
  exact ⟨_, _, ⟨_, rfl, rfl⟩, _, _, ⟨_, rfl, rfl⟩, _, _, rfl, _, _, rfl,
    _, _, ⟨_, rfl, hlocation⟩, _, _, rfl, rfl⟩

lemma inBounds_bareSample : bareSample.InBounds := by
  refine .mk ⟨nofun, ?_, nofun, ?_⟩ ?_
  · rintro r ⟨⟩
    exact ⟨⟨by decide, by decide⟩, by decide, by decide⟩
  · rintro l ⟨⟩
    refine ⟨?_, nofun⟩
    rintro u ⟨⟩
    exact isNormal_uriSample
  · rintro ss ⟨⟩ s hs
    cases hs

theorem tolerant_shape_of_samples :
    RawSymbol.ofJson classSample = some (NestedSymbol.mk
      ⟨"A", none, ⟨5⟩, .point ⟨0, 6⟩, .point ⟨0, 6⟩⟩
      (some [.mk ⟨"f", none, ⟨6⟩, .point ⟨1, 2⟩, .point ⟨1, 2⟩⟩ (some [])])).toRaw ∧
    RawSymbol.ofJson (.obj flatSample) =
      some (FlatSymbol.toRaw ⟨"A", ⟨5⟩, ⟨uriSample, .point ⟨0, 6⟩⟩, none⟩) ∧
    RawSymbol.ofJson bareSample.toJson = some bareSample := by
  obtain ⟨hnested, hflat, hself⟩ := tolerant_shape_agrees
  exact ⟨hnested _ _ isNestedOnly_classSample rfl,
    hflat _ _ rfl rfl rfl rfl flatSample_eq_some, hself _ inBounds_bareSample⟩

end Outline
