import Outline.Proofs.Json.Tidy

/-!
# Values that are read back

A tidy value without doubles is read back from its pretty layout. Doubles are left out because the
reader may miss the last place of the nearest double.
-/

namespace Outline.Json

/-- All numbers in the value are integers. -/
inductive Whole : Json → Prop where
  | null : Whole .null
  | bool (b : Bool) : Whole (.bool b)
  | int (n : Int) : Whole (.num (.int n))
  | str (s : String) : Whole (.str s)
  | arr {items : List Json} (hitems : ∀ v ∈ items, Whole v) : Whole (.arr items)
  | obj {fields : List (String × Json)} (hvalues : ∀ f ∈ fields, Whole f.2) : Whole (.obj fields)

/-- An integer of 64 bits. -/
def IsWhole : Number → Prop
  | .int n    => IsInteger64 n
  | .double _ => False

lemma tidy_isWhole {room : Nat} {v : Json} (htidy : Tidy IsRead room v) (hwhole : Whole v) :
    Tidy IsWhole room v := by
  induction htidy with
  | null room => exact .null room
  | bool room b => exact .bool room b
  | num room hn =>
    cases hwhole
    exact .num room hn
  | str room s => exact .str room s
  | arr _ ih =>
    cases hwhole with | arr hitems => exact .arr fun v hv => ih v hv (hitems v hv)
  | obj hnames _ ih =>
    cases hwhole with | obj hvalues => exact .obj hnames fun f hf => ih f hf (hvalues f hf)

variable {room level outer : Nat} {cs rest : List Char}

/-! ### Blanks -/

lemma length_skipBlanks_le (cs : List Char) : (skipBlanks cs).length ≤ cs.length := by
  induction cs with
  | nil => exact Nat.le_refl 0
  | cons c cs ih =>
    rw [skipBlanks]
    split
    · exact Nat.le_succ_of_le ih
    · exact Nat.le_refl _

lemma length_lt_of_skipBlanks {front : List Char} {c : Char}
    (h : skipBlanks cs = front ++ c :: rest) : rest.length < cs.length := by
  have hle := length_skipBlanks_le cs
  rw [h, List.length_append, List.length_cons] at hle
  omega

lemma skipBlanks_replicate (n : Nat) (cs : List Char) :
    skipBlanks (List.replicate n ' ' ++ cs) = skipBlanks cs := by
  induction n with
  | zero => rfl
  | succ n ih => exact ih

lemma skipBlanks_breakLine (level : Nat) (cs : List Char) :
    skipBlanks (breakLine level ++ cs) = skipBlanks cs :=
  skipBlanks_replicate (2 * level) cs

/-- The text begins as a value does: with a digit or one of a few other characters. -/
def StartsValue (cs : List Char) : Prop :=
  ∃ c ∈ cs.head?, c.isDigit = true ∨ c ∈ ['n', 't', 'f', '"', '-', '[', '{']

namespace StartsValue

variable (h : StartsValue cs)
include h

lemma append (rest : List Char) : StartsValue (cs ++ rest) := by
  obtain ⟨c, hc, hstart⟩ := h
  exact ⟨c, List.mem_head?_append_of_mem_head? hc, hstart⟩

lemma skipBlanks_eq : skipBlanks cs = cs := by
  obtain ⟨c, hc, hstart⟩ := h
  obtain ⟨cs, rfl⟩ := List.head?_eq_some_iff.mp hc
  refine if_neg fun hblank => ?_
  simp only [Bool.or_eq_true, decide_eq_true_eq] at hblank
  rcases hblank with ((rfl | rfl) | rfl) | rfl
  all_goals revert hstart; decide

lemma ne_cons {c : Char} (hc : c = ']' ∨ c = '}') : cs ≠ c :: rest := by
  rintro rfl
  obtain ⟨c', hc', hstart⟩ := h
  cases hc'
  rcases hc with rfl | rfl
  all_goals revert hstart; decide

end StartsValue

lemma startsValue_quoted (s : String) : StartsValue (quoted s) :=
  ⟨'"', rfl, .inr (by decide)⟩

lemma startsValue_toDigits (n : Nat) : StartsValue (Nat.toDigits 10 n) := by
  obtain ⟨c, cs, hdigits⟩ := List.exists_cons_of_ne_nil (Nat.toDigits_ne_nil (b := 10) (n := n))
  have hc : c ∈ Nat.toDigits 10 n := hdigits ▸ List.mem_cons_self
  exact ⟨c, hdigits ▸ rfl, .inl (Nat.isDigit_of_mem_toDigits (by decide) (by decide) hc)⟩

lemma startsValue_numberText (n : Int) : StartsValue (numberText (.int n)).toList := by
  rw [toList_numberText_int]
  split
  · exact ⟨'-', rfl, .inr (by decide)⟩
  · exact startsValue_toDigits n.natAbs

/-! ### The layout -/

lemma prettyChars_arr (level : Nat) (v : Json) (vs : List Json) (rest : List Char) :
    prettyChars level (.arr (v :: vs)) ++ rest = '[' :: (breakLine (level + 1) ++
      (prettyItems (level + 1) (v :: vs) ++ (breakLine level ++ ']' :: rest))) := by
  change '[' :: breakLine (level + 1) ++ prettyItems (level + 1) (v :: vs) ++ breakLine level ++
    [']'] ++ rest = _
  simp only [List.cons_append, List.append_assoc, List.nil_append]

lemma prettyChars_obj (level : Nat) (f : String × Json) (fs : List (String × Json))
    (rest : List Char) :
    prettyChars level (.obj (f :: fs)) ++ rest = '{' :: (breakLine (level + 1) ++
      (prettyFields (level + 1) (f :: fs) ++ (breakLine level ++ '}' :: rest))) := by
  change '{' :: breakLine (level + 1) ++ prettyFields (level + 1) (f :: fs) ++ breakLine level ++
    ['}'] ++ rest = _
  simp only [List.cons_append, List.append_assoc, List.nil_append]

lemma prettyItems_cons_cons (level : Nat) (v w : Json) (vs : List Json) (rest : List Char) :
    prettyItems level (v :: w :: vs) ++ rest = prettyChars level v ++
      (',' :: (breakLine level ++ (prettyItems level (w :: vs) ++ rest))) := by
  change prettyChars level v ++ ',' :: breakLine level ++ prettyItems level (w :: vs) ++ rest = _
  simp only [List.cons_append, List.append_assoc]

lemma prettyFields_singleton (level : Nat) (f : String × Json) (rest : List Char) :
    prettyFields level [f] ++ rest = quoted f.1 ++ (':' :: (' ' :: (prettyChars level f.2 ++
      rest))) := by
  change quoted f.1 ++ ':' :: ' ' :: prettyChars level f.2 ++ rest = _
  simp only [List.cons_append, List.append_assoc]

lemma prettyFields_cons_cons (level : Nat) (f g : String × Json) (fs : List (String × Json))
    (rest : List Char) :
    prettyFields level (f :: g :: fs) ++ rest = quoted f.1 ++ (':' :: (' ' ::
      (prettyChars level f.2 ++ (',' :: (breakLine level ++ (prettyFields level (g :: fs) ++
        rest)))))) := by
  change quoted f.1 ++ ':' :: ' ' :: prettyChars level f.2 ++ ',' :: breakLine level ++
    prettyFields level (g :: fs) ++ rest = _
  simp only [List.cons_append, List.append_assoc]

lemma startsValue_prettyChars (level : Nat) {v : Json} (hv : Tidy IsWhole room v) :
    StartsValue (prettyChars level v) := by
  cases hv with
  | null => exact ⟨'n', rfl, .inr (by decide)⟩
  | bool _ b =>
    cases b with
    | false => exact ⟨'f', rfl, .inr (by decide)⟩
    | true => exact ⟨'t', rfl, .inr (by decide)⟩
  | @num _ n hn =>
    cases n with
    | double d => cases hn
    | int n => exact startsValue_numberText n
  | str _ s => exact startsValue_quoted s
  | @arr _ items _ =>
    cases items with
    | nil => exact ⟨'[', rfl, .inr (by decide)⟩
    | cons v vs => exact ⟨'[', rfl, .inr (by decide)⟩
  | @obj _ fields _ _ =>
    cases fields with
    | nil => exact ⟨'{', rfl, .inr (by decide)⟩
    | cons f fs => exact ⟨'{', rfl, .inr (by decide)⟩

lemma startsValue_prettyItems (level : Nat) {v : Json} (vs : List Json)
    (hv : Tidy IsWhole room v) : StartsValue (prettyItems level (v :: vs)) := by
  cases vs with
  | nil => exact startsValue_prettyChars level hv
  | cons w vs =>
    rw [← List.append_nil (prettyItems level _), prettyItems_cons_cons]
    exact (startsValue_prettyChars level hv).append _

lemma startsValue_prettyFields (level : Nat) (f : String × Json) (fs : List (String × Json)) :
    StartsValue (prettyFields level (f :: fs)) := by
  cases fs with
  | nil => exact (startsValue_quoted f.1).append _
  | cons g fs =>
    rw [← List.append_nil (prettyFields level _), prettyFields_cons_cons]
    exact (startsValue_quoted f.1).append _

/-! ### Items and fields -/

lemma endsNumber_comma (cs : List Char) : EndsNumber (',' :: cs) := by
  rintro c ⟨⟩
  decide

lemma endsNumber_breakLine (level : Nat) (cs : List Char) : EndsNumber (breakLine level ++ cs) := by
  rintro c ⟨⟩
  decide

/-- The reader `value` reads `v` back from its layout at this level. -/
def Rereads (value : List Char → Option (Json × List Char)) (level : Nat) (v : Json) : Prop :=
  ∀ rest, EndsNumber rest → value (prettyChars level v ++ rest) = some (v, rest)

variable {value : List Char → Option (Json × List Char)}

lemma itemsWith_prettyItems {v : Json} {vs : List Json}
    (hitems : ∀ w ∈ v :: vs, Tidy IsWhole room w ∧ Rereads value level w)
    (hcs : skipBlanks cs = prettyItems level (v :: vs) ++ (breakLine outer ++ ']' :: rest)) :
    itemsWith value cs = some (v :: vs, rest) := by
  induction vs generalizing v cs with
  | nil =>
    have hread := (hitems v List.mem_cons_self).2 _ (endsNumber_breakLine outer (']' :: rest))
    refine itemsWith_eq_some_iff.mpr ⟨v, _, hcs ▸ hread, .inr ⟨?_, rfl⟩⟩
    rw [skipBlanks_breakLine]
    rfl
  | cons w vs ih =>
    obtain ⟨⟨-, hread⟩, hvs⟩ := List.forall_mem_cons.mp hitems
    rw [prettyItems_cons_cons] at hcs
    refine itemsWith_eq_some_iff.mpr ⟨v, _, hcs ▸ hread _ (endsNumber_comma _),
      .inl ⟨_, w :: vs, rfl, length_lt_of_skipBlanks hcs, ih hvs ?_, rfl⟩⟩
    rw [skipBlanks_breakLine]
    exact ((startsValue_prettyItems level vs (hitems w (by simp)).1).append _).skipBlanks_eq

/-- The name of a field and its colon. -/
lemma fieldName_quoted {name : String} (hcs : skipBlanks cs = quoted name ++ ':' :: rest) :
    fieldName cs = some (name, rest) := by
  obtain ⟨body, hquoted, hbody⟩ := stringBody_quoted name (':' :: rest)
  have hcolon : skipBlanks (':' :: rest) = ':' :: rest := rfl
  rw [fieldName, hcs, hquoted]
  simp only [hbody, hcolon, String.ofList_toList]

/-- The blank before the value of a field is skipped. -/
lemma Rereads.behind_name {v : Json} (h : Rereads value level v) (hv : Tidy IsWhole room v)
    (hrest : EndsNumber rest) :
    value (skipBlanks (' ' :: (prettyChars level v ++ rest))) = some (v, rest) := by
  have hskip : skipBlanks (' ' :: (prettyChars level v ++ rest)) = prettyChars level v ++ rest :=
    ((startsValue_prettyChars level hv).append rest).skipBlanks_eq
  rw [hskip, h rest hrest]

lemma fieldsWith_prettyFields {f : String × Json} {fs : List (String × Json)}
    (hfields : ∀ g ∈ f :: fs, Tidy IsWhole room g.2 ∧ Rereads value level g.2)
    (hcs : skipBlanks cs = prettyFields level (f :: fs) ++ (breakLine outer ++ '}' :: rest)) :
    fieldsWith value cs = some (f :: fs, rest) := by
  induction fs generalizing f cs with
  | nil =>
    obtain ⟨hv, hread⟩ := hfields f List.mem_cons_self
    rw [prettyFields_singleton] at hcs
    refine fieldsWith_eq_some_iff.mpr ⟨f.1, _, f.2, _, fieldName_quoted hcs,
      hread.behind_name hv (endsNumber_breakLine outer ('}' :: rest)), .inr ⟨?_, rfl⟩⟩
    rw [skipBlanks_breakLine]
    rfl
  | cons g fs ih =>
    obtain ⟨⟨hv, hread⟩, hfs⟩ := List.forall_mem_cons.mp hfields
    rw [prettyFields_cons_cons] at hcs
    refine fieldsWith_eq_some_iff.mpr ⟨f.1, _, f.2, _, fieldName_quoted hcs,
      hread.behind_name hv (endsNumber_comma _), .inl ⟨_, g :: fs, rfl, ?_, ih hfs ?_, rfl⟩⟩
    · rw [← List.cons_append, ← List.cons_append, ← List.append_assoc] at hcs
      exact length_lt_of_skipBlanks hcs
    · rw [skipBlanks_breakLine]
      exact ((startsValue_prettyFields level g fs).append _).skipBlanks_eq

/-! ### What the first character decides -/

lemma valueIn_null (room : Nat) (cs : List Char) :
    valueIn room ('n' :: cs) = (expect? "ull".toList cs).map fun rest => (.null, rest) := by
  cases room <;> rfl

lemma valueIn_false (room : Nat) (cs : List Char) :
    valueIn room ('f' :: cs) = (expect? "alse".toList cs).map fun rest => (.bool false, rest) := by
  cases room <;> rfl

lemma valueIn_true (room : Nat) (cs : List Char) :
    valueIn room ('t' :: cs) = (expect? "rue".toList cs).map fun rest => (.bool true, rest) := by
  cases room <;> rfl

lemma valueIn_quote (room : Nat) (cs : List Char) :
    valueIn room ('"' :: cs) =
      (stringBody [] cs).map fun (s, rest) => (.str (String.ofList s), rest) := by
  cases room <;> rfl

lemma valueIn_minus (room : Nat) (cs : List Char) :
    valueIn room ('-' :: cs) = (numberBody true cs).map fun (n, rest) => (.num n, rest) := by
  cases room <;> rfl

lemma valueIn_of_isDigit (room : Nat) {c : Char} (hc : c.isDigit = true) (cs : List Char) :
    valueIn room (c :: cs) = (numberBody false (c :: cs)).map fun (n, rest) => (.num n, rest) := by
  unfold valueIn
  split
  case h_10 => rfl
  all_goals
    rename_i heq
    cases heq
    exact absurd hc (by decide)

/-- Items follow a bracket that is not closed at once. -/
lemma valueIn_bracket (room : Nat) (h : ∀ after, skipBlanks cs ≠ ']' :: after) :
    valueIn (room + 1) ('[' :: cs) =
      (itemsWith (valueIn room) (skipBlanks cs)).map fun (vs, rest) => (.arr vs, rest) := by
  -- this stops at the text behind the bracket, which only `h` says anything about
  conv_lhs => whnf
  split
  · rename_i heq
    exact absurd heq (h _)
  · rfl

/-- Fields follow a brace that is not closed at once. -/
lemma valueIn_brace (room : Nat) (h : ∀ after, skipBlanks cs ≠ '}' :: after) :
    valueIn (room + 1) ('{' :: cs) =
      (fieldsWith (valueIn room) (skipBlanks cs)).map fun (fs, rest) => (object fs, rest) := by
  conv_lhs => whnf
  split
  · rename_i heq
    exact absurd heq (h _)
  · rfl

/-! ### Values -/

lemma expect?_append (word rest : List Char) : expect? word (word ++ rest) = some rest := by
  induction word with
  | nil => rfl
  | cons c word ih => rw [List.cons_append, expect?, if_pos rfl, ih]

lemma rereads_int (room level : Nat) {n : Int} (hn : IsInteger64 n) :
    Rereads (valueIn room) level (.num (.int n)) := by
  intro rest hrest
  change valueIn room ((numberText (.int n)).toList ++ rest) = _
  rw [toList_numberText_int]
  split
  · rename_i hneg
    have hbody := numberBody_toDigits
      (integer?_eq_some_iff.mpr ⟨hn, rfl, by simpa using hneg⟩ : integer? true _ = _) hrest
    rw [List.cons_append, valueIn_minus, hbody, Option.map_some]
  · rename_i hpos
    have hbody := numberBody_toDigits
      (integer?_eq_some_iff.mpr ⟨hn, rfl, by simpa using hpos⟩ : integer? false _ = _) hrest
    obtain ⟨c, cs, hdigits⟩ := List.exists_cons_of_ne_nil
      (Nat.toDigits_ne_nil (b := 10) (n := n.natAbs))
    have hc : c ∈ Nat.toDigits 10 n.natAbs := hdigits ▸ List.mem_cons_self
    rw [hdigits, List.cons_append] at hbody ⊢
    rw [valueIn_of_isDigit room (Nat.isDigit_of_mem_toDigits (by decide) (by decide) hc), hbody,
      Option.map_some]

lemma rereads_arr {v : Json} {vs : List Json}
    (hitems : ∀ w ∈ v :: vs, Tidy IsWhole room w ∧ Rereads (valueIn room) (level + 1) w) :
    Rereads (valueIn (room + 1)) level (.arr (v :: vs)) := by
  intro rest hrest
  have hstart := (startsValue_prettyItems (level + 1) vs (hitems v List.mem_cons_self).1).append
    (breakLine level ++ ']' :: rest)
  have hskip := (skipBlanks_breakLine (level + 1) _).trans hstart.skipBlanks_eq
  have hread : itemsWith (valueIn room) _ = some (v :: vs, rest) :=
    itemsWith_prettyItems hitems hstart.skipBlanks_eq
  rw [prettyChars_arr, valueIn_bracket, hskip, hread, Option.map_some]
  intro after
  rw [hskip]
  exact hstart.ne_cons (.inl rfl)

lemma rereads_obj {f : String × Json} {fs : List (String × Json)}
    (hnames : (f :: fs).Pairwise fun g h => compare g.1 h.1 = .lt)
    (hfields : ∀ g ∈ f :: fs, Tidy IsWhole room g.2 ∧ Rereads (valueIn room) (level + 1) g.2) :
    Rereads (valueIn (room + 1)) level (.obj (f :: fs)) := by
  intro rest hrest
  have hstart := (startsValue_prettyFields (level + 1) f fs).append (breakLine level ++ '}' :: rest)
  have hskip := (skipBlanks_breakLine (level + 1) _).trans hstart.skipBlanks_eq
  have hread : fieldsWith (valueIn room) _ = some (f :: fs, rest) :=
    fieldsWith_prettyFields hfields hstart.skipBlanks_eq
  rw [prettyChars_obj, valueIn_brace, hskip, hread, Option.map_some]
  · simp only [object, Keyed.ofList_of_ascending hnames]
  · intro after
    rw [hskip]
    exact hstart.ne_cons (.inr rfl)

/-- A value is read back, whatever is behind it. -/
lemma rereads_valueIn {v : Json} (h : Tidy IsWhole room v) (level : Nat) :
    Rereads (valueIn room) level v := by
  induction h generalizing level with
  | null room =>
    intro rest hrest
    change valueIn room ('n' :: ("ull".toList ++ rest)) = _
    rw [valueIn_null, expect?_append, Option.map_some]
  | bool room b =>
    intro rest hrest
    cases b with
    | false =>
      change valueIn room ('f' :: ("alse".toList ++ rest)) = _
      rw [valueIn_false, expect?_append, Option.map_some]
    | true =>
      change valueIn room ('t' :: ("rue".toList ++ rest)) = _
      rw [valueIn_true, expect?_append, Option.map_some]
  | @num room n hn =>
    cases n with
    | double d => cases hn
    | int n => exact rereads_int room level hn
  | str room s =>
    intro rest hrest
    obtain ⟨cs, hquoted, hbody⟩ := stringBody_quoted s rest
    change valueIn room (quoted s ++ rest) = _
    rw [hquoted, valueIn_quote, hbody, Option.map_some]
    simp only [String.ofList_toList]
  | @arr room items hitems ih =>
    cases items with
    | nil =>
      intro rest hrest
      rfl
    | cons v vs => exact rereads_arr fun w hw => ⟨hitems w hw, ih w hw (level + 1)⟩
  | @obj room fields hnames hvalues ih =>
    cases fields with
    | nil =>
      intro rest hrest
      rfl
    | cons f fs => exact rereads_obj hnames fun g hg => ⟨hvalues g hg, ih g hg (level + 1)⟩

/-- A tidy value of integers is read back from its pretty layout. -/
theorem parse_pretty {v : Json} (h : Tidy IsWhole 127 v) : parse v.pretty = some v := by
  have hread := rereads_valueIn h 0 [] endsNumber_nil
  rw [List.append_nil] at hread
  rw [parse, pretty, String.toList_ofList, (startsValue_prettyChars 0 h).skipBlanks_eq, hread]
  rfl

end Outline.Json
