import Mathlib.Data.List.Basic
import Outline.Json.Parser
import Outline.Json.Printer

/-!
# Scalars that are read back

A string is read back from its escaped characters, and an integer of 64 bits from its digits. An
integer needs a text behind it that cannot be taken for more of the number.
-/

namespace Outline.Json

/-! ### Strings -/

lemma hex4?_control {n : Nat} (h : n < 0x20) :
    hex4? '0' '0' (hexDigit (n / 16)) (hexDigit n) = some n := by
  have hall : ∀ n < 0x20, hex4? '0' '0' (hexDigit (n / 16)) (hexDigit n) = some n := by decide
  exact hall n h

/-- Four digits that are no part of a surrogate pair stand for a character. -/
lemma stringBody_hex (done : List Char) {a b c d : Char} {n : Nat} (hn : hex4? a b c d = some n)
    (hhigh : isHighSurrogate n = false) (hlow : isLowSurrogate n = false) (rest : List Char) :
    stringBody done ('\\' :: 'u' :: a :: b :: c :: d :: rest) =
      stringBody (Char.ofNat n :: done) rest := by
  rw [stringBody, hn]
  simp only [hhigh, hlow]
  rfl

/-- A character that is neither a quote nor a backslash nor a control character is itself. -/
lemma stringBody_self (done : List Char) {c : Char} (hquote : c ≠ '"') (hbackslash : c ≠ '\\')
    (hcontrol : ¬c.toNat < 0x20) (rest : List Char) :
    stringBody done (c :: rest) = stringBody (c :: done) rest := by
  rw [stringBody.eq_def]
  split
  case h_4 heq =>
    cases heq
    exact if_neg hcontrol
  case h_5 heq => cases heq
  all_goals
    rename_i heq
    have hc := (List.cons.inj heq).1
    contradiction

/-- What a character is escaped to is read as that character. -/
lemma stringBody_escape (done : List Char) (c : Char) (cs : List Char) :
    stringBody done (escape c ++ cs) = stringBody (c :: done) cs := by
  rw [escape]
  by_cases hquote : c = '"'
  · rw [if_pos hquote, hquote]
    rfl
  rw [if_neg hquote]
  by_cases hbackslash : c = '\\'
  · rw [if_pos hbackslash, hbackslash]
    rfl
  rw [if_neg hbackslash]
  by_cases hfeed : c = '\n'
  · rw [if_pos hfeed, hfeed]
    rfl
  rw [if_neg hfeed]
  by_cases hreturn : c = '\r'
  · rw [if_pos hreturn, hreturn]
    rfl
  rw [if_neg hreturn]
  by_cases htab : c = '\t'
  · rw [if_pos htab, htab]
    rfl
  rw [if_neg htab]
  by_cases hbackspace : c.toNat = 0x08
  · rw [if_pos hbackspace, ← Char.ofNat_toNat c, hbackspace]
    rfl
  rw [if_neg hbackspace]
  by_cases hformFeed : c.toNat = 0x0C
  · rw [if_pos hformFeed, ← Char.ofNat_toNat c, hformFeed]
    rfl
  rw [if_neg hformFeed]
  by_cases hcontrol : c.toNat < 0x20
  · have hhigh : isHighSurrogate c.toNat = false := by
      simp only [isHighSurrogate, Bool.and_eq_false_iff, decide_eq_false_iff_not]
      omega
    have hlow : isLowSurrogate c.toNat = false := by
      simp only [isLowSurrogate, Bool.and_eq_false_iff, decide_eq_false_iff_not]
      omega
    rw [if_pos hcontrol]
    exact (stringBody_hex done (hex4?_control hcontrol) hhigh hlow cs).trans
      (by rw [Char.ofNat_toNat])
  · rw [if_neg hcontrol]
    exact stringBody_self done hquote hbackslash hcontrol cs

lemma stringBody_flatMap_escape (done cs rest : List Char) :
    stringBody done (cs.flatMap escape ++ '"' :: rest) = some (done.reverse ++ cs, rest) := by
  induction cs generalizing done with
  | nil =>
    rw [List.flatMap_nil, List.nil_append, List.append_nil]
    rfl
  | cons c cs ih =>
    rw [List.flatMap_cons, List.append_assoc, stringBody_escape, ih, List.reverse_cons,
      List.append_assoc, List.singleton_append]

/-- The text of a string behind its opening quote. -/
lemma stringBody_quoted (s : String) (rest : List Char) :
    ∃ cs, quoted s ++ rest = '"' :: cs ∧ stringBody [] cs = some (s.toList, rest) := by
  refine ⟨s.toList.flatMap escape ++ '"' :: rest, by simp [quoted], ?_⟩
  rw [stringBody_flatMap_escape, List.reverse_nil, List.nil_append]

/-! ### Integers -/

/-- The text cannot be taken for more of a number before it. -/
def EndsNumber (rest : List Char) : Prop :=
  ∀ c ∈ rest.head?, c.isDigit = false ∧ c ≠ '.' ∧ c ≠ 'e' ∧ c ≠ 'E'

lemma endsNumber_nil : EndsNumber [] := nofun

lemma digitValue?_of_isDigit {c : Char} (h : c.isDigit = true) :
    digitValue? c = some (c.toNat - 0x30) := by
  rw [Char.isDigit_iff_toNat] at h
  exact if_pos (by simpa [Char.le_def, UInt32.le_iff_toNat_le] using h)

/-- The digits of a text of digits. -/
def digitsOf (cs : List Char) : List Nat := cs.map fun c => c.toNat - 0x30

lemma takeDigits_append {cs rest : List Char} (hcs : ∀ c ∈ cs, c.isDigit = true)
    (hrest : EndsNumber rest) : takeDigits (cs ++ rest) = (digitsOf cs, rest) := by
  have hvalues : cs.filterMap digitValue? = digitsOf cs := by
    rw [digitsOf, ← List.filterMap_eq_map]
    exact List.filterMap_congr fun c hc => digitValue?_of_isDigit (hcs c hc)
  have hstop : rest.takeWhile Char.isDigit = [] ∧ rest.dropWhile Char.isDigit = rest := by
    cases rest with
    | nil => exact ⟨rfl, rfl⟩
    | cons c rest => simp [(hrest c rfl).1]
  rw [takeDigits, List.takeWhile_append_of_pos hcs, List.dropWhile_append_of_pos hcs, hstop.1,
    hstop.2, List.append_nil, hvalues]

lemma digitsValue_digitsOf (cs : List Char) :
    digitsValue (digitsOf cs) = Nat.ofDigitChars 10 cs 0 := by
  rw [digitsValue, digitsOf, List.foldl_map, Nat.ofDigitChars_eq_foldl]
  simp only [Nat.mul_comm 10]
  rfl

/-- A number above zero is written without a zero at the front. -/
lemma head?_toDigits_ne {n : Nat} (h : 0 < n) : (Nat.toDigits 10 n).head? ≠ some '0' := by
  induction n using Nat.strongRecOn with
  | _ n ih =>
    by_cases hn : n < 10
    · have hall : ∀ n < 10, 0 < n → Nat.digitChar n ≠ '0' := by decide
      rw [Nat.toDigits_of_lt_base hn]
      exact fun heq => hall n hn h (Option.some.inj heq)
    · rw [Nat.toDigits_of_base_le (by decide) (by omega), List.head?_append_of_ne_nil]
      · exact ih (n / 10) (by omega) (by omega)
      · exact Nat.toDigits_ne_nil

lemma digitsOf_toDigits_ne (n : Nat) (d : Nat) (ds : List Nat) :
    digitsOf (Nat.toDigits 10 n) ≠ 0 :: d :: ds := by
  intro heq
  obtain ⟨c, cs, hdigits, hzero, hrest⟩ := List.map_eq_cons_iff.mp heq
  rcases Nat.eq_zero_or_pos n with rfl | hpos
  · rw [Nat.toDigits_of_lt_base (by decide)] at hdigits
    cases hdigits
    cases hrest
  · refine head?_toDigits_ne hpos ?_
    have hmem : c ∈ Nat.toDigits 10 n := hdigits ▸ List.mem_cons_self
    have hdigit := Char.isDigit_iff_toNat.mp
      (Nat.isDigit_of_mem_toDigits (by decide) (by decide) hmem)
    have hcode : c.toNat = '0'.toNat := Nat.le_antisymm (Nat.sub_eq_zero_iff_le.mp hzero) hdigit.1
    rw [hdigits, List.head?_cons, Char.toNat_inj.mp hcode]

lemma wholePart_toDigits (n : Nat) {rest : List Char} (hrest : EndsNumber rest) :
    wholePart (Nat.toDigits 10 n ++ rest) = some (digitsOf (Nat.toDigits 10 n), rest) := by
  have hdigits : ∀ c ∈ Nat.toDigits 10 n, c.isDigit = true :=
    fun c hc => Nat.isDigit_of_mem_toDigits (by decide) (by decide) hc
  unfold wholePart
  rw [takeDigits_append hdigits hrest]
  split
  · rename_i heq
    exact absurd (List.map_eq_nil_iff.mp (congrArg Prod.fst heq)) Nat.toDigits_ne_nil
  · rename_i heq
    exact absurd (congrArg Prod.fst heq) (digitsOf_toDigits_ne n _ _)
  · rfl

lemma fractionPart_of_endsNumber {rest : List Char} (h : EndsNumber rest) :
    fractionPart rest = some (none, rest) := by
  cases rest with
  | nil => rfl
  | cons c rest =>
    unfold fractionPart
    split
    · rename_i heq
      cases heq
      exact absurd rfl (h '.' rfl).2.1
    · rfl

lemma exponentPart_of_endsNumber {rest : List Char} (h : EndsNumber rest) :
    exponentPart rest = some (none, rest) := by
  cases rest with
  | nil => rfl
  | cons c rest =>
    have hc := h c rfl
    simp [exponentPart, hc.2.2.1, hc.2.2.2]

/-- A number is read as an integer when it has neither a fraction nor an exponent and fits. -/
lemma numberBody_int_eq_some_iff {negative : Bool} {cs rest : List Char} {n : Int} :
    numberBody negative cs = some (.int n, rest) ↔ ∃ whole after behind,
      wholePart cs = some (whole, after) ∧ fractionPart after = some (none, behind) ∧
        exponentPart behind = some (none, rest) ∧
        integer? negative (digitsValue whole) = some n := by
  unfold numberBody
  constructor
  · intro h
    simp only [Option.bind_eq_bind, Option.bind_eq_some_iff] at h
    obtain ⟨⟨whole, after⟩, hwhole, ⟨fraction, behind⟩, hfraction, ⟨exponent, rest'⟩, hexponent,
      h⟩ := h
    split at h
    · rename_i value hvalue
      cases h
      obtain ⟨hnone, hvalue⟩ := Option.ite_none_right_eq_some.mp hvalue
      simp only [Bool.and_eq_true, Option.isNone_iff_eq_none] at hnone
      obtain ⟨rfl, rfl⟩ := hnone
      exact ⟨whole, after, behind, hwhole, hfraction, hexponent, hvalue⟩
    · obtain ⟨d, -, hd⟩ := Option.bind_eq_some_iff.mp h
      cases hd
  · rintro ⟨whole, after, behind, hwhole, hfraction, hexponent, hvalue⟩
    simp only [hwhole, hfraction, hexponent, hvalue, Option.bind_eq_bind, Option.bind_some,
      Option.isNone_none, Bool.and_self, if_true]
    rfl

lemma numberBody_toDigits {negative : Bool} {n : Nat} {value : Int} {rest : List Char}
    (hvalue : integer? negative n = some value) (hrest : EndsNumber rest) :
    numberBody negative (Nat.toDigits 10 n ++ rest) = some (.int value, rest) := by
  rw [numberBody_int_eq_some_iff]
  refine ⟨_, rest, rest, wholePart_toDigits n hrest, fractionPart_of_endsNumber hrest,
    exponentPart_of_endsNumber hrest, ?_⟩
  rwa [digitsValue_digitsOf, Nat.ofDigitChars_ten_toDigits]

/-- An integer of 64 bits, with or without a sign. -/
def IsInteger64 (n : Int) : Prop := -0x8000000000000000 ≤ n ∧ n < UInt64.size

lemma integer?_eq_some_iff {negative : Bool} {n : Nat} {value : Int} :
    integer? negative n = some value ↔
      IsInteger64 value ∧ n = value.natAbs ∧ (negative = true ↔ value < 0) := by
  have hsize : UInt64.size = 18446744073709551616 := rfl
  unfold integer? IsInteger64
  cases negative with
  | true =>
    rw [if_pos rfl, Option.ite_none_right_eq_some]
    simp only [Bool.and_eq_true, decide_eq_true_eq, Option.some.injEq, true_iff]
    omega
  | false =>
    rw [if_neg Bool.false_ne_true, Option.ite_none_right_eq_some]
    simp only [Option.some.injEq, Bool.false_eq_true, false_iff]
    omega

lemma toList_numberText_int (n : Int) : (numberText (.int n)).toList =
    if n < 0 then '-' :: Nat.toDigits 10 n.natAbs else Nat.toDigits 10 n.natAbs := by
  have htext : numberText (.int n) = if 0 ≤ n then n.toNat.repr else "-" ++ (-n).toNat.repr :=
    Int.repr_eq_if
  by_cases hn : n < 0
  · have hsign : "-".toList = ['-'] := rfl
    rw [htext, if_neg (by omega), if_pos hn, String.toList_append, hsign,
      Nat.repr_eq_ofList_toDigits, String.toList_ofList, show (-n).toNat = n.natAbs by omega]
    rfl
  · rw [htext, if_pos (by omega), if_neg hn, Nat.repr_eq_ofList_toDigits, String.toList_ofList,
      show n.toNat = n.natAbs by omega]

end Outline.Json
