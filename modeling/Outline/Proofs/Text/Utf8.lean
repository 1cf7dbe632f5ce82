import Mathlib.Data.List.Basic
import Outline.Text.Utf8

/-!
# Text shown as it is

The bytes of a text are shown as that text: each character is read back from its bytes, and no
replacement character comes in. Parts of a text between ASCII separators are texts again.
-/

namespace Outline

/-! ### One character -/

/-- The bounds of a first byte in numbers. -/
lemma leadByte_ofNat {n : Nat} (hn : n < 256) :
    leadByte (UInt8.ofNat n) =
      if n < 0x80 then some (0, 0x80, 0xBF, n)
      else if n < 0xC2 then none
      else if n < 0xE0 then some (1, 0x80, 0xBF, n - 0xC0)
      else if n = 0xE0 then some (2, 0xA0, 0xBF, 0)
      else if n = 0xED then some (2, 0x80, 0x9F, 0xD)
      else if n < 0xF0 then some (2, 0x80, 0xBF, n - 0xE0)
      else if n = 0xF0 then some (3, 0x90, 0xBF, 0)
      else if n < 0xF4 then some (3, 0x80, 0xBF, n - 0xF0)
      else if n = 0xF4 then some (3, 0x80, 0x8F, 4)
      else none := by
  have hvalue : (UInt8.ofNat n).toNat = n := by simp [hn]
  simp only [leadByte, UInt8.lt_iff_toNat_lt, ← UInt8.toNat_inj, hvalue]
  rfl

/-- A following byte within the bounds brings its last six bits. -/
lemma followBytes_ofNat {low high : UInt8} {n : Nat} (hlow : low.toNat ≤ n % 64 + 128)
    (hhigh : n % 64 + 128 ≤ high.toNat) (count value : Nat) (bs : List UInt8) :
    followBytes (count + 1) low high value (UInt8.ofNat (n % 64 + 128) :: bs) =
      followBytes count 0x80 0xBF (value * 64 + n % 64) bs := by
  have hvalue : (UInt8.ofNat (n % 64 + 128)).toNat = n % 64 + 128 := by
    simp only [UInt8.toNat_ofNat']
    omega
  have hwithin : (decide (low ≤ UInt8.ofNat (n % 64 + 128)) &&
      decide (UInt8.ofNat (n % 64 + 128) ≤ high)) = true := by
    simp only [UInt8.le_iff_toNat_le, hvalue, hlow, hhigh, decide_true, Bool.and_self]
  have hbits : (n % 64 + 128) % 64 = n % 64 := by omega
  rw [followBytes, if_pos hwithin, hvalue, hbits]

/-- In the middle of a character any following byte is within the bounds. -/
lemma followBytes_next (count value n : Nat) (bs : List UInt8) :
    followBytes (count + 1) 0x80 0xBF value (UInt8.ofNat (n % 64 + 128) :: bs) =
      followBytes count 0x80 0xBF (value * 64 + n % 64) bs := by
  refine followBytes_ofNat ?_ ?_ count value bs
  · exact Nat.le_add_left 128 _
  · have := Nat.mod_lt n (by decide : 64 > 0)
    change n % 64 + 128 ≤ 191
    omega

/-- The first of three bytes announces two more, and leaves out forms that are too long and the code
points that are no characters. -/
lemma leadByte_of_three {n : Nat} (hlow : 0x800 ≤ n) (hhigh : n ≤ 0xFFFF)
    (hvalid : n < 0xD800 ∨ 0xDFFF < n) :
    ∃ low high : UInt8, leadByte (UInt8.ofNat (n / 4096 % 16 + 224)) =
        some (2, low, high, n / 4096 % 16) ∧
      low.toNat ≤ n / 64 % 64 + 128 ∧ n / 64 % 64 + 128 ≤ high.toNat := by
  rw [leadByte_ofNat (by omega)]
  by_cases hfirst : n / 4096 % 16 = 0
  · exact ⟨0xA0, 0xBF, by simp [hfirst], by change 160 ≤ _; omega, by change _ ≤ 191; omega⟩
  · by_cases hlast : n / 4096 % 16 = 13
    · exact ⟨0x80, 0x9F, by simp [hlast], by change 128 ≤ _; omega, by change _ ≤ 159; omega⟩
    · refine ⟨0x80, 0xBF, ?_, by change 128 ≤ _; omega, by change _ ≤ 191; omega⟩
      rw [if_neg (by omega), if_neg (by omega), if_neg (by omega), if_neg (by omega),
        if_neg (by omega), if_pos (by omega), Nat.add_sub_cancel]

/-- The first of four bytes announces three more, and leaves out forms that are too long and what is
beyond the last code point. -/
lemma leadByte_of_four {n : Nat} (hlow : 0x10000 ≤ n) (hhigh : n ≤ 0x10FFFF) :
    ∃ low high : UInt8, leadByte (UInt8.ofNat (n / 262144 % 8 + 240)) =
        some (3, low, high, n / 262144 % 8) ∧
      low.toNat ≤ n / 4096 % 64 + 128 ∧ n / 4096 % 64 + 128 ≤ high.toNat := by
  rw [leadByte_ofNat (by omega)]
  by_cases hfirst : n / 262144 % 8 = 0
  · exact ⟨0x90, 0xBF, by simp [hfirst], by change 144 ≤ _; omega, by change _ ≤ 191; omega⟩
  · by_cases hlast : n / 262144 % 8 = 4
    · exact ⟨0x80, 0x8F, by simp [hlast], by change 128 ≤ _; omega, by change _ ≤ 143; omega⟩
    · refine ⟨0x80, 0xBF, ?_, by change 128 ≤ _; omega, by change _ ≤ 191; omega⟩
      rw [if_neg (by omega), if_neg (by omega), if_neg (by omega), if_neg (by omega),
        if_neg (by omega), if_neg (by omega), if_neg (by omega), if_pos (by omega),
        Nat.add_sub_cancel]

lemma decodeLossy_cons {b low high : UInt8} {count value : Nat}
    (h : leadByte b = some (count, low, high, value)) (bs : List UInt8) :
    decodeLossy (b :: bs) =
      ((followBytes count low high value bs).1.map Char.ofNat).getD replacementChar ::
        decodeLossy (followBytes count low high value bs).2 := by
  rw [decodeLossy, h]

/-- A character is read back from its bytes, whatever follows them. -/
lemma decodeLossy_utf8EncodeChar_append (c : Char) (rest : List UInt8) :
    decodeLossy (String.utf8EncodeChar c ++ rest) = c :: decodeLossy rest := by
  have hchar : Char.ofNat c.val.toNat = c := Char.ofNat_toNat c
  have hvalid : c.val.toNat < 0xD800 ∨ 0xDFFF < c.val.toNat ∧ c.val.toNat < 0x110000 := c.valid
  unfold String.utf8EncodeChar
  generalize c.val.toNat = n at hchar hvalid
  dsimp only
  split
  · rw [List.singleton_append, decodeLossy_cons (by rw [leadByte_ofNat (by omega), if_pos (by omega)]),
      followBytes]
    simp [hchar]
  split
  · have hlead : leadByte (UInt8.ofNat (n / 64 % 32 + 192)) = some (1, 0x80, 0xBF, n / 64 % 32) := by
      rw [leadByte_ofNat (by omega), if_neg (by omega), if_neg (by omega), if_pos (by omega),
        Nat.add_sub_cancel]
    have hvalue : n / 64 % 32 * 64 + n % 64 = n := by omega
    simp only [List.cons_append, List.nil_append]
    rw [decodeLossy_cons hlead, followBytes_next, followBytes, hvalue]
    simp [hchar]
  split
  · obtain ⟨low, high, hlead, hlow, hhigh⟩ :=
      leadByte_of_three (n := n) (by omega) (by omega) (by omega)
    have hvalue : (n / 4096 % 16 * 64 + n / 64 % 64) * 64 + n % 64 = n := by omega
    simp only [List.cons_append, List.nil_append]
    rw [decodeLossy_cons hlead, followBytes_ofNat hlow hhigh, followBytes_next, followBytes, hvalue]
    simp [hchar]
  · obtain ⟨low, high, hlead, hlow, hhigh⟩ := leadByte_of_four (n := n) (by omega) (by omega)
    have hvalue : ((n / 262144 % 8 * 64 + n / 4096 % 64) * 64 + n / 64 % 64) * 64 + n % 64 = n := by
      omega
    simp only [List.cons_append, List.nil_append]
    rw [decodeLossy_cons hlead, followBytes_ofNat hlow hhigh, followBytes_next, followBytes_next,
      followBytes, hvalue]
    simp [hchar]

/-! ### Texts -/

lemma utf8Bytes_append (s t : String) : utf8Bytes (s ++ t) = utf8Bytes s ++ utf8Bytes t := by
  simp [utf8Bytes]

lemma decodeLossy_utf8Bytes (s : String) : decodeLossy (utf8Bytes s) = s.toList := by
  unfold utf8Bytes
  induction s.toList with
  | nil => rw [List.flatMap_nil, decodeLossy]
  | cons c cs ih => rw [List.flatMap_cons, decodeLossy_utf8EncodeChar_append, ih]

/-- A text is shown as it is. -/
lemma lossyText_utf8Bytes (s : String) : lossyText (utf8Bytes s) = s := by
  rw [lossyText, decodeLossy_utf8Bytes, String.ofList_toList]

/-- A text is read back from its bytes. -/
lemma fromUTF8?_toUTF8 (text : String) : String.fromUTF8? text.toUTF8 = some text := by
  unfold String.fromUTF8?
  rw [String.toUTF8_eq_toByteArray, dif_pos text.isValidUTF8]
  rfl

end Outline
