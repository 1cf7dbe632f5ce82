import Outline.Text.Hex

/-!
# UTF-8

Text as bytes, and bytes shown as text. Bytes that are no text are shown with the replacement
character: one for each longest piece that could have begun a character.
-/

namespace Outline

/-- The UTF-8 form of a text. -/
def utf8Bytes (s : String) : List UInt8 := s.toList.flatMap String.utf8EncodeChar

/-- What a first byte announces: how many bytes follow, the bounds of the next one, and the bits
the first byte brings. `none` for a byte that begins no character. -/
def leadByte (b : UInt8) : Option (Nat × UInt8 × UInt8 × Nat) :=
  if b < 0x80 then some (0, 0x80, 0xBF, b.toNat)
  else if b < 0xC2 then none
  else if b < 0xE0 then some (1, 0x80, 0xBF, b.toNat - 0xC0)
  else if b = 0xE0 then some (2, 0xA0, 0xBF, 0)
  else if b = 0xED then some (2, 0x80, 0x9F, 0xD)
  else if b < 0xF0 then some (2, 0x80, 0xBF, b.toNat - 0xE0)
  else if b = 0xF0 then some (3, 0x90, 0xBF, 0)
  else if b < 0xF4 then some (3, 0x80, 0xBF, b.toNat - 0xF0)
  else if b = 0xF4 then some (3, 0x80, 0x8F, 4)
  else none

/-- Reads `count` following bytes, the first of them between `low` and `high`. Gives the code point,
if all are there, and the bytes left. -/
def followBytes : (count : Nat) → (low high : UInt8) → (value : Nat) → List UInt8 →
    Option Nat × List UInt8
  | 0,         _,   _,    value, bs      => (some value, bs)
  | _ + 1,     _,   _,    _,     []      => (none, [])
  | count + 1, low, high, value, b :: bs =>
    if low ≤ b && b ≤ high then followBytes count 0x80 0xBF (value * 64 + b.toNat % 64) bs
    else (none, b :: bs)

theorem followBytes_length_le (count : Nat) (low high : UInt8) (value : Nat) (bs : List UInt8) :
    (followBytes count low high value bs).2.length ≤ bs.length := by
  induction bs generalizing count low high value with
  | nil => cases count <;> simp [followBytes]
  | cons b bs ih =>
    cases count with
    | zero => simp [followBytes]
    | succ count =>
      simp only [followBytes]
      split
      · exact Nat.le_succ_of_le (ih ..)
      · simp

/-- The character shown for bytes that are no text. -/
def replacementChar : Char := Char.ofNat 0xFFFD

/-- Bytes as text, with the replacement character for what is no text. -/
def decodeLossy : List UInt8 → List Char
  | []      => []
  | b :: bs =>
    match leadByte b with
    | none => replacementChar :: decodeLossy bs
    | some (count, low, high, value) =>
      let r := followBytes count low high value bs
      (r.1.map Char.ofNat).getD replacementChar :: decodeLossy r.2
termination_by bs => bs.length
decreasing_by
  · simp
  · have := followBytes_length_le count low high value bs
    simp only [List.length_cons]
    omega

/-- Bytes as text, for showing. -/
def lossyText (bytes : List UInt8) : String := String.ofList (decodeLossy bytes)

end Outline
