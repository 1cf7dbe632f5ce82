/-!
# Hexadecimal digits

Bytes written as two digits each, and read back.
-/

namespace Outline

/-- A lower case digit. -/
def hexDigit (n : Nat) : Char := Nat.digitChar (n % 16)

/-- An upper case digit. -/
def upperHexDigit (n : Nat) : Char := (hexDigit n).toUpper

/-- The value of a digit, in either case. -/
def hexValue? (c : Char) : Option Nat :=
  let n := c.toNat
  if 0x30 ≤ n && n ≤ 0x39 then some (n - 0x30)
  else if 0x41 ≤ n && n ≤ 0x46 then some (n - 0x41 + 10)
  else if 0x61 ≤ n && n ≤ 0x66 then some (n - 0x61 + 10)
  else none

/-- Bytes as lower case digits. -/
def hexText (bytes : List UInt8) : String :=
  String.ofList (bytes.flatMap fun b => [hexDigit (b.toNat / 16), hexDigit b.toNat])

/-- Reads digits, two a byte. -/
def hexBytes? : List Char → Option (List UInt8)
  | []           => some []
  | [_]          => none
  | a :: b :: cs => do
    let byte := UInt8.ofNat ((← hexValue? a) * 16 + (← hexValue? b))
    return byte :: (← hexBytes? cs)

end Outline
