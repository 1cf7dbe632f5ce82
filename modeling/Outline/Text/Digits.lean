/-!
# Numbers in decimal digits
-/

namespace Outline

/-- A number of 64 bits in decimal digits, perhaps with a plus sign. -/
def number64? (cs : List Char) : Option Nat := do
  let digits :=
    match cs with
    | '+' :: cs => cs
    | cs        => cs
  guard (!digits.isEmpty && digits.all Char.isDigit)
  let n : Nat := digits.foldl (fun n c => n * 10 + (c.toNat - 0x30)) 0
  guard (n < UInt64.size)
  return n

end Outline
