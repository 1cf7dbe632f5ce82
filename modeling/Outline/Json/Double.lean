/-!
# Binary floating point numbers, exactly

A finite double is a sign and a number `mantissa · 2 ^ exponent`. Rounding is to the nearest such
number with ties to the even mantissa, computed on natural numbers, so every operation here is
exact arithmetic. Also here: the shortest decimal that rounds back to a double.
-/

namespace Outline

/-- A finite double: `mantissa · 2 ^ exponent` with `mantissa < 2 ^ 53` and
`-1074 ≤ exponent ≤ 971`. -/
structure Double where
  negative : Bool
  mantissa : Nat
  exponent : Int
  deriving DecidableEq, Repr, Inhabited

namespace Double

def zero : Double := ⟨false, 0, 0⟩

def neg (d : Double) : Double := { d with negative := !d.negative }

def isZero (d : Double) : Bool := d.mantissa == 0

/-! ### Rounding -/

/-- `2 ^ e` as a ratio of natural numbers. -/
def twoPower (e : Int) : Nat × Nat := (Nat.pow 2 e.toNat, Nat.pow 2 (-e).toNat)

/-- The quotient rounded to the nearest number, ties to even. -/
def roundedQuotient (n d : Nat) : Nat :=
  let q := n / d
  let r := n % d
  if 2 * r > d || (2 * r == d && q % 2 == 1) then q + 1 else q

/-- The exponent at which a positive ratio has a mantissa of 53 bits, or the least exponent. -/
def exponentOf (num den : Nat) : Int :=
  let e : Int := (num.log2 : Int) - den.log2 - 53
  let (up, down) := twoPower e
  let e := if num * down ≥ Nat.pow 2 53 * (den * up) then e + 1 else e
  max e (-1074)

/-- The double nearest to a ratio; `none` when it is too large. -/
def ofRatio (num den : Nat) : Option Double :=
  if num = 0 then some zero
  else
    let e := exponentOf num den
    let (up, down) := twoPower e
    let m := roundedQuotient (num * down) (den * up)
    let (m, e) := if m = Nat.pow 2 53 then (Nat.pow 2 52, e + 1) else (m, e)
    if e > 971 then none else some ⟨false, m, e⟩

/-- The double nearest to a natural number. -/
def ofNat (n : Nat) : Option Double := ofRatio n 1

/-- The product of two magnitudes, rounded. -/
def mul (a b : Double) : Option Double :=
  let (up, down) := twoPower (a.exponent + b.exponent)
  ofRatio (a.mantissa * b.mantissa * up) down

/-- The quotient of two magnitudes, rounded. -/
def div (a b : Double) : Option Double :=
  let (up, down) := twoPower (a.exponent - b.exponent)
  ofRatio (a.mantissa * up) (b.mantissa * down)

/-! ### Shortest decimals -/

/-- Number of decimal digits. -/
def digitCount (n : Nat) : Nat := (Nat.toDigits 10 n).length

/-- Position of the first decimal digit of a positive double: `10 ^ p ≤ d < 10 ^ (p + 1)`. -/
def decimalPosition (d : Double) : Int :=
  -- every double is at least `10 ^ -324`, so the shifted number keeps its first digits
  let (up, down) := twoPower d.exponent
  (digitCount (d.mantissa * up * Nat.pow 10 400 / down) : Int) - 401

/-- A decimal `digits · 10 ^ exponent`. -/
structure Decimal where
  digits   : Nat
  exponent : Int
  deriving DecidableEq, Repr

/-- The decimal of `n` digits nearest to a positive double, if it rounds back to it.

Quarters of the last binary place are the unit in which the ends of the interval of numbers that
round to the double are whole; they belong to it when the mantissa is even. -/
def decimal? (d : Double) (n : Nat) : Option Decimal :=
  let g := decimalPosition d - n + 1
  let (two, half) := twoPower (d.exponent - 2)
  let scaleD := Nat.pow 10 g.toNat * half
  let scaleX := two * Nat.pow 10 (-g).toNat
  let x := 4 * d.mantissa
  let lo := if d.mantissa = Nat.pow 2 52 && d.exponent > -1074 then x - 1 else x - 2
  let inside (c : Nat) : Bool :=
    if d.mantissa % 2 = 0 then lo * scaleX ≤ c * scaleD && c * scaleD ≤ (x + 2) * scaleX
    else lo * scaleX < c * scaleD && c * scaleD < (x + 2) * scaleX
  let f := x * scaleX / scaleD
  let r := x * scaleX % scaleD
  match inside f, inside (f + 1) with
  | true,  true  =>
    some ⟨if 2 * r > scaleD || (2 * r == scaleD && f % 2 == 1) then f + 1 else f, g⟩
  | true,  false => some ⟨f, g⟩
  | false, true  => some ⟨f + 1, g⟩
  | false, false => none

/-- Drops trailing zeros of the digits, at most `n` of them. -/
def Decimal.trim : (n : Nat) → Decimal → Decimal
  | 0,     x => x
  | n + 1, x => if x.digits % 10 = 0 then trim n ⟨x.digits / 10, x.exponent + 1⟩ else x

/-- The shortest decimal that rounds to a positive double, of those the nearest. -/
def shortest (d : Double) : Decimal :=
  ((List.range 17).findSome? fun n => decimal? d (n + 1)).getD ⟨0, 0⟩ |>.trim 20

/-! ### Text -/

/-- How a decimal is laid out: positional from `10 ^ least` up to below `10 ^ (most + 1)`, else with
an exponent. -/
structure DecimalFormat where
  least : Int
  most  : Int

/-- Numbers are positional from `0.00001` up to below `10 ^ 16`. -/
def jsonNumber : DecimalFormat := ⟨-5, 15⟩

def zeros (n : Nat) : List Char := List.replicate n '0'

/-- The text of a decimal; a whole number keeps `.0`, and exponents have a sign. -/
def Decimal.text (format : DecimalFormat) (x : Decimal) : String :=
  let digits := Nat.toDigits 10 x.digits
  let position := x.exponent + digits.length - 1
  if format.least ≤ position && position ≤ format.most then
    if x.exponent ≥ 0 then
      String.ofList (digits ++ zeros x.exponent.toNat ++ ['.', '0'])
    else if position ≥ 0 then
      let whole := (position + 1).toNat
      String.ofList (digits.take whole ++ '.' :: digits.drop whole)
    else
      String.ofList ('0' :: '.' :: zeros (-position - 1).toNat ++ digits)
  else
    let mantissa :=
      match digits with
      | [d]     => [d]
      | d :: ds => d :: '.' :: ds
      | []      => []
    let sign := if position ≥ 0 then "e+" else "e-"
    String.ofList mantissa ++ sign ++ toString position.natAbs

/-- The text of a double. -/
def text (d : Double) : String :=
  let magnitude := if d.isZero then "0.0" else d.shortest.text jsonNumber
  if d.negative then "-" ++ magnitude else magnitude

end Double

end Outline
