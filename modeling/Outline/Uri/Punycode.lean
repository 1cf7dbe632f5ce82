/-!
# Punycode

The ASCII form of a host label: the ASCII characters of the label, then a hyphen, then the other
characters as differences of code point and place, in digits of base 36 with a changing threshold.
Numbers on the way back are limited to 32 bits.
-/

namespace Outline.Punycode

/-- A digit: `a` to `z`, then `0` to `9`. -/
def digit (d : Nat) : Char := Char.ofNat (if d < 26 then 0x61 + d else 0x30 + (d - 26))

/-- The threshold of the digit at position `k` under a bias. -/
def threshold (k bias : Nat) : Nat := max 1 (min 26 (k - bias))

/-- A number in digits of changing base; `fuel` bounds their number. -/
def digits : (fuel : Nat) → (q k bias : Nat) → List Char
  | 0,        _, _, _    => []
  | fuel + 1, q, k, bias =>
    let t := threshold k bias
    if q < t then [digit q]
    else digit (t + (q - t) % (36 - t)) :: digits fuel ((q - t) / (36 - t)) (k + 36) bias

/-- Halves a difference until it is small, counting steps of 36. -/
def biasOf : (fuel : Nat) → (delta k : Nat) → Nat
  | 0,        delta, k => k + 36 * delta / (delta + 38)
  | fuel + 1, delta, k =>
    if delta > 455 then biasOf fuel (delta / 35) (k + 36) else k + 36 * delta / (delta + 38)

/-- The bias after a difference has been written, `points` characters in. -/
def adapt (delta points : Nat) (first : Bool) : Nat :=
  let delta := if first then delta / 700 else delta / 2
  biasOf 64 (delta + delta / points) 0

/-! ### Writing -/

/-- State of the encoder: the difference to write next, the bias, and how many characters are
written. -/
structure State where
  delta : Nat
  bias  : Nat
  done  : Nat
  out   : List Char

/-- Takes one character of the label in the round for the code point `n`. -/
def visit (basic n : Nat) (s : State) (c : Char) : State :=
  if c.toNat < n then { s with delta := s.delta + 1 }
  else if c.toNat = n then
    { delta := 0, bias := adapt s.delta (s.done + 1) (s.done == basic), done := s.done + 1,
      out := s.out ++ digits 64 s.delta 36 s.bias }
  else s

/-- One round for each code point, given in increasing order; `n` is the code point after the one
of the round before. -/
def rounds (label : List Char) (basic : Nat) : (n : Nat) → List Nat → State → State
  | _, [],      s => s
  | n, m :: ms, s =>
    let start := { s with delta := s.delta + (m - n) * (s.done + 1) }
    let after := label.foldl (visit basic m) start
    rounds label basic (m + 1) ms { after with delta := after.delta + 1 }

/-- The Punycode form of a label, without the mark in front of it. -/
def encode (label : List Char) : List Char :=
  let basic := label.filter (·.toNat < 0x80)
  let others := (label.filter (·.toNat ≥ 0x80)).map Char.toNat
  let points := (others.mergeSort (· ≤ ·)).eraseDups
  let start := if basic.isEmpty then [] else basic ++ ['-']
  (rounds label basic.length 0x80 points ⟨0, 72, basic.length, start⟩).out

/-! ### Reading -/

/-- The value of a digit. -/
def digitValue? (c : Char) : Option Nat :=
  if c.isLower then some (c.toNat - 0x61)
  else if c.isUpper then some (c.toNat - 0x41)
  else if c.isDigit then some (c.toNat - 0x30 + 26)
  else none

/-- A number that fits 32 bits. -/
def fitting? (n : Nat) : Option Nat := if n < UInt32.size then some n else none

/-- Reads a number whose digits begin at position `k` with a weight, and adds it to `i`; also gives
the characters left. -/
def number? (bias : Nat) : (i weight k : Nat) → List Char → Option (Nat × List Char)
  | _, _,      _, []      => none
  | i, weight, k, c :: cs => do
    let d ← digitValue? c
    let i ← fitting? (i + (← fitting? (d * weight)))
    let t := threshold k bias
    if d < t then return (i, cs)
    else number? bias i (← fitting? (weight * (36 - t))) (k + 36) cs

/-- Puts a character for each number into the label; `fuel` bounds their number, `n` is the code
point and `i` the place reached. -/
def insertions? : (fuel : Nat) → (n i bias : Nat) → (label : List Char) → List Char →
    Option (List Char)
  | 0,        _, _, _,    label, _  => some label
  | fuel + 1, n, i, bias, label, cs =>
    if cs.isEmpty then some label
    else do
      let (next, rest) ← number? bias i 1 36 cs
      let size := label.length + 1
      let bias := adapt (next - i) size (i == 0)
      let n ← fitting? (n + next / size)
      let place := next % size
      guard (n.isValidChar)
      insertions? fuel n (place + 1) bias (label.insertIdx place (Char.ofNat n)) rest

/-- Cuts at the last hyphen; one at the very front does not count as a cut. -/
def cutBasic (code : List Char) : List Char × List Char :=
  let back := code.reverse.takeWhile (· ≠ '-')
  let basic := (code.take (code.length - back.length)).dropLast
  if basic.isEmpty then ([], code) else (basic, back.reverse)

/-- The label of a Punycode form, without the mark in front of it. -/
def decode? (code : List Char) : Option (List Char) :=
  let (basic, rest) := cutBasic code
  insertions? rest.length 0x80 0 72 basic rest

end Outline.Punycode
