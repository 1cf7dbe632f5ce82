/-!
# Durations as text

A duration is written in its largest unit with a nonzero whole part, followed by the fraction
without trailing zeros: `2s`, `1.5ms`, `999µs`, `0ns`.
-/

namespace Outline

/-- A span of time in nanoseconds. -/
structure Duration where
  nanos : Nat
  deriving DecidableEq, Repr, Inhabited

namespace Duration

def ofMicros (n : Nat) : Duration := ⟨n * 1000⟩
def ofMillis (n : Nat) : Duration := ⟨n * 1000000⟩
def ofSeconds (n : Nat) : Duration := ⟨n * 1000000000⟩

/-- The last `width` decimal digits of a number. -/
def digitsPadded : (width n : Nat) → List Char
  | 0,         _ => []
  | width + 1, n => digitsPadded width (n / 10) ++ [Nat.digitChar (n % 10)]

/-- A decimal fraction with its point, without trailing zeros; nothing for zero. -/
def fraction (width n : Nat) : String :=
  match ((digitsPadded width n).reverse.dropWhile (· = '0')).reverse with
  | []     => ""
  | digits => "." ++ String.ofList digits

/-- `n` written in a unit of `10 ^ width`. -/
def inUnit (n width : Nat) (unit : String) : String :=
  toString (n / Nat.pow 10 width) ++ fraction width (n % Nat.pow 10 width) ++ unit

/-- The duration as text. -/
def text (d : Duration) : String :=
  if d.nanos ≥ 1000000000 then inUnit d.nanos 9 "s"
  else if d.nanos ≥ 1000000 then inUnit d.nanos 6 "ms"
  else if d.nanos ≥ 1000 then inUnit d.nanos 3 "µs"
  else inUnit d.nanos 0 "ns"

end Duration

end Outline
