import Outline.Json.Basic
import Outline.Text.Hex

/-!
# Reading JSON

A strict reader: no comments, no trailing commas, no control characters or lone surrogates in
strings, at most 127 containers inside each other. Integers of 64 bits are kept; every other number
becomes a double, in the way described at `decimalToDouble`.
-/

namespace Outline.Json

/-- Drops blanks, tabs and line ends. -/
def skipBlanks : List Char → List Char
  | []      => []
  | c :: cs => if c = ' ' || c = '\t' || c = '\n' || c = '\r' then skipBlanks cs else c :: cs

/-! ### Strings -/

/-- The value of four hexadecimal digits. -/
def hex4? (a b c d : Char) : Option Nat := do
  return (((← hexValue? a) * 16 + (← hexValue? b)) * 16 + (← hexValue? c)) * 16 + (← hexValue? d)

/-- The character behind a backslash. -/
def simpleEscape? : Char → Option Char
  | '"'  => some '"'
  | '\\' => some '\\'
  | '/'  => some '/'
  | 'b'  => some (Char.ofNat 0x08)
  | 'f'  => some (Char.ofNat 0x0C)
  | 'n'  => some '\n'
  | 'r'  => some '\r'
  | 't'  => some '\t'
  | _    => none

/-- A code unit that starts a surrogate pair. -/
def isHighSurrogate (n : Nat) : Bool := 0xD800 ≤ n && n < 0xDC00

/-- A code unit that ends a surrogate pair. -/
def isLowSurrogate (n : Nat) : Bool := 0xDC00 ≤ n && n < 0xE000

/-- The character of a surrogate pair. -/
def pairChar (high low : Nat) : Char :=
  Char.ofNat (0x10000 + (high - 0xD800) * 0x400 + (low - 0xDC00))

/-- Reads a string up to its closing quote; `done` holds the characters read so far in reverse. -/
def stringBody (done : List Char) : List Char → Option (List Char × List Char)
  | '"' :: rest => some (done.reverse, rest)
  | '\\' :: 'u' :: a :: b :: c :: d :: rest =>
    match hex4? a b c d with
    | none => none
    | some high =>
      if isHighSurrogate high then
        match rest with
        | '\\' :: 'u' :: a' :: b' :: c' :: d' :: rest' =>
          match hex4? a' b' c' d' with
          | none     => none
          | some low =>
            if isLowSurrogate low then stringBody (pairChar high low :: done) rest' else none
        | _ => none
      else if isLowSurrogate high then none
      else stringBody (Char.ofNat high :: done) rest
  | '\\' :: c :: rest =>
    match simpleEscape? c with
    | some c' => stringBody (c' :: done) rest
    | none    => none
  | c :: rest => if c.toNat < 0x20 then none else stringBody (c :: done) rest
  | [] => none

/-! ### Numbers -/

/-- The value of a decimal digit. -/
def digitValue? (c : Char) : Option Nat :=
  if '0' ≤ c && c ≤ '9' then some (c.toNat - 0x30) else none

/-- The digits at the front of a text. -/
def takeDigits (cs : List Char) : List Nat × List Char :=
  ((cs.takeWhile Char.isDigit).filterMap digitValue?, cs.dropWhile Char.isDigit)

/-- A significand of 64 bits, and how many of the digits given it stands for. -/
structure Significand where
  value : Nat
  used  : Nat
  full  : Bool

/-- Takes a digit into the significand as long as it fits into 64 bits; further digits are
dropped. -/
def Significand.take (s : Significand) (d : Nat) : Significand :=
  let value := s.value * 10 + d
  if s.full || value ≥ UInt64.size then { s with full := true }
  else { s with value := value, used := s.used + 1 }

/-- `10 ^ k` rounded to a double. -/
def tenPower (k : Nat) : Option Double := Double.ofNat (Nat.pow 10 k)

/-- Multiplies by a power of ten in steps that a double can hold: one multiplication, or divisions
by `10 ^ 308` and one by the rest. `fuel` bounds the number of steps. -/
def scale : (fuel : Nat) → Double → Int → Option Double
  | 0,        _, _ => none
  | fuel + 1, x, e =>
    if x.isZero then some x
    else if e > 308 then none
    else if e ≥ 0 then do (x.mul (← tenPower e.toNat))
    else if e ≥ -308 then do (x.div (← tenPower (-e).toNat))
    else do scale fuel (← x.div (← tenPower 308)) (e + 308)

/-- The double that stands for `significand · 10 ^ exponent`: the significand is rounded to a double
first and scaled then, so the last place may differ from the nearest double. -/
def decimalToDouble (significand : Nat) (exponent : Int) : Option Double := do
  -- three divisions by `10 ^ 308` take every significand to zero
  scale 5 (← Double.ofNat significand) exponent

/-- Digits as a number. -/
def digitsValue (ds : List Nat) : Nat := ds.foldl (fun n d => n * 10 + d) 0

/-- The digits after a point, if there is one; a point needs a digit. -/
def fractionPart : List Char → Option (Option (List Nat) × List Char)
  | '.' :: cs =>
    match takeDigits cs with
    | ([], _)    => none
    | (ds, rest) => some (some ds, rest)
  | cs => some (none, cs)

/-- An exponent, if there is one: its sign and its digits. -/
def exponentPart : List Char → Option (Option (Bool × List Nat) × List Char)
  | c :: cs =>
    if c = 'e' || c = 'E' then
      let (negative, cs) :=
        match cs with
        | '+' :: cs => (false, cs)
        | '-' :: cs => (true, cs)
        | cs        => (false, cs)
      match takeDigits cs with
      | ([], _)    => none
      | (ds, rest) => some (some (negative, ds), rest)
    else some (none, c :: cs)
  | [] => some (none, [])

/-- The digits before the point: a zero stands alone. -/
def wholePart (cs : List Char) : Option (List Nat × List Char) :=
  match takeDigits cs with
  | ([], _)          => none
  | (0 :: _ :: _, _) => none
  | r                => some r

/-- The number of a literal without fraction and exponent, when it fits into 64 bits. -/
def integer? (negative : Bool) (value : Nat) : Option Int :=
  if negative then
    if 0 < value && value ≤ 0x8000000000000000 then some (-(value : Int)) else none
  else if value < UInt64.size then some value else none

/-- The double of a literal. Digits past 64 bits are dropped, and count only before the point. -/
def literalDouble (whole fraction : List Nat) (exponent : Option (Bool × List Nat)) :
    Option Double :=
  let s := whole.foldl Significand.take ⟨0, 0, false⟩
  let dropped : Int := whole.length - s.used
  let f := fraction.foldl Significand.take { s with used := 0, full := false }
  let place := dropped - f.used
  match exponent with
  | none => decimalToDouble f.value place
  | some (negative, ds) =>
    let e := digitsValue ds
    if e ≥ 0x80000000 then
      if f.value ≠ 0 && !negative then none else some Double.zero
    else decimalToDouble f.value (if negative then place - e else place + e)

/-- Reads a number without its sign. -/
def numberBody (negative : Bool) (cs : List Char) : Option (Number × List Char) := do
  let (whole, cs) ← wholePart cs
  let (fraction, cs) ← fractionPart cs
  let (exponent, cs) ← exponentPart cs
  let asInteger :=
    if fraction.isNone && exponent.isNone then integer? negative (digitsValue whole) else none
  match asInteger with
  | some n => return (.int n, cs)
  | none   =>
    let d ← literalDouble whole (fraction.getD []) exponent
    return (.double { d with negative := negative }, cs)

/-! ### Values -/

/-- Takes a word off the front. -/
def expect? : (word cs : List Char) → Option (List Char)
  | [],      cs      => some cs
  | w :: ws, c :: cs => if w = c then expect? ws cs else none
  | _ :: _,  []      => none

/-- Reads items up to the closing bracket, with `value` as the reader of one item. -/
def itemsWith (value : List Char → Option (Json × List Char)) (cs : List Char) :
    Option (List Json × List Char) :=
  match value (skipBlanks cs) with
  | none => none
  | some (v, rest) =>
    match skipBlanks rest with
    | ',' :: more =>
      -- a reader always takes something off its text
      if _h : more.length < cs.length then
        (itemsWith value more).map fun (vs, rest) => (v :: vs, rest)
      else none
    | ']' :: more => some ([v], more)
    | _ => none
termination_by cs.length

/-- Reads a field name and its colon. -/
def fieldName (cs : List Char) : Option (String × List Char) :=
  match skipBlanks cs with
  | '"' :: cs =>
    match stringBody [] cs with
    | none => none
    | some (name, rest) =>
      match skipBlanks rest with
      | ':' :: more => some (String.ofList name, more)
      | _ => none
  | _ => none

/-- Reads fields up to the closing brace, with `value` as the reader of one value. -/
def fieldsWith (value : List Char → Option (Json × List Char)) (cs : List Char) :
    Option (List (String × Json) × List Char) :=
  match fieldName cs with
  | none => none
  | some (name, rest) =>
    match value (skipBlanks rest) with
    | none => none
    | some (v, rest) =>
      match skipBlanks rest with
      | ',' :: more =>
        if _h : more.length < cs.length then
          (fieldsWith value more).map fun (fs, rest) => ((name, v) :: fs, rest)
        else none
      | '}' :: more => some ([(name, v)], more)
      | _ => none
termination_by cs.length

/-- Reads one value that may hold `room` containers inside each other. -/
def valueIn : (room : Nat) → List Char → Option (Json × List Char)
  | _, 'n' :: cs => (expect? "ull".toList cs).map fun rest => (.null, rest)
  | _, 't' :: cs => (expect? "rue".toList cs).map fun rest => (.bool true, rest)
  | _, 'f' :: cs => (expect? "alse".toList cs).map fun rest => (.bool false, rest)
  | _, '"' :: cs => (stringBody [] cs).map fun (s, rest) => (.str (String.ofList s), rest)
  | _, '-' :: cs => (numberBody true cs).map fun (n, rest) => (.num n, rest)
  | 0, '[' :: _ => none
  | 0, '{' :: _ => none
  | room + 1, '[' :: cs =>
    match skipBlanks cs with
    | ']' :: rest => some (.arr [], rest)
    | cs => (itemsWith (valueIn room) cs).map fun (vs, rest) => (.arr vs, rest)
  | room + 1, '{' :: cs =>
    match skipBlanks cs with
    | '}' :: rest => some (.obj [], rest)
    | cs => (fieldsWith (valueIn room) cs).map fun (fs, rest) => (object fs, rest)
  | _, cs => (numberBody false cs).map fun (n, rest) => (.num n, rest)

/-- Reads a whole text. -/
def parse (text : String) : Option Json :=
  match valueIn 127 (skipBlanks text.toList) with
  | some (v, rest) => if (skipBlanks rest).isEmpty then some v else none
  | none           => none

end Outline.Json
