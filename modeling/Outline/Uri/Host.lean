import Outline.Uri.Domain

/-!
# Hosts

A host of a scheme that needs one is a domain name, an IPv4 address in any of its number forms, or
an IPv6 address in brackets; every other host is text without separators. All are brought to one
written form.
-/

namespace Outline.Uri.Host

/-- The value of digits in a base; `none` if there is no digit or one that does not belong. -/
def valueIn? (base : Nat) (cs : List Char) : Option Nat := do
  guard !cs.isEmpty
  cs.foldlM (fun n c => do
    let d ← hexValue? c
    guard (d < base)
    return n * base + d) 0

/-! ### IPv4 -/

/-- A number of an address: hexadecimal after `0x`, octal after `0`, else decimal. -/
def ipv4Number? : List Char → Option Nat
  | '0' :: 'x' :: cs => if cs.isEmpty then some 0 else valueIn? 16 cs
  | '0' :: 'X' :: cs => if cs.isEmpty then some 0 else valueIn? 16 cs
  | '0' :: c :: cs   => valueIn? 8 (c :: cs)
  | cs               => valueIn? 10 cs

/-- The parts between dots, without an empty last one. -/
def dottedParts (domain : List Char) : List (List Char) :=
  let parts := splitOn '.' domain
  if parts.getLast? = some [] then parts.dropLast else parts

/-- The last part is a number, so the domain must be an address. -/
def endsInNumber (domain : List Char) : Bool :=
  match (dottedParts domain).getLast? with
  | some part => (!part.isEmpty && part.all Char.isDigit) || (ipv4Number? part).isSome
  | none      => false

/-- The address of a dotted form of up to four numbers; the last fills the bytes left. -/
def ipv4? (domain : List Char) : Option Nat := do
  let parts := dottedParts domain
  guard (parts.length ≤ 4)
  let numbers ← parts.mapM ipv4Number?
  let last ← numbers.getLast?
  let front := numbers.dropLast
  guard (last < Nat.pow 256 (4 - front.length) && front.all (· < 256))
  return front.zipIdx.foldl (fun sum (n, i) => sum + n * Nat.pow 256 (3 - i)) last

/-- Four bytes with dots. -/
def ipv4Text (n : Nat) : String :=
  ".".intercalate ([n / 0x1000000 % 256, n / 0x10000 % 256, n / 0x100 % 256, n % 256].map toString)

/-! ### IPv6 -/

/-- A byte in decimal, without leading zeros. -/
def ipv4Byte? (cs : List Char) : Option Nat := do
  guard (cs.length = 1 || cs.head? ≠ some '0')
  let n ← valueIn? 10 cs
  guard (n < 256)
  return n

/-- The pieces of 16 bits that a group stands for. A dotted address may stand last. -/
def ipv6Group? (last : Bool) (cs : List Char) : Option (List Nat) :=
  if last && cs.contains '.' then do
    match ← (splitOn '.' cs).mapM ipv4Byte? with
    | [a, b, c, d] => return [a * 256 + b, c * 256 + d]
    | _            => none
  else do
    guard (cs.length ≤ 4)
    return [← valueIn? 16 cs]

/-- The pieces of some groups; `last` says whether the address ends with them. -/
def ipv6Pieces? (last : Bool) (cs : List Char) : Option (List Nat) :=
  if cs.isEmpty then some []
  else do
    let groups := splitOn ':' cs
    let pieces ← groups.zipIdx.mapM fun (g, i) => ipv6Group? (last && i + 1 == groups.length) g
    return pieces.flatten

/-- Cuts at the first double colon. -/
def cutDoubleColon : List Char → Option (List Char × List Char)
  | ':' :: ':' :: cs => some ([], cs)
  | c :: cs          => (cutDoubleColon cs).map fun (a, b) => (c :: a, b)
  | []               => none

/-- The eight pieces of an address. -/
def ipv6? (cs : List Char) : Option (List Nat) :=
  match cutDoubleColon cs with
  | some (left, right) => do
    let front ← ipv6Pieces? false left
    let back ← ipv6Pieces? true right
    guard (front.length + back.length < 8)
    return front ++ List.replicate (8 - front.length - back.length) 0 ++ back
  | none => do
    let pieces ← ipv6Pieces? true cs
    guard (pieces.length = 8 && !cs.isEmpty)
    return pieces

/-- Length of the run of zeros at the front. -/
def zeroRun (pieces : List Nat) : Nat := (pieces.takeWhile (· == 0)).length

/-- Place and length of the first longest run of at least two zeros. -/
def longestZeroRun (pieces : List Nat) : Option (Nat × Nat) :=
  let runs := (List.range pieces.length).map fun i => (i, zeroRun (pieces.drop i))
  let best := runs.foldl (fun best r => if r.2 > best.2 then r else best) (0, 1)
  if best.2 ≥ 2 then some best else none

/-- A piece in hexadecimal. -/
def pieceText (n : Nat) : String := String.ofList (Nat.toDigits 16 n)

/-- An address in brackets, with its longest run of zeros left out. -/
def ipv6Text (pieces : List Nat) : String :=
  let groups (ps : List Nat) := ":".intercalate (ps.map pieceText)
  match longestZeroRun pieces with
  | some (i, n) => "[" ++ groups (pieces.take i) ++ "::" ++ groups (pieces.drop (i + n)) ++ "]"
  | none        => "[" ++ groups pieces ++ "]"

/-- The address between brackets. -/
def bracketed? (cs : List Char) : Option String := do
  guard (cs.getLast? = some ']')
  return ipv6Text (← ipv6? (cs.drop 1).dropLast)

/-! ### Names -/

/-- The host of a scheme that needs one. -/
def domain? (cs : List Char) : Option String :=
  if cs.head? = some '[' then bracketed? cs
  else do
    let bytes := Percent.decode (cs.flatMap String.utf8EncodeChar)
    let name ← Domain.toAscii? (decodeLossy bytes)
    guard (!name.isEmpty)
    if endsInNumber name then return ipv4Text (← ipv4? name) else return String.ofList name

/-- The host of any other scheme. -/
def plain? (cs : List Char) : Option String :=
  if cs.head? = some '[' then bracketed? cs
  else do
    guard (!cs.any Domain.isForbiddenInHost)
    return Percent.encode Percent.controls cs

end Outline.Uri.Host
