import Outline.Text.Utf8

/-!
# Percent-encoding

A byte outside a set of plain characters is written as `%` and two upper case digits. Each part of
a URI has its own set of characters to encode; bytes beyond ASCII are always encoded.
-/

namespace Outline.Percent

/-- The ASCII characters that a part of a URI cannot hold as they are. -/
abbrev CharSet := Char → Bool

/-- Control characters. -/
def controls : CharSet := fun c => c.toNat < 0x20 || c.toNat == 0x7F

/-- What is encoded in a fragment. -/
def fragmentSet : CharSet := fun c => controls c || " \"<>`".toList.contains c

/-- What is encoded in a query. -/
def querySet : CharSet := fun c => controls c || " \"#<>".toList.contains c

/-- What is encoded in a query of a scheme with a host. -/
def specialQuerySet : CharSet := fun c => querySet c || c.toNat == 0x27

/-- What is encoded in a path. -/
def pathSet : CharSet := fun c => fragmentSet c || "#?\x7b\x7d".toList.contains c

/-- What is encoded in a user name and a password. -/
def userinfoSet : CharSet := fun c => pathSet c || "/:;=@[\\]^|".toList.contains c

/-- What is encoded in a file name that becomes a segment of a path. -/
def segmentSet : CharSet := fun c => pathSet c || "/%\\".toList.contains c

/-- A byte as `%` and two digits. -/
def escapeByte (b : UInt8) : List Char :=
  ['%', upperHexDigit (b.toNat / 16), upperHexDigit b.toNat]

/-- A byte as it is written in a part of a URI. -/
def encodeByte (set : CharSet) (b : UInt8) : List Char :=
  let c := Char.ofNat b.toNat
  if b < 0x80 && !set c then [c] else escapeByte b

/-- Bytes as they are written in a part of a URI. -/
def encodeBytes (set : CharSet) (bytes : List UInt8) : String :=
  String.ofList (bytes.flatMap (encodeByte set))

/-- Text as it is written in a part of a URI. -/
def encode (set : CharSet) (text : List Char) : String :=
  encodeBytes set (text.flatMap String.utf8EncodeChar)

/-- The value of a byte that stands for a hexadecimal digit. -/
def digitOf? (b : UInt8) : Option Nat := hexValue? (Char.ofNat b.toNat)

/-- Reads every `%` with two digits as one byte; all else stands for itself. -/
def decode : List UInt8 → List UInt8
  | 0x25 :: a :: b :: rest =>
    match digitOf? a, digitOf? b with
    | some x, some y => UInt8.ofNat (x * 16 + y) :: decode rest
    | _, _           => 0x25 :: decode (a :: b :: rest)
  | b :: rest => b :: decode rest
  | []        => []

end Outline.Percent
