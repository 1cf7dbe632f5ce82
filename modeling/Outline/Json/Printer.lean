import Outline.Json.Basic
import Outline.Text.Hex

/-!
# Writing JSON

Two layouts: compact, without any blank, and pretty, with two more blanks of indentation per level
and one item a line. Empty containers are written without a break in both.
-/

namespace Outline.Json

/-! ### Scalars -/

/-- The characters that stand for a character inside a string. -/
def escape (c : Char) : List Char :=
  if c = '"' then ['\\', '"']
  else if c = '\\' then ['\\', '\\']
  else if c = '\n' then ['\\', 'n']
  else if c = '\r' then ['\\', 'r']
  else if c = '\t' then ['\\', 't']
  else if c.toNat = 0x08 then ['\\', 'b']
  else if c.toNat = 0x0C then ['\\', 'f']
  else if c.toNat < 0x20 then ['\\', 'u', '0', '0', hexDigit (c.toNat / 16), hexDigit c.toNat]
  else [c]

/-- A string with its quotes. -/
def quoted (s : String) : List Char := '"' :: s.toList.flatMap escape ++ ['"']

/-- The text of a number. -/
def numberText : Number → String
  | .int n    => toString n
  | .double d => d.text

/-! ### Compact layout -/

mutual

/-- A value without any blank. -/
def compactChars : Json → List Char
  | .null       => "null".toList
  | .bool true  => "true".toList
  | .bool false => "false".toList
  | .num n      => (numberText n).toList
  | .str s      => quoted s
  | .arr items  => '[' :: compactItems items ++ [']']
  | .obj fields => '{' :: compactFields fields ++ ['}']

def compactItems : List Json → List Char
  | []           => []
  | [v]          => compactChars v
  | v :: w :: vs => compactChars v ++ ',' :: compactItems (w :: vs)

def compactFields : List (String × Json) → List Char
  | []                => []
  | [(k, v)]          => quoted k ++ ':' :: compactChars v
  | (k, v) :: f :: fs => quoted k ++ ':' :: compactChars v ++ ',' :: compactFields (f :: fs)

end

/-- A value without any blank. -/
def compact (v : Json) : String := String.ofList (compactChars v)

/-! ### Pretty layout -/

/-- A line break followed by two blanks a level. -/
def breakLine (level : Nat) : List Char := '\n' :: List.replicate (2 * level) ' '

mutual

/-- A value with one item a line, inside `level` containers. -/
def prettyChars (level : Nat) : Json → List Char
  | .arr (v :: vs) =>
    '[' :: breakLine (level + 1) ++ prettyItems (level + 1) (v :: vs) ++ breakLine level ++ [']']
  | .obj (f :: fs) =>
    '{' :: breakLine (level + 1) ++ prettyFields (level + 1) (f :: fs) ++ breakLine level ++ ['}']
  | .arr []        => ['[', ']']
  | .obj []        => ['{', '}']
  | .null          => "null".toList
  | .bool true     => "true".toList
  | .bool false    => "false".toList
  | .num n         => (numberText n).toList
  | .str s         => quoted s

def prettyItems (level : Nat) : List Json → List Char
  | []           => []
  | [v]          => prettyChars level v
  | v :: w :: vs => prettyChars level v ++ ',' :: breakLine level ++ prettyItems level (w :: vs)

def prettyFields (level : Nat) : List (String × Json) → List Char
  | []                => []
  | [(k, v)]          => quoted k ++ ':' :: ' ' :: prettyChars level v
  | (k, v) :: f :: fs =>
    quoted k ++ ':' :: ' ' :: prettyChars level v ++ ',' :: breakLine level ++
      prettyFields level (f :: fs)

end

/-- A value with one item a line. -/
def pretty (v : Json) : String := String.ofList (prettyChars 0 v)

end Outline.Json
