import Outline.Text.Hex
import Outline.Text.Hidden

/-!
# Quoted text

Text in double quotes, as it stands in a message: quotes, backslashes and line breaks are escaped,
and every character that could not be seen is written by its code point in braces.
-/

namespace Outline.Quoted

/-- A code point as a backslash, `u` and its digits in braces. -/
def codePoint (c : Char) : List Char :=
  '\\' :: 'u' :: Char.ofNat 0x7B :: Nat.toDigits 16 c.toNat ++ [Char.ofNat 0x7D]

/-- A character inside quotes. -/
def escape (c : Char) : List Char :=
  if c = '"' then ['\\', '"']
  else if c = '\\' then ['\\', '\\']
  else if c = '\n' then ['\\', 'n']
  else if c = '\r' then ['\\', 'r']
  else if c = '\t' then ['\\', 't']
  else if c.toNat = 0 then ['\\', '0']
  else if isHidden c then codePoint c
  else [c]

/-- A text with its quotes. -/
def encode (s : String) : String := String.ofList ('"' :: s.toList.flatMap escape ++ ['"'])

end Outline.Quoted
