import Outline.Json.Printer
import Outline.Text.Quoted

/-!
# JSON values in messages

In a message a value is written with the name of its kind before it, so that a text cannot be taken
for a number.
-/

namespace Outline.Json

mutual

/-- A value with the names of the kinds. -/
def described : Json → String
  | .null       => "Null"
  | .bool true  => "Bool(true)"
  | .bool false => "Bool(false)"
  | .num n      => "Number(" ++ numberText n ++ ")"
  | .str s      => "String(" ++ Quoted.encode s ++ ")"
  | .arr items  => "Array [" ++ describedItems items ++ "]"
  | .obj fields => "Object \x7b" ++ describedFields fields ++ "\x7d"

def describedItems : List Json → String
  | []           => ""
  | [v]          => described v
  | v :: w :: vs => described v ++ ", " ++ describedItems (w :: vs)

def describedFields : List (String × Json) → String
  | []                => ""
  | [(k, v)]          => Quoted.encode k ++ ": " ++ described v
  | (k, v) :: f :: fs => Quoted.encode k ++ ": " ++ described v ++ ", " ++ describedFields (f :: fs)

end

end Outline.Json
