import Outline.Json.Double
import Outline.Keyed

/-!
# JSON values

The fields of an object are a list, in the order in which they are written. Objects that are read
have their fields in increasing order of the names, each name once.
-/

namespace Outline

/-- A JSON number: an integer of 64 bits, with or without sign, or a double. -/
inductive Number where
  | int (n : Int)
  | double (d : Double)
  deriving DecidableEq, Repr

/-- A JSON value. -/
inductive Json where
  | null
  | bool (b : Bool)
  | num (n : Number)
  | str (s : String)
  | arr (items : List Json)
  | obj (fields : List (String × Json))
  deriving Inhabited

namespace Json

/-- The value of the first field of that name. -/
def find? (name : String) : List (String × Json) → Option Json
  | []                => none
  | (name', v) :: fs  => if name = name' then some v else find? name fs

/-- The value of a field of an object. -/
def get? : Json → String → Option Json
  | .obj fields, name => find? name fields
  | _,           _    => none

/-- An integer as a value. -/
def int (n : Int) : Json := .num (.int n)

/-- A natural number as a value. -/
def nat (n : Nat) : Json := .num (.int n)

/-- An object with its fields in the order of their names; the last of equal names wins. -/
def object (fields : List (String × Json)) : Json := .obj (Keyed.ofList fields)

/-- A field that is left out when it has no value. -/
def optional (name : String) (value : Option Json) : List (String × Json) :=
  match value with
  | some v => [(name, v)]
  | none   => []

end Json

end Outline
