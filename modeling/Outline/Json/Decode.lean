import Outline.Json.Basic

/-!
# Decoding JSON into values of a type

A decoder is a function `Json → Option α`. A record may be written as an object, by field names, or
as an array of its fields in their order; `record` reads both with one description of the fields.
Unknown names in an object are skipped, further items of an array are refused.
-/

namespace Outline.Json

/-! ### Scalars and lists -/

def text? : Json → Option String
  | .str s => some s
  | _      => none

def bool? : Json → Option Bool
  | .bool b => some b
  | _       => none

/-- An integer between two bounds, the upper one excluded. Doubles are refused. -/
def intWithin? (low high : Int) : Json → Option Int
  | .num (.int n) => if low ≤ n && n < high then some n else none
  | _             => none

def int32? : Json → Option Int := intWithin? (-0x80000000) 0x80000000

def nat32? (v : Json) : Option Nat := (intWithin? 0 UInt32.size v).map Int.toNat

def nat64? (v : Json) : Option Nat := (intWithin? 0 UInt64.size v).map Int.toNat

/-- An array of values of one kind. -/
def list? {α : Type} (item : Json → Option α) : Json → Option (List α)
  | .arr items => items.mapM item
  | _          => none

/-- A value or `null`. -/
def orNull? {α : Type} (value : Json → Option α) : Json → Option (Option α)
  | .null => some none
  | v     => (value v).map some

/-- An object with arbitrary names, as pairs. -/
def pairs? {κ α : Type} (key : String → Option κ) (value : Json → Option α) :
    Json → Option (List (κ × α))
  | .obj fields => fields.mapM fun (k, v) => do return (← key k, ← value v)
  | _           => none

/-! ### Records -/

/-- The fields of a record that are still to be read: of an object by name, of an array by place. -/
inductive Slots where
  | named (fields : List (String × Json))
  | placed (items : List Json)

/-- The value of a field, if it is there, and the slots left. -/
def Slots.take (name : String) : Slots → Option Json × Slots
  | named fields      => (find? name fields, named fields)
  | placed []         => (none, placed [])
  | placed (v :: vs)  => (some v, placed vs)

/-- Fields go by name. -/
def Slots.byName : Slots → Bool
  | named _  => true
  | placed _ => false

/-- Nothing is left over. -/
def Slots.isDone : Slots → Bool
  | named _       => true
  | placed items  => items.isEmpty

/-- A description of some fields of a record. -/
abbrev Fields := StateT Slots Option

variable {α : Type}

/-- A field that must be there. -/
def required (name : String) (value : Json → Option α) : Fields α := do
  match ← modifyGet (Slots.take name) with
  | some v => value v
  | none   => failure

/-- A field that may be `null`. An object may leave it out, an array may not. -/
def nullable (name : String) (value : Json → Option α) : Fields (Option α) := do
  let byName := (← get).byName
  match ← modifyGet (Slots.take name) with
  | some v => orNull? value v
  | none   => if byName then return none else failure

/-- A field that may be left out, and stands for a given value then. -/
def withDefault (name : String) (value : Json → Option α) (default : α) : Fields α := do
  match ← modifyGet (Slots.take name) with
  | some v => value v
  | none   => return default

/-- A field that may be `null` or left out. -/
def omissible (name : String) (value : Json → Option α) : Fields (Option α) :=
  withDefault name (orNull? value) none

/-- Reads a record from an object or from an array. -/
def record (fields : Fields α) (v : Json) : Option α := do
  let slots ←
    match v with
    | .obj fs => some (Slots.named fs)
    | .arr vs => some (Slots.placed vs)
    | _       => none
  let (a, rest) ← fields.run slots
  if rest.isDone then some a else none

/-- Reads a record from an object only. -/
def objectRecord (fields : Fields α) : Json → Option α
  | .obj fs => (fields.run (.named fs)).map Prod.fst
  | _       => none

/-! ### Alternatives -/

/-- The name of an alternative, which is given by its name or by its place among all names. -/
def alternative? (names : List String) : Json → Option String
  | .str s        => if names.contains s then some s else none
  | .num (.int n) => if 0 ≤ n then names[n.toNat]? else none
  | _             => none

/-- Reads a record of one of several kinds. A field of an object, or the first item of an array,
says which one it is. -/
def ofTag (tag : String) (names : List String) (fields : String → Fields α) : Json → Option α
  | .obj fs           => do record (fields (← alternative? names (← find? tag fs))) (.obj fs)
  | .arr (kind :: vs) => do record (fields (← alternative? names kind)) (.arr vs)
  | _                 => none

/-- Reads a record whose kind is told by the field `kind`. -/
def ofKind (names : List String) (fields : String → Fields α) : Json → Option α :=
  ofTag "kind" names fields

end Outline.Json
