import Outline.Json.Decode

/-!
# Symbol kinds

A kind is a number. The numbers from 1 to 26 have names; every other number is an unknown kind.
-/

namespace Outline

/-- What a symbol is: a class, a function and so on. -/
structure SymbolKind where
  code : Int
  deriving DecidableEq, Repr, Inhabited

namespace SymbolKind

/-- Names of the kinds, from 1 on. -/
def names : List String :=
  ["File", "Module", "Namespace", "Package", "Class", "Method", "Property", "Field", "Constructor",
   "Enum", "Interface", "Function", "Variable", "Constant", "String", "Number", "Boolean", "Array",
   "Object", "Key", "Null", "EnumMember", "Struct", "Event", "Operator", "TypeParameter"]

/-- The label of symbols whose kind has no name. -/
def unknown : String := "Unknown"

/-- The name of a kind. -/
def label (kind : SymbolKind) : String :=
  if kind.code ≤ 0 then unknown else (names[(kind.code - 1).toNat]?).getD unknown

def ofJson (v : Json) : Option SymbolKind := v.int32?.map SymbolKind.mk

def toJson (kind : SymbolKind) : Json := .int kind.code

end SymbolKind

/-- The label of a symbol, whether or not it has a kind. -/
def kindLabel (kind : Option SymbolKind) : String :=
  (kind.map SymbolKind.label).getD SymbolKind.unknown

end Outline
