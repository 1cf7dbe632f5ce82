import Outline.Location
import Outline.Symbol.Kind

/-!
# Symbols as a server sends them

A server answers with symbols in one of two shapes: nested, with ranges and children, or flat, with
a location each. `RawSymbol` takes both and everything in between: any field may be missing. The
two strict shapes are here as well, with their embeddings.
-/

namespace Outline

open Json

/-! ### The tolerant shape -/

/-- Where a flat symbol is; both parts may be missing. -/
structure RawLocation where
  uri   : Option Uri
  range : Option Range
  deriving DecidableEq, Repr, Inhabited

/-- A symbol of an answer without its children. -/
structure RawInfo where
  name           : Option String
  kind           : Option SymbolKind
  detail         : Option String
  range          : Option Range
  selectionRange : Option Range
  location       : Option RawLocation
  containerName  : Option String
  deriving DecidableEq, Repr, Inhabited

/-- A symbol of an answer. An empty list of children is not the same as none. -/
inductive RawSymbol where
  | mk (info : RawInfo) (children : Option (List RawSymbol))
  deriving Inhabited

namespace RawLocation

def ofJson : Json → Option RawLocation :=
  record do
    return { uri := ← omissible "uri" Uri.ofJson, range := ← omissible "range" Range.ofJson }

def toJson (l : RawLocation) : Json :=
  .obj (optional "uri" (l.uri.map Uri.toJson) ++ optional "range" (l.range.map Range.toJson))

end RawLocation

namespace RawInfo

/-- The fields of a symbol before its children, in their order. -/
def fields : Fields RawInfo := do
  return {
    name           := ← omissible "name" text?
    kind           := ← omissible "kind" SymbolKind.ofJson
    detail         := ← omissible "detail" text?
    range          := ← omissible "range" Range.ofJson
    selectionRange := ← omissible "selectionRange" Range.ofJson
    location       := ← omissible "location" RawLocation.ofJson
    containerName  := ← omissible "containerName" text? }

/-- The place of the children when a symbol is written as an array. -/
def fieldCount : Nat := 7

def toFields (i : RawInfo) : List (String × Json) :=
  optional "name" (i.name.map .str) ++ optional "kind" (i.kind.map SymbolKind.toJson) ++
    optional "detail" (i.detail.map .str) ++ optional "range" (i.range.map Range.toJson) ++
    optional "selectionRange" (i.selectionRange.map Range.toJson) ++
    optional "location" (i.location.map RawLocation.toJson) ++
    optional "containerName" (i.containerName.map .str)

/-- The range of either shape: the symbol's own, else that of its location. -/
def effectiveRange (i : RawInfo) : Option Range := i.range <|> i.location.bind RawLocation.range

end RawInfo

namespace RawSymbol

def info : RawSymbol → RawInfo
  | mk info _ => info

def children : RawSymbol → Option (List RawSymbol)
  | mk _ children => children

/-- The flat shape: a location, but neither a range nor children. -/
def isFlat (s : RawSymbol) : Bool :=
  s.info.location.isSome && s.info.range.isNone && s.children.isNone

mutual

/-- Reads a symbol. -/
def ofJson : Json → Option RawSymbol
  | .obj fs => do
    let (info, _) ← RawInfo.fields.run (.named fs)
    return mk info (← childrenField fs)
  | .arr vs => do
    let (info, _) ← RawInfo.fields.run (.placed vs)
    return mk info (← childrenItem RawInfo.fieldCount vs)
  | _ => none

/-- The children among the fields of an object. -/
def childrenField : List (String × Json) → Option (Option (List RawSymbol))
  | []              => some none
  | (name, v) :: fs => if name = "children" then childrenValue v else childrenField fs

/-- The children after `skip` items of an array; nothing may follow them. -/
def childrenItem : (skip : Nat) → List Json → Option (Option (List RawSymbol))
  | _,        []          => some none
  | 0,        [v]         => childrenValue v
  | 0,        _ :: _ :: _ => none
  | skip + 1, _ :: vs     => childrenItem skip vs

def childrenValue : Json → Option (Option (List RawSymbol))
  | .null   => some none
  | .arr vs => (ofJsonList vs).map some
  | _       => none

def ofJsonList : List Json → Option (List RawSymbol)
  | []      => some []
  | v :: vs => do return (← ofJson v) :: (← ofJsonList vs)

end

mutual

/-- Writes a symbol; fields it does not have are left out. -/
def toJson : RawSymbol → Json
  | mk info children => .obj (info.toFields ++ childrenFields children)

def childrenFields : Option (List RawSymbol) → List (String × Json)
  | none    => []
  | some ss => [("children", .arr (toJsonList ss))]

def toJsonList : List RawSymbol → List Json
  | []      => []
  | s :: ss => toJson s :: toJsonList ss

end

end RawSymbol

/-! ### The nested shape -/

/-- A symbol of a nested answer without its children. -/
structure NestedInfo where
  name           : String
  detail         : Option String
  kind           : SymbolKind
  range          : Range
  selectionRange : Range
  deriving DecidableEq, Repr, Inhabited

/-- A symbol of a nested answer. -/
inductive NestedSymbol where
  | mk (info : NestedInfo) (children : Option (List NestedSymbol))
  deriving Inhabited

namespace NestedInfo

/-- The fields of a nested symbol before its children. Tags are checked and dropped. -/
def fields : Fields NestedInfo := do
  let name ← required "name" text?
  let detail ← nullable "detail" text?
  let kind ← required "kind" SymbolKind.ofJson
  let _ ← nullable "tags" (list? int32?)
  let _ ← nullable "deprecated" bool?
  let range ← required "range" Range.ofJson
  let selectionRange ← required "selectionRange" Range.ofJson
  return { name, detail, kind, range, selectionRange }

/-- The place of the children when a symbol is written as an array. -/
def fieldCount : Nat := 7

/-- The same in the tolerant shape. -/
def toRaw (i : NestedInfo) : RawInfo :=
  { name := i.name, kind := i.kind, detail := i.detail, range := i.range,
    selectionRange := i.selectionRange, location := none, containerName := none }

end NestedInfo

namespace NestedSymbol

mutual

def ofJson : Json → Option NestedSymbol
  | .obj fs => do
    let (info, _) ← NestedInfo.fields.run (.named fs)
    return mk info (← childrenField fs)
  | .arr vs => do
    let (info, _) ← NestedInfo.fields.run (.placed vs)
    return mk info (← childrenItem NestedInfo.fieldCount vs)
  | _ => none

/-- The children among the fields of an object. -/
def childrenField : List (String × Json) → Option (Option (List NestedSymbol))
  | []              => some none
  | (name, v) :: fs => if name = "children" then childrenValue v else childrenField fs

/-- The children after `skip` items of an array, where they must stand, with nothing behind. -/
def childrenItem : (skip : Nat) → List Json → Option (Option (List NestedSymbol))
  | _,        []          => none
  | 0,        [v]         => childrenValue v
  | 0,        _ :: _ :: _ => none
  | skip + 1, _ :: vs     => childrenItem skip vs

def childrenValue : Json → Option (Option (List NestedSymbol))
  | .null   => some none
  | .arr vs => (ofJsonList vs).map some
  | _       => none

def ofJsonList : List Json → Option (List NestedSymbol)
  | []      => some []
  | v :: vs => do return (← ofJson v) :: (← ofJsonList vs)

end

mutual

/-- The same symbol in the tolerant shape. -/
def toRaw : NestedSymbol → RawSymbol
  | mk info children => .mk info.toRaw (toRawChildren children)

def toRawChildren : Option (List NestedSymbol) → Option (List RawSymbol)
  | none    => none
  | some ss => some (toRawList ss)

def toRawList : List NestedSymbol → List RawSymbol
  | []      => []
  | s :: ss => toRaw s :: toRawList ss

end

end NestedSymbol

/-! ### The flat shape -/

/-- A symbol of a flat answer. -/
structure FlatSymbol where
  name          : String
  kind          : SymbolKind
  location      : Location
  containerName : Option String
  deriving DecidableEq, Repr, Inhabited

namespace FlatSymbol

/-- Tags are checked and dropped. -/
def ofJson : Json → Option FlatSymbol :=
  record do
    let name ← required "name" text?
    let kind ← required "kind" SymbolKind.ofJson
    let _ ← nullable "tags" (list? int32?)
    let _ ← nullable "deprecated" bool?
    let location ← required "location" Location.ofJson
    let containerName ← nullable "containerName" text?
    return { name, kind, location, containerName }

/-- The same symbol in the tolerant shape. -/
def toRaw (s : FlatSymbol) : RawSymbol :=
  .mk { name := s.name, kind := s.kind, detail := none, range := none, selectionRange := none,
        location := some ⟨s.location.uri, s.location.range⟩, containerName := s.containerName }
    none

end FlatSymbol

end Outline
