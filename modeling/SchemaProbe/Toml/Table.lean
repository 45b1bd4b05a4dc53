import SchemaProbe.Json.Basic

set_option autoImplicit false

namespace SchemaProbe.Toml

inductive Origin where
  | header
  -- On the way of a longer header.
  | implied
  -- On the way of a key with points.
  | dotted
deriving DecidableEq, Repr

inductive Item where
  | value (v : Json)
  | table (origin : Origin) (entries : List (String × Item))
  -- The elements of a series of tables.
  | series (elements : List (List (String × Item)))

abbrev Entries := List (String × Item)

mutual
def Item.toJson : Item → Json
  | .value v => v
  | .table _ es => .object (membersOf es)
  | .series ts => .array (elementsOf ts)
def membersOf : List (String × Item) → List (String × Json)
  | [] => []
  | (k, i) :: es => (k, i.toJson) :: membersOf es
def elementsOf : List (List (String × Item)) → List Json
  | [] => []
  | es :: ts => .object (membersOf es) :: elementsOf ts
end

namespace Entries

def toJson (es : Entries) : Json := .object (membersOf es)

-- The item of a name, set in its place or at the end.
def put (es : Entries) (k : String) (i : Item) : Entries :=
  if es.any (·.1 == k) then es.map fun e => if e.1 == k then (k, i) else e else es ++ [(k, i)]

def inLast (ts : List Entries) (f : Entries → Option Entries) : Option (List Entries) := do
  let last ← ts.getLast?
  let last ← f last
  return ts.dropLast ++ [last]

-- A value under a key with points.
def assign (v : Json) : List String → Entries → Option Entries
  | [], _ => none
  | [k], es => if es.any (·.1 == k) then none else some (es ++ [(k, .value v)])
  | k :: ks, es =>
    match es.lookup k with
    | none => (assign v ks []).map fun sub => es.put k (.table .dotted sub)
    | some (.table .header _) => none
    | some (.table o sub) => (assign v ks sub).map fun sub => es.put k (.table o sub)
    | some (.series ts) => (inLast ts (assign v ks)).map fun ts => es.put k (.series ts)
    | some (.value _) => none

-- What a header does to the name at its end.
def openAt (series : Bool) (k : String) (es : Entries) : Option Entries :=
  match es.lookup k, series with
  | none, false => some (es.put k (.table .header []))
  | none, true => some (es.put k (.series [[]]))
  | some (.table .implied sub), false => some (es.put k (.table .header sub))
  | some (.series ts), true => some (es.put k (.series (ts ++ [[]])))
  | _, _ => none

-- Opens the table of a header, or a new element of its series.
def openTable (series : Bool) : List String → Entries → Option Entries
  | [], _ => none
  | [k], es => openAt series k es
  | k :: ks, es =>
    match es.lookup k with
    | none => (openTable series ks []).map fun sub => es.put k (.table .implied sub)
    | some (.table o sub) => (openTable series ks sub).map fun sub => es.put k (.table o sub)
    | some (.series ts) => (inLast ts (openTable series ks)).map fun ts => es.put k (.series ts)
    | some (.value _) => none

def inTable (f : Entries → Option Entries) : List String → Entries → Option Entries
  | [], es => f es
  | k :: ks, es =>
    match es.lookup k with
    | some (.table o sub) => (inTable f ks sub).map fun sub => es.put k (.table o sub)
    | some (.series ts) => (inLast ts (inTable f ks)).map fun ts => es.put k (.series ts)
    | _ => none

end Entries

end SchemaProbe.Toml
