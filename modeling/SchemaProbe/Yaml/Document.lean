import SchemaProbe.Json.Basic
import SchemaProbe.Yaml.Node

set_option autoImplicit false

namespace SchemaProbe.Yaml

def isNullText (s : String) : Bool := ["", "null", "Null", "NULL", "~"].contains s

def bool? (s : String) : Option Bool :=
  if ["true", "True", "TRUE"].contains s then some true
  else if ["false", "False", "FALSE"].contains s then some false
  else none

-- Digits behind a leading zero are text.
def isZeroPadded (cs : List Char) : Bool :=
  let ds := match cs with
    | '-' :: r => r
    | '+' :: r => r
    | r => r
  1 < ds.length && ds.head? == some '0' && ds.all Char.isDigit

def digitsIn? (radix : Nat) (cs : List Char) : Option Nat :=
  if cs.isEmpty then none
  else (cs.mapM Text.hexValue?).bind fun ds =>
    if ds.all (· < radix) then some (ds.foldl (fun n d => n * radix + d) 0) else none

def magnitude? (cs : List Char) : Option Nat :=
  match cs with
  | '0' :: 'x' :: r => digitsIn? 16 r
  | '0' :: 'o' :: r => digitsIn? 8 r
  | '0' :: 'b' :: r => digitsIn? 2 r
  | r => digitsIn? 10 r

def int? (s : String) : Option Int :=
  let cs := s.toList
  if isZeroPadded cs then none
  else match cs with
    | '-' :: r => (magnitude? r).map fun n => -(n : Int)
    | '+' :: r => (magnitude? r).map Int.ofNat
    | r => (magnitude? r).map Int.ofNat

-- A finite number; infinities and NaN, written with a point in front, become null.
def float? (s : String) : Option Json :=
  if [".inf", ".Inf", ".INF", "+.inf", "+.Inf", "+.INF", "-.inf", "-.Inf", "-.INF", ".nan", ".NaN", ".NAN"].contains s
  then some .null
  else
    let twoSigns := match s.toList with
      | '+' :: c :: _ => c = '+' || c = '-'
      | _ => false
    if twoSigns then none
    else (Binary64.ofText? s).bind fun x => if x.isFinite then some (.number (.float x)) else none

-- Integers beyond 64 bits are refused up to 128 bits and doubles beyond.
def number? (s : String) : Option (Option Json) :=
  match int? s with
  | some i =>
    if Number.smallestSigned ≤ i ∧ i ≤ Number.largestUnsigned then some (some (.ofInt i))
    else if -(2 ^ 127) ≤ i ∧ i < 2 ^ 128 then some none
    else (float? s).map some
  | none => if isZeroPadded s.toList then none else (float? s).map some

-- A plain scalar; none where it is refused.
def plain? (s : String) : Option Json :=
  if isNullText s then some .null
  else match bool? s with
    | some b => some (.bool b)
    | none =>
      match number? s with
      | some r => r
      | none => some (.string s)

def core (name : String) : String := "tag:yaml.org,2002:" ++ name

def scalar? (tag : Option String) (s : String) (plain : Bool) : Option Json :=
  match tag with
  | none => if plain then plain? s else some (.string s)
  | some t =>
    if t.startsWith "!" then none
    else if t = core "bool" then (bool? s).map .bool
    else if t = core "int" then ((int? s).bind fun _ => (number? s).join)
    else if t = core "float" then float? s
    else if t = core "null" then if isNullText s && s != "" then some .null else none
    else some (.string s)

def isOwnTag (tag : Option String) : Bool := tag.any (·.startsWith "!")

mutual
def Node.toJson? : Node → Option Json
  | .scalar tag s plain => scalar? tag s plain
  | .sequence tag items => if isOwnTag tag then none else (itemsToJson? items).map .array
  | .mapping tag pairs => if isOwnTag tag then none else (pairsToJson? pairs).map fun ms => .object (NameMap.ofList ms)
def itemsToJson? : List Node → Option (List Json)
  | [] => some []
  | n :: ns => do
    let v ← n.toJson?
    let vs ← itemsToJson? ns
    return v :: vs
def pairsToJson? : List (Node × Node) → Option (List (String × Json))
  | [] => some []
  | (.scalar _ k _, n) :: ps => do
    let v ← n.toJson?
    let vs ← pairsToJson? ps
    return (k, v) :: vs
  | _ => none
end

def deepest : Nat := 128

def parse? (text : String) : Option Json := do
  let ts ← tokens? text
  let v ← (← Node.ofTokens? ts).toJson?
  if v.depth ≤ deepest then some v else none

end SchemaProbe.Yaml
