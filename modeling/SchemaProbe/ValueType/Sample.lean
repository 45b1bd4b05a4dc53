import SchemaProbe.ValueType.Basic

set_option autoImplicit false

namespace SchemaProbe

inductive Fill where
  | minimal
  | full
  | random
deriving DecidableEq, Repr

namespace Sample

def deepest : Nat := 20
def longestText : Nat := 256
def longestArray : Nat := 8
def attempts : Nat := 16

def guesses : List String := ["1", "0", "42", "a", "abc", "A", "ABC", "a1", "test", "sample", "1.0", "a-b"]

-- The word "sample" over and over, cut to a length.
def sizedText (length : Nat) : String :=
  String.ofList ((List.range length).map fun i => ['s', 'a', 'm', 'p', 'l', 'e'].getD (i % 6) 's')

def texts (r : TextRule) : List Json :=
  match r.choices with
  | some values => values.map .string
  | none =>
    let lo := min (r.minLength.getD 0) longestText
    let hi := max (min (r.maxLength.getD longestText) longestText) lo
    let typical := max (max lo 1) (min 6 (max hi 1))
    (r.examples ++ (r.format.bind TextFormat.sample?).toList ++ [sizedText typical] ++
      (if r.minLength.isSome then [sizedText lo] else []) ++
      (if r.maxLength.isSome then [sizedText hi] else []) ++
      (if r.patterns.isEmpty then [] else guesses)).map .string

def clampSigned (i : Int) : Int := max Number.smallestSigned (min Number.largestSigned i)

def integers (r : IntegerRule) : List Json :=
  match r.choices with
  | some values => values.map .ofInt
  | none =>
    let middle := match r.minimum, r.maximum with
      | some lo, some hi => [clampSigned (lo + (clampSigned (hi - lo)).tdiv 2)]
      | _, _ => []
    let stepped := match r.multipleOf with
      | some m =>
        m :: (r.minimum.toList.map fun lo => clampSigned (clampSigned (lo / m + 1) * m)) ++
          (r.maximum.toList.map fun hi => clampSigned (hi / m * m))
      | none => []
    ([1, 0] ++ r.minimum.toList ++ r.maximum.toList ++ middle ++ stepped).map .ofInt

def half : Binary64 := (1 : Binary64) / 2

def numbers (r : NumberRule) : List Json :=
  match r.choices with
  | some values => values.map .ofBinary64
  | none =>
    let middle := match r.minimum, r.maximum with
      | some lo, some hi => [lo + (hi - lo) / 2]
      | _, _ => []
    let raw : List Binary64 := [1, 0] ++ r.minimum.toList ++ r.maximum.toList ++ r.minimum.toList.map (· + half) ++
      r.maximum.toList.map (· - half) ++ middle
    let stepped := match r.multipleOf with
      | some m => (raw.flatMap fun x => [(x / m).ceil * m, (x / m).floor * m]) ++ [m, 2 * m, 4 * m]
      | none => []
    ((raw ++ stepped).filter Binary64.isFinite).map .ofBinary64

-- `length` elements of `items`, over and over, from the `start`-th on.
def cycle (items : List Json) (length start : Nat) : Json :=
  .array ((List.range length).map fun i => items.getD ((start + i) % items.length) .null)

-- One array per representative of the items, then the length bounds.
def arrays (items : List Json) (r : ArrayRule) : List Json :=
  if items.isEmpty then (if r.minItems = 0 then [.array []] else [])
  else
    let longest := min (r.maxItems.getD longestArray) (max longestArray r.minItems)
    (List.range items.length).map (cycle items (max r.minItems 1)) ++
      [cycle items r.minItems 0, cycle items longest 0]

def acceptedOnce (t : ValueType) (proposals : List Json) : List Json :=
  proposals.foldl (fun acc v => if t.accepts v && !acc.contains v then acc ++ [v] else acc) []

mutual
-- Representatives at a nesting depth; `room` is how much deeper they may nest.
def representativesAt : ValueType → Nat → List Json
  | _, 0 => []
  | t, room + 1 =>
    acceptedOnce t <| match t with
      | .text _ r => texts r
      | .integer _ r => integers r
      | .number _ r => numbers r
      | .boolean _ => [.bool true, .bool false]
      | .array _ items r => arrays (representativesAt items room) r
      | .object _ ps => (fixedMembers ps .minimal room).toList.map .object ++ (fixedMembers ps .full room).toList.map .object
      | .any _ => [.string "sample"]
-- Members with the first representatives: the required ones, or with `full` all.
def fixedMembers : List (Property ValueType) → Fill → Nat → Option Members
  | [], _, _ => some []
  | ⟨name, required, t⟩ :: ps, fill, room => do
    if !required && fill == .minimal then fixedMembers ps fill room
    else
      let value := match t with
        | .object _ nested => (fixedMembers nested fill (room - 1)).map Json.object
        | t => (representativesAt t room).head?
      match value with
      | some v => (fixedMembers ps fill room).map fun ms => NameMap.insert ms name v
      | none => if required then none else fixedMembers ps fill room
end

def representatives (t : ValueType) : List Json := representativesAt t (deepest + 1)

end Sample

end SchemaProbe
