import SchemaProbe.ValueType.Basic
import SchemaProbe.ValueType.Keyword

set_option autoImplicit false

namespace SchemaProbe.Merge

-- The parts of a schema: its own keywords, the first non-null variant of each anyOf or oneOf, and the allOf parts, all
-- of them flattened alike. `fuel` bounds the nesting.
def parts : Nat → Json → Except TypeFault (List Members)
  | 0, v => .error (.partNotObject v)
  | fuel + 1, v =>
    match v with
    | .bool true => .ok []
    | .object ms => do
      let own := ms.filter fun m => m.1 != "allOf" && m.1 != "anyOf" && m.1 != "oneOf"
      let fromVariant ← match (variant? ms "anyOf").orElse fun _ => variant? ms "oneOf" with
        | some variant => parts fuel variant
        | none => .ok []
      match NameMap.get? ms "allOf" with
      | none => .ok (own :: fromVariant)
      | some (.array vs) => do
        let rest ← vs.mapM (parts fuel)
        .ok (own :: fromVariant ++ rest.flatten)
      | some other => .error (.partsNotArray other)
    | other => .error (.partNotObject other)
where
  variant? (ms : Members) (key : String) : Option Json :=
    (Keyword.elements ms key).find? fun v => !Keyword.isNullType v

def declaredType? (ms : Members) : Option String :=
  match NameMap.get? ms "type" with
  | some (.string t) => if t = "null" then none else some t
  | some (.array ts) => (ts.filterMap Json.string?).find? (· != "null")
  | _ => none

def isNumeric (t : String) : Bool := t == "integer" || t == "number"

def combineTypes (current : Option String) (t : String) : Except TypeFault String :=
  match current with
  | none => .ok t
  | some prev =>
    if prev == t then .ok prev
    else if isNumeric prev && isNumeric t then .ok "integer"
    else .error (.typesDiffer prev t)

-- Integral doubles below this are exact.
def exactLimit : Binary64 := Binary64.ofNat (2 ^ 53)

def commonStep (a b : Binary64) : Except TypeFault Binary64 :=
  if a.isIntegral && b.isIntegral && a.lt exactLimit && b.lt exactLimit then
    let x := a.toRat.num.toNat
    let y := b.toRat.num.toNat
    let l := x / Nat.gcd x y * y
    if l < 2 ^ 64 then .ok (Binary64.ofNat l) else .error (.stepOverflow a b)
  else if a.isMultipleOf b then .ok a
  else if b.isMultipleOf a then .ok b
  else .error (.noCommonStep a b)

def combineSteps (current : Option Binary64) (step : Binary64) : Except TypeFault Binary64 :=
  match current with
  | none => .ok step
  | some cur => commonStep cur step

def positiveStep? (ms : Members) : Option Binary64 :=
  (Keyword.number? ms "multipleOf").filter fun m => Binary64.lt 0 m

def typeAndStep (parts : List Members) : Except TypeFault (Option String × Option Binary64) :=
  parts.foldlM
    (fun (type, step) ms => do
      let type ← match declaredType? ms with
        | some t => some <$> combineTypes type t
        | none => .ok type
      let step ← match positiveStep? ms with
        | some m => some <$> combineSteps step m
        | none => .ok step
      .ok (type, step))
    (none, none)

def addProperty (acc : Members) (m : String × Json) : Members :=
  match NameMap.get? acc m.1 with
  | some existing => NameMap.insert acc m.1 (.object [("allOf", .array [existing, m.2])])
  | none => NameMap.insert acc m.1 m.2

def properties (parts : List Members) : Members :=
  parts.foldl
    (fun acc ms => (((NameMap.get? ms "properties").bind Json.object?).getD []).foldl addProperty acc) []

def distinct (vs : List Json) : List Json :=
  vs.foldl (fun acc v => if acc.contains v then acc else acc ++ [v]) []

def required (parts : List Members) : List Json := distinct (parts.flatMap fun ms => Keyword.elements ms "required")

def choices (parts : List Members) : Option (List Json) :=
  parts.foldl
    (fun acc ms =>
      match (NameMap.get? ms "enum").bind Json.array?, acc with
      | none, acc => acc
      | some values, none => some values
      | some values, some current => some (current.filter fun v => values.contains v))
    none

-- The tighter of the bounds, where `beyond` orders tighter ones first; an exclusive bound wins a tie.
def tightest (inclusive exclusive : String) (beyond : Binary64 → Binary64 → Bool) (parts : List Members) :
    Option (Binary64 × Bool) :=
  parts.foldl
    (fun acc ms =>
      match Keyword.bound ms inclusive exclusive, acc with
      | (none, _), acc => acc
      | (some v, b), none => some (v, b)
      | (some v, b), some (cur, curExclusive) =>
        if beyond cur v || (cur.eq v && curExclusive) then some (cur, curExclusive) else some (v, b))
    none

def lower (parts : List Members) : Option (Binary64 × Bool) :=
  tightest "minimum" "exclusiveMinimum" (fun a b => b.lt a) parts

def upper (parts : List Members) : Option (Binary64 × Bool) :=
  tightest "maximum" "exclusiveMaximum" (fun a b => a.lt b) parts

def items (parts : List Members) : List Json := parts.filterMap fun ms => NameMap.get? ms "items"

def patterns (parts : List Members) : List String :=
  (parts.filterMap fun ms => Keyword.text? ms "pattern").foldl
    (fun acc p => if acc.contains p then acc else acc ++ [p]) []

def size? (key : String) (pick : Nat → Nat → Nat) (parts : List Members) : Option Nat :=
  parts.foldl
    (fun acc ms =>
      match Keyword.size? ms key, acc with
      | none, acc => acc
      | some n, none => some n
      | some n, some cur => some (pick cur n))
    none

-- Keywords that are combined; `nullable` of a part is not kept.
def combined : List String :=
  ["allOf", "anyOf", "oneOf", "type", "properties", "required", "enum", "minimum", "maximum", "exclusiveMinimum",
    "exclusiveMaximum", "multipleOf", "items", "pattern", "uniqueItems", "minLength", "maxLength", "minItems",
    "maxItems", "nullable", "x-nullable"]

def others (parts : List Members) : Members :=
  parts.foldl
    (fun acc ms =>
      ms.foldl
        (fun acc m =>
          if combined.contains m.1 || NameMap.contains acc m.1 then acc else NameMap.insert acc m.1 m.2)
        acc)
    []

def boundMembers (inclusive exclusive : String) (b : Option (Binary64 × Bool)) : Members :=
  match b with
  | some (v, strict) => [(inclusive, .number (.float v)), (exclusive, .bool strict)]
  | none => []

def sizeMember (key : String) (n : Option Nat) : Members :=
  match n with
  | some n => [(key, .ofNat n)]
  | none => []

def itemsMember : List Json → Members
  | [] => []
  | [item] => [("items", item)]
  | many => [("items", .object [("allOf", .array many)])]

def combinedMembers (type : Option String) (step : Option Binary64) (parts : List Members) : Members :=
  let props := properties parts
  let req := required parts
  (match type with
    | some t => [("type", Json.string t)]
    | none => []) ++
  (if props.isEmpty then [] else [("properties", Json.object props)]) ++
  (if req.isEmpty then [] else [("required", Json.array req)]) ++
  (match choices parts with
    | some vs => [("enum", Json.array vs)]
    | none => []) ++
  boundMembers "minimum" "exclusiveMinimum" (lower parts) ++
  boundMembers "maximum" "exclusiveMaximum" (upper parts) ++
  (match step with
    | some m => [("multipleOf", Json.ofBinary64 m)]
    | none => []) ++
  itemsMember (items parts) ++
  (match patterns parts with
    | p :: _ => [("pattern", Json.string p)]
    | [] => []) ++
  (if parts.any fun ms => Keyword.flag ms "uniqueItems" then [("uniqueItems", Json.bool true)] else []) ++
  sizeMember "minLength" (size? "minLength" max parts) ++
  sizeMember "maxLength" (size? "maxLength" min parts) ++
  sizeMember "minItems" (size? "minItems" max parts) ++
  sizeMember "maxItems" (size? "maxItems" min parts)

-- Bounds tighten, enums intersect, properties and required names unite; other keywords keep their first value.
def merge (parts : List Members) : Except TypeFault (Members × List String) := do
  let (type, step) ← typeAndStep parts
  if choices parts == some [] then throw .noCommonChoice
  let own := combinedMembers type step parts
  return (own.foldl (fun acc m => NameMap.insert acc m.1 m.2) (others parts), (patterns parts).drop 1)

end SchemaProbe.Merge
