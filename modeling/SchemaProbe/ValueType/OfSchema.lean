import SchemaProbe.ValueType.Merge

set_option autoImplicit false

namespace SchemaProbe

structure Resolved where
  keywords : Members
  nullable : Bool
  patterns : List String

namespace Resolved

-- The first variant that is not the null type, and whether the null type is among the variants.
def variants (vs : List Json) : Option Json × Bool :=
  (vs.find? fun v => !Keyword.isNullType v, vs.any Keyword.isNullType)

def variantList? (ms : Members) : Option (List Json) :=
  ((NameMap.get? ms "anyOf").bind Json.array?).orElse fun _ => (NameMap.get? ms "oneOf").bind Json.array?

-- allOf merges, otherwise anyOf or oneOf narrow to a variant; `fuel` bounds the nesting. No schema at all means that
-- every value is allowed.
def ofSchema : Nat → Json → Except TypeFault Resolved
  | 0, v => .error (.notObject v)
  | fuel + 1, v =>
    match v with
    | .bool true => .ok ⟨[], false, []⟩
    | .object ms =>
      let nullable := Keyword.isNullable ms
      if NameMap.contains ms "allOf" then do
        let (merged, patterns) ← Merge.merge (← Merge.parts (fuel + 1) v)
        .ok ⟨merged, nullable, patterns⟩
      else match variantList? ms with
        | some vs =>
          match variants vs with
          | (some variant, hasNull) => do
            let r ← ofSchema fuel variant
            .ok { r with nullable := r.nullable || nullable || hasNull }
          | (none, hasNull) => .ok ⟨[], nullable || hasNull, []⟩
        | none => .ok ⟨ms, nullable, []⟩
    | other => .error (.notObject other)

end Resolved

namespace ValueType

def declaredName (ms : Members) : Except TypeFault (Option String × Bool) :=
  match NameMap.get? ms "type" with
  | none => .ok (none, false)
  | some (.string t) => .ok (some t, false)
  | some (.array ts) =>
    let names := ts.filterMap Json.string?
    .ok (some ((names.find? (· != "null")).getD "null"), names.contains "null")
  | some other => .error (.typeNotText other)

def choices? (ms : Members) : Option (List Json) :=
  ((NameMap.get? ms "enum").bind Json.array?).map fun vs => vs.filter (!·.isNull)

def inferredName (ms : Members) : Option String :=
  if NameMap.contains ms "properties" then some "object"
  else if NameMap.contains ms "items" then some "array"
  else match choices? ms with
    | none | some [] => none
    | some vs =>
      if vs.all Json.isString then some "string"
      else if vs.all fun v => v.int?.isSome then some "integer"
      else if vs.all Json.isNumber then some "number"
      else if vs.all Json.isBool then some "boolean"
      else none

-- The choices of the wanted kind; none if there are none to choose from.
def choicesOf {α : Type} (pick : Json → Option α) (fault : TypeFault) (ms : Members) :
    Except TypeFault (Option (List α)) :=
  match choices? ms with
  | none => .ok none
  | some vs =>
    match vs.filterMap pick with
    | [] => if vs.isEmpty then .ok none else .error fault
    | picked => .ok (some picked)

def textRule (ms : Members) (furtherPatterns : List String) : Except TypeFault TextRule := do
  let choices ← choicesOf Json.string? .noTextChoice ms
  return {
    format := Keyword.text? ms "format"
    minLength := Keyword.size? ms "minLength"
    maxLength := Keyword.size? ms "maxLength"
    patterns := ((Keyword.text? ms "pattern").toList ++ furtherPatterns).map TextPattern.ofSource
    choices
    examples := ["default", "example", "x-example"].filterMap (Keyword.text? ms) }

def clampToInt64 (x : Binary64) : Int := x.toIntClamped Number.smallestSigned Number.largestSigned

def integerMinimum : Option Binary64 × Bool → Option Int
  | (none, _) => none
  | (some m, strict) =>
    let lo := m.ceil
    some (clampToInt64 (if strict && lo.eq m then lo + 1 else lo))

def integerMaximum : Option Binary64 × Bool → Option Int
  | (none, _) => none
  | (some m, strict) =>
    let hi := m.floor
    some (clampToInt64 (if strict && hi.eq m then hi - 1 else hi))

-- The integral step of integers. A fractional step `odd * 2^-k` admits the multiples of `odd`, and no negative one; the
-- flag tells whether the step is of this kind.
def integerStep (ms : Members) : Option Int × Bool :=
  match Merge.positiveStep? ms with
  | none => (none, false)
  | some m =>
    if m.isIntegral then (some (clampToInt64 m), false)
    else
      let odd := m.oddPart.1
      (if (odd : Int) ≤ Number.largestSigned then some (odd : Int) else none, true)

def integerRule (ms : Members) : Except TypeFault IntegerRule := do
  let lo := integerMinimum (Keyword.bound ms "minimum" "exclusiveMinimum")
  let hi := integerMaximum (Keyword.bound ms "maximum" "exclusiveMaximum")
  let (step, fractional) := integerStep ms
  let choices ← choicesOf Json.int? .noIntegerChoice ms
  return {
    minimum := if fractional then some (max (lo.getD 0) 0) else lo
    maximum := hi
    multipleOf := step
    choices }

def numberRule (ms : Members) : Except TypeFault NumberRule := do
  let (minimum, exclusiveMinimum) := Keyword.bound ms "minimum" "exclusiveMinimum"
  let (maximum, exclusiveMaximum) := Keyword.bound ms "maximum" "exclusiveMaximum"
  let choices ← choicesOf Json.binary64? .noNumberChoice ms
  return {
    minimum, maximum, exclusiveMinimum, exclusiveMaximum
    multipleOf := Merge.positiveStep? ms
    choices }

def arrayRule (ms : Members) : ArrayRule where
  minItems := (Keyword.size? ms "minItems").getD 0
  maxItems := Keyword.size? ms "maxItems"
  uniqueItems := Keyword.flag ms "uniqueItems"

def requiredNames (ms : Members) : List String := (Keyword.elements ms "required").filterMap Json.string?

def declaredProperties (ms : Members) : Members := ((NameMap.get? ms "properties").bind Json.object?).getD []

-- `fuel` bounds the descent through `items` and `properties`.
def build : Nat → Json → Except TypeFault ValueType
  | 0, v => .error (.notObject v)
  | fuel + 1, v => do
    let r ← Resolved.ofSchema (v.depth + 1) v
    let (name, hasNull) ← declaredName r.keywords
    let n := r.nullable || hasNull
    match name.orElse fun _ => inferredName r.keywords with
    | none => return any n
    | some "string" => return text n (← textRule r.keywords r.patterns)
    | some "integer" => return integer n (← integerRule r.keywords)
    | some "number" => return number n (← numberRule r.keywords)
    | some "boolean" => return boolean n
    | some "array" =>
      let items ← match NameMap.get? r.keywords "items" with
        | some items => (build fuel items).mapError .inItems
        | none => .ok (any false)
      return array n items (arrayRule r.keywords)
    | some "object" =>
      let required := requiredNames r.keywords
      let properties ← (declaredProperties r.keywords).mapM fun (name, v) => do
        let t ← (build fuel v).mapError (.inProperty name)
        return ⟨name, required.contains name, t⟩
      return object n properties
    | some "null" => return any true
    | some other => throw (.unknownType other)

-- The type of a schema. Composition does not add to the depth of `items` and `properties`, so the nesting of the schema
-- bounds the descent.
def ofSchema (v : Json) : Except TypeFault ValueType := build (v.depth + 1) v

end ValueType

end SchemaProbe
