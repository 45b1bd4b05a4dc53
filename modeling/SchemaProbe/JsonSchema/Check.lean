import SchemaProbe.JsonSchema.Violation
import SchemaProbe.JsonSchema.WellFormed
import SchemaProbe.ValueType.Basic

set_option autoImplicit false

namespace SchemaProbe.JsonSchema

abbrev Check := Json → List Violation

def reportIf (bad : Bool) (v : Violation) : List Violation := if bad then [v] else []

def numeric (rule : Number → Bool) (violation : Json → Violation) : Check := fun v =>
  match v with
  | .number n => reportIf (!rule n) (violation v)
  | _ => []

def textual (rule : String → Bool) (violation : Json → Violation) : Check := fun v =>
  match v with
  | .string s => reportIf (!rule s) (violation v)
  | _ => []

def listed (rule : List Json → Bool) (violation : Json → Violation) : Check := fun v =>
  match v with
  | .array xs => reportIf (!rule xs) (violation v)
  | _ => []

def membered (rule : Members → Bool) (violation : Json → Violation) : Check := fun v =>
  match v with
  | .object ms => reportIf (!rule ms) (violation v)
  | _ => []

def sizeValue (v : Json) : Nat := (v.number?.map fun n => n.toRat.floor.toNat).getD 0

def limitValue (v : Json) : Rat := (v.number?.map Number.toRat).getD 0

def ordered (names : List String) : List String := typeNames.filter names.contains

def typeCheck (value : Json) : Check :=
  let names := match value with
    | .string t => [t]
    | .array ts => ordered (ts.filterMap Json.string?)
    | _ => []
  fun v => reportIf (!names.any (hasType · v)) (.type v names)

def requiredCheck (names : List Json) : Check := fun v =>
  match v with
  | .object ms => (names.filter fun n => !(n.string?.any (NameMap.contains ms))).map .missing
  | _ => []

def dependentRequiredCheck (rules : Members) : Check := fun v =>
  match v with
  | .object ms => rules.flatMap fun (name, names) =>
    if NameMap.contains ms name then requiredCheck (names.array?.getD []) v else []
  | _ => []

-- Keywords that need neither subschemas nor other keywords.
def dataCheck (keyword : String) (value : Json) : Check :=
  match keyword with
  | "type" => typeCheck value
  | "const" => fun v => reportIf (!same value v) (.const value)
  | "enum" =>
    let options := value.array?.getD []
    fun v => reportIf (!options.any (same v)) (.choice v options)
  | "minimum" => numeric (fun n => limitValue value ≤ n.toRat) (.belowMinimum · value)
  | "maximum" => numeric (fun n => n.toRat ≤ limitValue value) (.aboveMaximum · value)
  | "exclusiveMinimum" => numeric (fun n => limitValue value < n.toRat) (.notAbove · value)
  | "exclusiveMaximum" => numeric (fun n => n.toRat < limitValue value) (.notBelow · value)
  | "multipleOf" =>
    let step := (value.binary64?).getD 1
    numeric
      (fun n => if step.isIntegral then n.toBinary64.isMultipleOf step else n.toBinary64.isWrittenMultipleOf step)
      (.multiple · step)
  | "minLength" => textual (fun s => sizeValue value ≤ s.length) (.tooShort · (sizeValue value))
  | "maxLength" => textual (fun s => s.length ≤ sizeValue value) (.tooLong · (sizeValue value))
  | "minItems" => listed (fun xs => sizeValue value ≤ xs.length) (.tooFewItems · (sizeValue value))
  | "maxItems" => listed (fun xs => xs.length ≤ sizeValue value) (.tooManyItems · (sizeValue value))
  | "minProperties" => membered (fun ms => sizeValue value ≤ ms.length) (.tooFewMembers · (sizeValue value))
  | "maxProperties" => membered (fun ms => ms.length ≤ sizeValue value) (.tooManyMembers · (sizeValue value))
  | "required" => requiredCheck (value.array?.getD [])
  | "dependentRequired" => dependentRequiredCheck (value.object?.getD [])
  | "pattern" =>
    let source := value.string?.getD ""
    let pattern := Pattern.schema? source
    textual (fun s => pattern.any (·.occursIn s)) (.pattern · source)
  | "uniqueItems" => if value == .bool true then listed allDistinct .repeated else fun _ => []
  | _ => fun _ => []

-- Members beside the declared and the pattern ones: refused together, or checked one by one. Where none are declared
-- and all are refused, the first one counts as a value that no schema allows.
inductive Additional where
  | allowed
  | refused
  | allRefused
  | checked (check : Check)

structure MemberRules where
  declared : List (String × Check)
  patterned : List (Pattern × Check)
  additional : Additional

def MemberRules.checkMember (r : MemberRules) (name : String) (v : Json) : List Violation :=
  let named := r.declared.lookup name
  let fitting := r.patterned.filter fun p => p.1.occursIn name
  let known := (named.map fun c => c v).getD [] ++ fitting.flatMap fun p => p.2 v
  if named.isSome || !fitting.isEmpty then known
  else match r.additional with
    | .checked c => c v
    | _ => []

def MemberRules.isKnown (r : MemberRules) (name : String) : Bool :=
  (r.declared.lookup name).isSome || r.patterned.any fun p => p.1.occursIn name

-- Whether the rules look at a member, and find nothing.
def MemberRules.evaluates (r : MemberRules) (name : String) (v : Json) : Bool :=
  (r.checkMember name v).isEmpty && (r.isKnown name || match r.additional with
    | .checked _ => true
    | _ => false)

-- The members in the order of their names, and the unexpected ones last, in one violation.
def MemberRules.check (r : MemberRules) : Check := fun v =>
  match v with
  | .object ms =>
    let refused := match r.additional with
      | .refused =>
        let unexpected := (NameMap.names ms).filter fun n => !r.isKnown n
        reportIf (!unexpected.isEmpty) (.unexpected unexpected)
      | .allRefused => (ms.head?.map fun m => .never m.2).toList
      | _ => []
    ms.flatMap (fun m => r.checkMember m.1 m.2) ++ refused
  | _ => []

def memberRules (es : List (Entry Check)) : MemberRules where
  declared := subNamed es "properties"
  patterned := (subNamed es "patternProperties").filterMap fun p => (Pattern.schema? p.1).map (·, p.2)
  additional :=
    match entryFor es "additionalProperties" with
    | none => .allowed
    | some e =>
      if e.value == .bool false then
        if (entryFor es "properties").isSome || (entryFor es "patternProperties").isSome then .refused else .allRefused
      else ((e.sub.one?).map .checked).getD .allowed

def itemsCheck (es : List (Entry Check)) : Check := fun v =>
  match v with
  | .array xs =>
    let fixed := subMany es "prefixItems"
    ((xs.zip fixed).flatMap fun (x, c) => c x) ++
      match subOne? es "items" with
      | some c => (xs.drop fixed.length).flatMap c
      | none => []
  | _ => []

def containsCheck (es : List (Entry Check)) : Check := fun v =>
  match v, subOne? es "contains" with
  | .array xs, some c =>
    let n := (xs.filter fun x => (c x).isEmpty).length
    let least := ((entryFor es "minContains").map fun e => sizeValue e.value).getD 1
    let most := (entryFor es "maxContains").map fun e => sizeValue e.value
    reportIf (n < least || most.any (· < n)) (.contains v)
  | _, _ => []

def conditionCheck (es : List (Entry Check)) : Check := fun v =>
  match subOne? es "if" with
  | none => []
  | some c =>
    match subOne? es (if (c v).isEmpty then "then" else "else") with
    | some branch => branch v
    | none => []

def namesCheck (es : List (Entry Check)) : Check := fun v =>
  match v, subOne? es "propertyNames" with
  | .object ms, some c => (NameMap.names ms).flatMap fun n => c (.string n)
  | _, _ => []

def dependentSchemasCheck (es : List (Entry Check)) : Check := fun v =>
  match v with
  | .object ms => (subNamed es "dependentSchemas").flatMap fun (n, c) => if NameMap.contains ms n then c v else []
  | _ => []

def anyOfCheck (checks : List Check) : Check := fun v => reportIf (!checks.any fun c => (c v).isEmpty) (.anyOf v)

def oneOfCheck (checks : List Check) : Check := fun v =>
  match (checks.filter fun c => (c v).isEmpty).length with
  | 0 => [.oneOfNone v]
  | 1 => []
  | _ => [.oneOfSeveral v]

def notCheck (es : List (Entry Check)) : Check := fun v =>
  match entryFor es "not" with
  | some e => reportIf (((e.sub.one?).map fun c => (c v).isEmpty).getD false) (.excluded v e.value)
  | none => []

-- Keywords in the order in which they report; the members and the names required of them come after the others
-- where they are checked together.
def dataOrder (requiredLast : Bool) : List String :=
  ["type", "const", "enum", "minimum", "maximum", "exclusiveMinimum", "exclusiveMaximum", "multipleOf", "minLength",
    "maxLength", "minItems", "maxItems", "minProperties", "maxProperties"] ++
  (if requiredLast then [] else ["required"]) ++ ["dependentRequired", "pattern", "uniqueItems"]

-- One required name beside declared members and no others is checked with them.
def requiredLast (es : List (Entry Check)) : Bool :=
  (entryFor es "properties").isSome && (entryFor es "additionalProperties").any (·.value == .bool false) &&
    (entryFor es "required").any fun e => (e.value.array?.getD []).length = 1

def dataChecks (es : List (Entry Check)) (keywords : List String) : List Check :=
  keywords.filterMap fun k => (entryFor es k).map fun e => dataCheck k e.value

def node (es : List (Entry Check)) : Check :=
  let last := requiredLast es
  let rules := memberRules es
  let checks : List Check :=
    dataChecks es (dataOrder last) ++ [rules.check] ++ (if last then dataChecks es ["required"] else []) ++
      [namesCheck es, dependentSchemasCheck es, itemsCheck es, containsCheck es] ++ subMany es "allOf" ++
      (if (entryFor es "anyOf").isSome then [anyOfCheck (subMany es "anyOf")] else []) ++
      (if (entryFor es "oneOf").isSome then [oneOfCheck (subMany es "oneOf")] else []) ++
      [notCheck es, conditionCheck es]
  fun v => checks.flatMap fun c => c v

-- What a schema reports of a value, and which members and elements of the value it evaluates if it reports nothing.
structure Evaluation where
  check : Check
  names : Json → List String
  places : Json → List Nat

namespace Evaluation

-- The schemas for the value itself that it fits: what they evaluate is evaluated where they stand.
def fitting (es : List (Entry Evaluation)) (v : Json) : List Evaluation :=
  let dependent := (subNamed es "dependentSchemas").filter fun d => v.object?.any (NameMap.contains · d.1)
  let conditional := match subOne? es "if" with
    | none => []
    | some c => c :: (subOne? es (if (c.check v).isEmpty then "then" else "else")).toList
  (subMany es "allOf" ++ subMany es "anyOf" ++ subMany es "oneOf" ++ dependent.map (·.2) ++ conditional).filter
    fun s => (s.check v).isEmpty

def members (v : Json) : Members := v.object?.getD []

def elements (v : Json) : List (Nat × Json) := ((v.array?.getD []).zipIdx).map Prod.swap

def namesBeside (es : List (Entry Evaluation)) (v : Json) : List String :=
  let rules := memberRules (es.map (Entry.map check))
  NameMap.names ((members v).filter fun m => rules.evaluates m.1 m.2) ++ (fitting es v).flatMap fun s => s.names v

def placesBeside (es : List (Entry Evaluation)) (v : Json) : List Nat :=
  let fixed := (subMany es "prefixItems").length
  let own := (elements v).filter fun x => x.1 < fixed || (subOne? es "items").isSome ||
    (subOne? es "contains").any fun s => (s.check x.2).isEmpty
  own.map (·.1) ++ (fitting es v).flatMap fun s => s.places v

-- The parts that no other keyword has seen, and that a schema for such parts refuses.
def refused {κ : Type} [BEq κ] (s : Evaluation) (seen : List κ) (parts : List (κ × Json)) : List (κ × Json) :=
  parts.filter fun p => !seen.contains p.1 && !(s.check p.2).isEmpty

def checkMembers (es : List (Entry Evaluation)) : Check := fun v =>
  match subOne? es "unevaluatedProperties" with
  | some s =>
    let ms := refused s (namesBeside es v) (members v)
    reportIf (!ms.isEmpty) (.unevaluatedMembers (NameMap.names ms))
  | none => []

def checkElements (es : List (Entry Evaluation)) : Check := fun v =>
  match subOne? es "unevaluatedItems" with
  | some s =>
    let xs := refused s (placesBeside es v) (elements v)
    reportIf (!xs.isEmpty) (.unevaluatedElements (xs.map (·.2)))
  | none => []

def ofEntries (es : List (Entry Evaluation)) : Evaluation where
  check v := node (es.map (Entry.map check)) v ++ checkMembers es v ++ checkElements es v
  names v := if (subOne? es "unevaluatedProperties").isSome then NameMap.names (members v) else namesBeside es v
  places v := if (subOne? es "unevaluatedItems").isSome then (elements v).map (·.1) else placesBeside es v

end Evaluation

def leaf (schema : Json) : Check := fun v => reportIf (schema == .bool false) (.never v)

-- References are no keywords here: those of a document are replaced as it is read, and dynamic ones are not followed.
def evaluation (schema : Json) : Evaluation := fold position (fun s => ⟨leaf s, fun _ => [], fun _ => []⟩)
  Evaluation.ofEntries schema

def check (schema : Json) : Check := (evaluation schema).check

def accepts (schema v : Json) : Bool := (check schema v).isEmpty

end SchemaProbe.JsonSchema
