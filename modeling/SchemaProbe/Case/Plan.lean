import SchemaProbe.Api.Basic
import SchemaProbe.Case.Seed
import SchemaProbe.ValueType.Fill
import SchemaProbe.ValueType.Written

set_option autoImplicit false

namespace SchemaProbe

structure CaseSettings where
  seed : UInt64 := 0
  -- A cap on the cases of an operation, which never cuts below its documented statuses.
  maxCases : Option Nat := none
  randomCases : Nat := 2
  pathTexts : List (String × String) := []

structure ParameterValue where
  name : String
  location : Location
  value : Json

inductive CaseKind where
  | minimal
  | full
  | pin
  | random
deriving DecidableEq, Repr

def CaseKind.text : CaseKind → String
  | minimal => "minimal"
  | full => "full"
  | pin => "pin"
  | random => "random"

inductive Slot where
  | minimal
  | full
  | pin (parameter : Nat) (property : Option String) (value : Json)
  | random

def Slot.kind : Slot → CaseKind
  | minimal => .minimal
  | full => .full
  | pin .. => .pin
  | random => .random

structure TestCase where
  id : String
  index : Nat
  operation : Operation
  -- The documented status that the case is aimed at.
  target : Option StatusKey
  kind : CaseKind
  -- In the order of the parameters; optional ones may be absent.
  values : List ParameterValue

def TestCase.value? (c : TestCase) (name : String) (l : Location) : Option Json :=
  (c.values.find? fun v => v.name == name && v.location == l).map (·.value)

structure Unsatisfiable where
  location : Location
  name : String

def Unsatisfiable.message (u : Unsatisfiable) : String :=
  "required " ++ u.location.text ++ " parameter '" ++ u.name ++ "' cannot be generated"

namespace Slot

-- The configured value of a path parameter, if its type accepts it.
def fixedValue (settings : CaseSettings) (p : Parameter) : Option Json :=
  if p.location != .path then none
  else ((settings.pathTexts.lookup p.name).map p.type.read).filter p.type.accepts

-- Optional parameters are left out of minimal cases.
def minimalValue (p : Parameter) : Option Json := if p.required then Sample.fixed p.type .minimal else none

def isUnsatisfiable (p : Parameter) (fixed : Option Json) : Bool :=
  p.required && fixed.isNone && (Sample.fixed p.type .minimal).isNone

def hasOptional (p : Parameter) (fixed : Option Json) : Bool := fixed.isNone && (!p.required || p.type.hasOptional)

-- One pin per representative but the first.
def pins (i : Nat) (p : Parameter) (fixed : Option Json) : List Slot :=
  if fixed.isSome then []
  else match p.type with
    | .object _ ps =>
      ps.flatMap fun q => ((Sample.representatives q.type).drop 1).map (.pin i (some q.name))
    | t => ((Sample.representatives t).drop 1).map (.pin i none)

def planned (op : Operation) (fixed : List (Option Json)) (settings : CaseSettings) : List Slot :=
  let parameters := op.parameters.zip fixed
  [.minimal] ++ (if parameters.any fun (p, f) => hasOptional p f then [.full] else []) ++
    (parameters.zipIdx.flatMap fun ((p, f), i) => pins i p f) ++ List.replicate settings.randomCases .random

-- At least one slot per documented status.
def padded (statuses : Nat) (slots : List Slot) : List Slot :=
  slots ++ List.replicate (statuses - slots.length) .random

def capped (settings : CaseSettings) (statuses : Nat) (slots : List Slot) : List Slot :=
  match settings.maxCases with
  | some cap => slots.take (max (max cap statuses) 1)
  | none => slots

def ofOperation (op : Operation) (fixed : List (Option Json)) (settings : CaseSettings) : List Slot :=
  capped settings op.statuses.length (padded op.statuses.length (planned op fixed settings))

end Slot

structure CasePlan where
  operation : Operation
  fixed : List (Option Json)
  slots : Array Slot
  baseSeed : UInt64
  unsatisfiable : Option Unsatisfiable

namespace CasePlan

def ofOperation (op : Operation) (settings : CaseSettings) : CasePlan :=
  let fixed := op.parameters.map (Slot.fixedValue settings)
  let unsatisfiable := ((op.parameters.zip fixed).find? fun (p, f) => Slot.isUnsatisfiable p f).map fun (p, _) =>
    (⟨p.location, p.name⟩ : Unsatisfiable)
  { operation := op
    fixed
    slots := if unsatisfiable.isSome then #[] else (Slot.ofOperation op fixed settings).toArray
    baseSeed := Seed.hashText op.label ^^^ settings.seed
    unsatisfiable }

def size (plan : CasePlan) : Nat := plan.slots.size

-- The minimal value with one of its members set.
def pinned (p : Parameter) (property : Option String) (value : Json) : Option Json :=
  match property with
  | none => some value
  | some name => (Sample.fixed p.type .minimal).map (·.set name value)

def draw (slot : Slot) (i : Nat) (p : Parameter) : Draw (Option Json) :=
  match slot with
  | .minimal => return Slot.minimalValue p
  | .full => return Sample.fixed p.type .full
  | .pin j property value => return if j = i then pinned p property value else Slot.minimalValue p
  | .random => do
    let wanted ← if p.required then pure true else Draw.coin
    if !wanted then return none
    else
      let v ← Sample.fill p.type .random
      return v.orElse fun _ => Slot.minimalValue p

def drawValues (slot : Slot) : Nat → List (Parameter × Option Json) → Draw (List ParameterValue)
  | _, [] => return []
  | i, (p, fixed) :: rest => do
    let v ← match fixed with
      | some v => pure (some v)
      | none => draw slot i p
    let values ← drawValues slot (i + 1) rest
    return match v with
      | some v => ⟨p.name, p.location, v⟩ :: values
      | none => values

def drawCase (plan : CasePlan) (index : Nat) (slot : Slot) : Draw TestCase := do
  let id ← Draw.word
  let values ← drawValues slot 0 (plan.operation.parameters.zip plan.fixed)
  let statuses := plan.operation.statuses
  return {
    id := Text.hex 16 id.toNat
    index := min index (2 ^ 32 - 1)
    operation := plan.operation
    target := statuses[index % statuses.length]?
    kind := slot.kind
    values }

-- A case depends on the seed, the operation and its index alone.
def case? (plan : CasePlan) (index : Nat) : Option (Except DrawFault TestCase) :=
  (plan.slots[index]?).map fun slot =>
    (((plan.drawCase index slot).run (RandomSource.ofSeed (Seed.ofCase plan.baseSeed index))).map Prod.fst)

def cases (plan : CasePlan) : Except DrawFault (List TestCase) := ((List.range plan.size).filterMap plan.case?).mapM id

-- The case `skipped` places further on and the position behind it; the end where there is none.
def advance (plan : CasePlan) (position : Nat) : Nat → Except DrawFault (Option TestCase × Nat)
  | 0 =>
    match plan.case? position with
    | none => .ok (none, position)
    | some c => c.map fun c => (some c, position + 1)
  | skipped + 1 =>
    match plan.case? position with
    | none => .ok (none, position)
    | some c => c.bind fun _ => advance plan (position + 1) skipped

end CasePlan

end SchemaProbe
