import SchemaProbe.Config.Advice
import SchemaProbe.Report.Written
import SchemaProbe.Run.Basic

set_option autoImplicit false

namespace SchemaProbe

structure OperationPlan where
  operation : String
  method : String
  path : String
  cases : Nat
  statuses : List String
  -- Locations and names, the required ones marked with a star.
  parameters : List String
  skipped : Option String := none
deriving DecidableEq, Repr

structure RunPlan where
  baseUrl : String
  schema : String
  operations : List OperationPlan
  totalCases : Nat
  advice : List Advice
deriving DecidableEq, Repr

namespace OperationPlan

def largestCount : Nat := 2 ^ 32 - 1

def parameterText (p : Parameter) : String := p.location.text ++ ":" ++ p.name ++ (if p.required then "*" else "")

def ofOperation (p : Probe) (op : Operation) : OperationPlan :=
  let plan := p.casePlan op
  { operation := op.label
    method := op.method.text
    path := op.path
    cases := (plan.toOption.map fun c => min c.size largestCount).getD 0
    statuses := op.statuses.map StatusKey.text
    parameters := op.parameters.map parameterText
    skipped := match plan with
      | .error reason => some reason
      | .ok _ => none }

def listLine (title : String) (items : List String) : List String :=
  if items.isEmpty then [] else ["  " ++ title ++ ": " ++ ", ".intercalate items]

def lines (o : OperationPlan) : List String :=
  [o.operation ++ " (" ++ toString o.cases ++ " cases):"] ++
    (o.skipped.map fun reason => "  Skipped: " ++ reason).toList ++
    listLine "Statuses" o.statuses ++ listLine "Parameters" o.parameters ++ [""]

def toJson (o : OperationPlan) : Json :=
  .object ([("operation", .string o.operation), ("method", .string o.method), ("path", .string o.path),
    ("cases", .ofNat o.cases), ("declared_statuses", Written.texts o.statuses),
    ("parameters", Written.texts o.parameters)] ++ Written.optional "skipped" (o.skipped.map .string))

end OperationPlan

def Advice.toJson (a : Advice) : Json :=
  .object [("check", .string a.topic), ("status", .string a.level.name), ("message", .string a.message)]

def Advice.onApi (a : Api) : Advice :=
  ⟨"schema_parse", if a.operations.isEmpty then .error else .ok,
    "schema parsed: " ++ a.title ++ " (" ++ a.dialect.text ++ "), " ++ toString a.operations.length ++ " operations"⟩

def Probe.plan (p : Probe) (c : Config) (found : Bool) : RunPlan :=
  let operations := p.api.operations.map (OperationPlan.ofOperation p)
  { baseUrl := p.baseUrl
    schema := p.location
    operations
    totalCases := operations.foldr (fun o total => o.cases + total) 0
    advice := c.advice found ++ [Advice.onApi p.api] }

namespace RunPlan

def lines (r : RunPlan) : List String :=
  ["Plan: " ++ toString r.operations.length ++ " operations, " ++ toString r.totalCases ++ " cases against " ++
      r.baseUrl ++ " (schema: " ++ r.schema ++ ")", ""] ++
    r.operations.flatMap OperationPlan.lines ++ ["Config validation:"] ++
    r.advice.map fun a => "  [" ++ a.level.mark ++ "] " ++ a.message

def terminal (r : RunPlan) : String := "\n".intercalate r.lines

def hasErrors (r : RunPlan) : Bool := r.advice.any (·.level == .error)

def hasWarnings (r : RunPlan) : Bool := r.advice.any (·.level == .warning)

def toJson (r : RunPlan) : Json :=
  .object [("base_url", .string r.baseUrl), ("schema", .string r.schema),
    ("operations", .array (r.operations.map OperationPlan.toJson)), ("total_cases", .ofNat r.totalCases),
    ("validations", .array (r.advice.map Advice.toJson))]

end RunPlan

end SchemaProbe
