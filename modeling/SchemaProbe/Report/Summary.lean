import SchemaProbe.Report.Basic

set_option autoImplicit false

namespace SchemaProbe

structure RunSummary where
  operations : Nat
  cases : Nat
  passed : Nat
  failed : Nat
  errors : Nat
  inconclusive : Nat
  skippedOperations : Nat
deriving DecidableEq, Repr

structure Tally where
  check : Check
  passed : Nat := 0
  failed : Nat := 0
  inconclusive : Nat := 0
  diagnostics : List String := []
deriving DecidableEq, Repr

structure OperationSummary where
  operation : String
  cases : Nat
  tallies : List Tally
  errors : List String
  skipped : Option String
deriving DecidableEq, Repr

structure Failure where
  caseId : String
  operation : String
  check : Check
  severity : Severity
  status : UInt16
  message : String
  request : RequestRecord
deriving DecidableEq, Repr

def mostDiagnostics : Nat := 3

def keepMessage (kept : List String) (message : String) : List String :=
  if kept.length < mostDiagnostics ∧ message ∉ kept then kept ++ [message] else kept

namespace Tally

def record (t : Tally) (r : CheckResult) : Tally :=
  if r.passed then { t with passed := t.passed + 1 }
  else
    { t with
      failed := t.failed + 1
      diagnostics := (r.message.map (keepMessage t.diagnostics)).getD t.diagnostics }

def miss (t : Tally) : Tally := { t with inconclusive := t.inconclusive + 1 }

-- A result goes to the first tally of its check.
def recordIn : List Tally → CheckResult → List Tally
  | [], _ => []
  | t :: ts, r => if t.check = r.check then t.record r :: ts else t :: recordIn ts r

-- A case that was not checked counts as inconclusive for every check.
def addCase (ts : List Tally) : Outcome → List Tally
  | .checked _ results => results.foldl recordIn ts
  | _ => ts.map miss

end Tally

namespace RunReport

def summary (r : RunReport) : RunSummary :=
  { operations := r.operations.length
    cases := r.cases.length
    passed := r.cases.countP (·.outcome.isPassed)
    failed := r.cases.countP (·.outcome.isFailed)
    errors := r.cases.countP (·.outcome.error?.isSome)
    inconclusive := r.cases.countP (·.outcome.isInconclusive)
    skippedOperations := r.skipped.length }

def casesOf (r : RunReport) (label : String) : List CaseRecord := r.cases.filter fun c => c.operation == label

def skipReason? (r : RunReport) (label : String) : Option String :=
  (r.skipped.find? fun s => s.operation == label).map (·.reason)

def operationSummary (r : RunReport) (label : String) : OperationSummary :=
  let cases := r.casesOf label
  let tallies := (cases.map (·.outcome)).foldl Tally.addCase (r.checks.map fun c => { check := c })
  let skipped := r.skipReason? label
  { operation := label
    cases := cases.length
    tallies := if skipped.isSome then tallies.map Tally.miss else tallies
    errors := (cases.filterMap (·.outcome.error?)).foldl keepMessage []
    skipped }

def operationSummaries (r : RunReport) : List OperationSummary := r.operations.map r.operationSummary

def failuresOf (c : CaseRecord) : List Failure :=
  match c.outcome with
  | .checked reply _ =>
    c.outcome.failures.map fun r =>
      { caseId := c.id
        operation := c.operation
        check := r.check
        severity := r.check.severity
        status := reply.status
        message := r.message.getD ""
        request := c.request }
  | _ => []

def failures (r : RunReport) : List Failure := r.cases.flatMap failuresOf

end RunReport

end SchemaProbe
