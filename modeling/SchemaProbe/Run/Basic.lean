import SchemaProbe.Api.Load
import SchemaProbe.Check.Judge
import SchemaProbe.Report.Basic
import SchemaProbe.Run.Settings

set_option autoImplicit false

namespace SchemaProbe

inductive SendFault where
  | timeout (reason : String)
  | connection (reason : String)
  | invalidRequest (reason : String)
  | transport (reason : String)
deriving DecidableEq, Repr

namespace SendFault

def message : SendFault → String
  | timeout reason => "request timed out: " ++ reason
  | connection reason => "connection failed: " ++ reason
  | invalidRequest reason => "invalid request: " ++ reason
  | transport reason => "transport error: " ++ reason

def isTimeout : SendFault → Bool
  | timeout _ => true
  | _ => false

end SendFault

-- The method has to be one that a request can name. The base has a path: `Service.open` takes no other.
def Service.prepare (s : Service) (c : TestCase) : Except SendFault Request :=
  let method := c.operation.method.text
  if Headers.isToken method then .ok (s.request c)
  else .error (.invalidRequest ("invalid HTTP method '" ++ method ++ "'"))

-- What a run meets. Cases are counted from zero over all operations, in whatever order they are worked on.
structure Surroundings where
  -- Nanoseconds from the start of the run to the last moment that the clock can tell.
  horizon : Nat
  -- Nanoseconds from the start of the run to the start of a case.
  started : Nat → Nat
  -- The answer to the request of a case within a span of time.
  answer : Nat → Request → Nat → Except SendFault Reply
  -- Nanoseconds from the start of the run to its end.
  finished : Nat

-- Whether the clock can tell when the time of a run is over.
def Surroundings.tells (w : Surroundings) (s : RunSettings) : Bool := s.runTimeout.all (· ≤ w.horizon)

structure Probe where
  baseUrl : String
  -- Where the document was found.
  location : String
  api : Api
  settings : RunSettings

namespace Probe

-- The cases of an operation, or why there are none.
def casePlan (p : Probe) (op : Operation) : Except String CasePlan :=
  match op.unsupported with
  | some reason => .error reason
  | none =>
    let plan := CasePlan.ofOperation op p.settings.cases
    match plan.unsatisfiable with
    | some u => .error u.message
    | none => .ok plan

def skipped (p : Probe) : List Skipped :=
  p.api.operations.filterMap fun op =>
    match p.casePlan op with
    | .error reason => some ⟨op.label, reason⟩
    | .ok _ => none

def casePlans (p : Probe) : List CasePlan := p.api.operations.filterMap fun op => (p.casePlan op).toOption

def cases (p : Probe) : Except DrawFault (List TestCase) := (p.casePlans.mapM CasePlan.cases).map List.flatten

def patience? (s : RunSettings) (now : Nat) : Option (Nat × Bool) :=
  match s.runTimeout with
  | none => some (s.requestTimeout, false)
  | some limit =>
    let remaining := limit - now
    if remaining = 0 then none else some (min remaining s.requestTimeout, decide (remaining < s.requestTimeout))

def outcomeOf (checks : List Check) (op : Operation) (cutShort : Bool) : Except SendFault Reply → Outcome
  | .ok reply => .checked reply.record (checks.map (Check.judge op reply))
  | .error fault =>
    if fault.isTimeout && cutShort then .inconclusive "run timeout expired while the request was in flight"
    else .failed fault.message

def outcome (p : Probe) (c : TestCase) (now : Nat) (answer : Nat → Except SendFault Reply) : Outcome :=
  match patience? p.settings now with
  | none => .inconclusive "run timeout expired before the case started"
  | some (span, cutShort) => outcomeOf p.settings.checks c.operation cutShort (answer span)

def recordOf (p : Probe) (service : Service) (c : TestCase) (now : Nat)
    (answer : Request → Nat → Except SendFault Reply) : CaseRecord :=
  let record (request : RequestRecord) (outcome : Outcome) : CaseRecord :=
    { id := c.id
      operation := c.operation.label
      index := c.index.toUInt32
      target := c.target.map StatusKey.text
      request
      outcome }
  match service.prepare c with
  | .ok request => record request.record (p.outcome c now (answer request))
  | .error fault =>
    record { method := c.operation.method.text, url := p.baseUrl ++ c.operation.path } (.failed fault.message)

def caseRecord (p : Probe) (service : Service) (w : Surroundings) (i : Nat) (c : TestCase) : CaseRecord :=
  p.recordOf service c (w.started i) (w.answer i)

def caseRecords (p : Probe) (service : Service) (w : Surroundings) (cases : List TestCase) : List CaseRecord :=
  cases.zipIdx.map fun (c, i) => p.caseRecord service w i c

-- The requests that are sent, by the numbers of their cases, and how long each may take.
def sends (p : Probe) (service : Service) (w : Surroundings) (cases : List TestCase) : List (Nat × Request × Nat) :=
  cases.zipIdx.filterMap fun (c, i) =>
    (service.prepare c).toOption.bind fun request =>
      (patience? p.settings (w.started i)).map fun (span, _) => (i, request, span)

def secondsOf (nanos : Nat) : Binary64 :=
  Binary64.ofNat (nanos / 10 ^ 9) + Binary64.ofNat (nanos % 10 ^ 9) / Binary64.ofNat (10 ^ 9)

def isTimedOut (s : RunSettings) (finished : Nat) (records : List CaseRecord) : Bool :=
  s.runTimeout.any (· ≤ finished) || records.any (·.outcome.isInconclusive)

-- The report on a run that ends then, with the records in the order of the cases.
def reportOf (p : Probe) (finished : Nat) (records : List CaseRecord) : RunReport :=
  { baseUrl := p.baseUrl
    schema := p.location
    checks := p.settings.checks
    operations := p.api.operations.map Operation.label
    cases := records
    skipped := p.skipped
    seconds := secondsOf finished
    seed := p.settings.cases.seed
    timedOut := isTimedOut p.settings finished records }

def report (p : Probe) (service : Service) (w : Surroundings) (cases : List TestCase) : RunReport :=
  p.reportOf w.finished (p.caseRecords service w cases)

end Probe

inductive RunFault where
  | deadline
  | base (given : String) (fault : UrlFault)
  | draw (fault : DrawFault)

-- The end of the run is worked out before anything else.
def Probe.run (p : Probe) (w : Surroundings) : Except RunFault RunReport :=
  if w.tells p.settings then do
    let service ← (Service.open p.baseUrl p.settings.headers).mapError (RunFault.base p.baseUrl)
    let cases ← p.cases.mapError .draw
    return p.report service w cases
  else .error .deadline

end SchemaProbe
