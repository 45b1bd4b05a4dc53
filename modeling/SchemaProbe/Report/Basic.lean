import SchemaProbe.Check.Basic
import SchemaProbe.Exchange.Record

set_option autoImplicit false

namespace SchemaProbe

inductive Outcome where
  | checked (reply : ReplyRecord) (results : List CheckResult)
  -- The network failed.
  | failed (message : String)
  -- Not sent, or given up when the time of the run was over.
  | inconclusive (reason : String)
deriving DecidableEq, Repr

namespace Outcome

def results : Outcome → List CheckResult
  | checked _ results => results
  | _ => []

def failures (o : Outcome) : List CheckResult := o.results.filter fun r => !r.passed

def isChecked : Outcome → Bool
  | checked .. => true
  | _ => false

def isPassed (o : Outcome) : Bool := o.isChecked && o.failures.isEmpty

def isFailed (o : Outcome) : Bool := o.isChecked && !o.failures.isEmpty

def error? : Outcome → Option String
  | failed message => some message
  | _ => none

def isInconclusive : Outcome → Bool
  | inconclusive _ => true
  | _ => false

end Outcome

structure CaseRecord where
  id : String
  operation : String
  index : UInt32
  target : Option String := none
  request : RequestRecord
  outcome : Outcome
deriving DecidableEq, Repr

structure Skipped where
  operation : String
  reason : String
deriving DecidableEq, Repr

structure RunReport where
  baseUrl : String
  schema : String
  checks : List Check
  operations : List String
  cases : List CaseRecord
  skipped : List Skipped := []
  seconds : Binary64
  seed : UInt64 := 0
  timedOut : Bool := false
deriving DecidableEq, Repr

end SchemaProbe
