import SchemaProbe.Report.Summary

set_option autoImplicit false

namespace SchemaProbe

structure Verdict where
  passed : Bool
  exitCode : Nat
  reason : String
deriving DecidableEq, Repr

def Verdict.status (v : Verdict) : String := if v.passed then "PASS" else "FAIL"

namespace Verdict

-- Nothing could be told about the service.
def toolError : Nat := 3

-- The worst failure counts first, then failures of the network, then cases without a result.
def exitCodeOf (strict : Bool) (failures : List Severity) (errors inconclusive : Nat) : Nat :=
  let worst := ((Severity.worst? failures).map (Severity.exitCode strict)).getD 0
  if 0 < worst then worst
  else if 0 < errors then toolError
  else if 0 < inconclusive then Severity.exitCode strict .warning
  else 0

def failureText (s : RunSummary) (failures : List Severity) : List String :=
  if failures.isEmpty then []
  else
    let critical := failures.count .critical
    [toString failures.length ++ " check failures in " ++ toString s.failed ++ " cases (" ++ toString critical ++
      " critical, " ++ toString (failures.length - critical) ++ " error)"]

def countText (n : Nat) (what : String) : List String := if n = 0 then [] else [toString n ++ what]

def reasonOf (s : RunSummary) (failures : List Severity) (inconclusive : Nat) : String :=
  match failureText s failures ++ countText s.errors " execution errors (connection/timeout)" ++
      countText inconclusive " inconclusive" with
  | [] => "All " ++ toString (s.passed + s.failed) ++ " cases conform"
  | parts => "; ".intercalate parts

def withoutResult (s : RunSummary) : Verdict :=
  { passed := false
    exitCode := toolError
    reason :=
      if s.cases = 0 then "No cases were generated"
      else
        "No cases were executed (" ++ toString s.errors ++ " errors, " ++ toString s.inconclusive ++ " inconclusive)" }

end Verdict

-- A run in which no case got a reply has failed.
def RunReport.verdict (r : RunReport) (strict : Bool) : Verdict :=
  let s := r.summary
  if s.passed + s.failed = 0 then Verdict.withoutResult s
  else
    let failures := r.failures.map (·.severity)
    let inconclusive := s.inconclusive + s.skippedOperations
    let code := Verdict.exitCodeOf strict failures s.errors inconclusive
    { passed := code == 0
      exitCode := code
      reason := Verdict.reasonOf s failures inconclusive }

end SchemaProbe
