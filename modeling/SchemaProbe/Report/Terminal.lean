import SchemaProbe.Report.Verdict

set_option autoImplicit false

namespace SchemaProbe

namespace Tally

def mark (t : Tally) : String := if 0 < t.failed then "FAIL" else if 0 < t.passed then "PASS" else "SKIP"

def line (t : Tally) : String :=
  "[" ++ t.mark ++ "] " ++ Text.padRight 28 ' ' t.check.name ++ " " ++
    ", ".intercalate
      (Verdict.countText t.passed " passed" ++ Verdict.countText t.failed " failed" ++
        Verdict.countText t.inconclusive " inconclusive")

end Tally

def OperationSummary.lines (s : OperationSummary) : List String :=
  ["  " ++ s.operation ++ " (" ++ toString s.cases ++ " cases)"] ++
    (s.skipped.map fun reason => "    skipped: " ++ reason).toList ++
    (s.tallies.flatMap fun t => ("    " ++ t.line) :: t.diagnostics.map ("           - " ++ ·)) ++
    s.errors.map ("    error: " ++ ·)

def Failure.lines (f : Failure) : List String :=
  ["  [" ++ f.severity.text ++ "] " ++ f.operation ++ " -> " ++ toString f.status.toNat ++ " (" ++ f.check.name ++
      ") case " ++ f.caseId,
    "         " ++ f.request.method ++ " " ++ f.request.url] ++
    (if f.message = "" then [] else ["         " ++ f.message])

namespace RunReport

def headLines (r : RunReport) (v : Verdict) : List String :=
  let s := r.summary
  [v.status ++ ": " ++ v.reason,
    "  Cases: " ++ toString s.cases ++ " total, " ++ toString s.passed ++ " passed, " ++ toString s.failed ++
      " failed, " ++ toString s.errors ++ " errors, " ++ toString s.inconclusive ++ " inconclusive",
    "  Target: " ++ r.baseUrl ++ " (schema: " ++ r.schema ++ ")",
    "  Duration: " ++ r.seconds.fixedText 1 ++ "s (seed: " ++ toString r.seed.toNat ++ ")"] ++
    (if r.timedOut then ["  Run timeout expired; unfinished cases are inconclusive"] else [])

def failureLines (r : RunReport) : List String :=
  if r.failures.isEmpty then []
  else ["", "Failures (" ++ toString r.failures.length ++ "):"] ++ r.failures.flatMap Failure.lines

def terminalLines (r : RunReport) (v : Verdict) : List String :=
  r.headLines v ++ ["", "Operations:"] ++ r.operationSummaries.flatMap OperationSummary.lines ++ r.failureLines ++
    ["", "Exit code: " ++ toString v.exitCode]

def terminal (r : RunReport) (v : Verdict) : String := "\n".intercalate (r.terminalLines v)

end RunReport

end SchemaProbe
