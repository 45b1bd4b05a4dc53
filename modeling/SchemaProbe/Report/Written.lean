import SchemaProbe.Json.Decode
import SchemaProbe.Report.Verdict

set_option autoImplicit false

namespace SchemaProbe

namespace Written

def texts (ts : List String) : Json := .array (ts.map .string)

def textMap (m : NameMap String) : Json := .object (m.map fun e => (e.1, .string e.2))

def optional (name : String) (v : Option Json) : List (String × Json) := (v.map (name, ·)).toList

def optionalTexts (name : String) (ts : List String) : List (String × Json) :=
  if ts.isEmpty then [] else [(name, texts ts)]

def optionalMap (name : String) (m : NameMap String) : List (String × Json) :=
  if m.isEmpty then [] else [(name, textMap m)]

end Written

namespace RequestRecord

def toJson (r : RequestRecord) : Json :=
  .object ([("method", .string r.method), ("url", .string r.url)] ++ Written.optionalMap "headers" r.headers ++
    Written.optional "body" (r.body.map .string))

def decode : Decoder RequestRecord :=
  (RequestRecord.mk <$> Fields.required "method" Decoder.string <*> Fields.required "url" Decoder.string <*>
      Fields.defaulted "headers" (Decoder.map Decoder.string) [] <*>
      Fields.defaulted "body" (Decoder.nullable Decoder.string) none).decode
    ["method", "url", "headers", "body"] "struct RequestSnapshot"

end RequestRecord

namespace ReplyRecord

def toJson (r : ReplyRecord) : Json :=
  .object ([("status_code", .ofNat r.status.toNat)] ++ Written.optionalMap "headers" r.headers ++
    Written.optional "body" (r.body.map .string) ++ [("elapsed_ms", .ofNat r.elapsedMillis.toNat)])

def decode : Decoder ReplyRecord :=
  (ReplyRecord.mk <$> (Nat.toUInt16 <$> Fields.required "status_code" (Decoder.natural (2 ^ 16 - 1) "u16")) <*>
      Fields.defaulted "headers" (Decoder.map Decoder.string) [] <*>
      Fields.defaulted "body" (Decoder.nullable Decoder.string) none <*>
      (Nat.toUInt64 <$> Fields.defaulted "elapsed_ms" (Decoder.natural (2 ^ 64 - 1) "u64") 0)).decode
    ["status_code", "headers", "body", "elapsed_ms"] "struct ResponseSnapshot"

end ReplyRecord

def Check.named : List (String × Check) := Check.all.map fun c => (c.name, c)

namespace CheckResult

def toJson (r : CheckResult) : Json :=
  .object ([("check", .string r.check.name), ("passed", .bool r.passed)] ++
    Written.optional "message" (r.message.map .string))

def decode : Decoder CheckResult :=
  (CheckResult.mk <$> Fields.required "check" (Decoder.storedVariant Check.named) <*>
      Fields.required "passed" Decoder.bool <*>
      Fields.defaulted "message" (Decoder.nullable Decoder.string) none).decode
    ["check", "passed", "message"] "struct CheckResult"

end CheckResult

namespace Outcome

def toJson : Outcome → Json
  | checked reply results =>
    .object [("kind", .string "checked"), ("response", reply.toJson), ("results", .array (results.map CheckResult.toJson))]
  | failed message => .object [("kind", .string "execution_error"), ("message", .string message)]
  | inconclusive reason => .object [("kind", .string "inconclusive"), ("reason", .string reason)]

def decodeChecked : Decoder Outcome :=
  (Outcome.checked <$> Fields.required "response" ReplyRecord.decode <*>
      Fields.required "results" (Decoder.list CheckResult.decode)).decode
    ["response", "results"] "struct variant CaseOutcome::Checked"

def decodeFailed : Decoder Outcome :=
  (Outcome.failed <$> Fields.required "message" Decoder.string).decode ["message"]
    "struct variant CaseOutcome::ExecutionError"

def decodeInconclusive : Decoder Outcome :=
  (Outcome.inconclusive <$> Fields.required "reason" Decoder.string).decode ["reason"]
    "struct variant CaseOutcome::Inconclusive"

def kinds : List (String × Decoder Outcome) :=
  [("checked", decodeChecked), ("execution_error", decodeFailed), ("inconclusive", decodeInconclusive)]

def decodeKind : Decoder (Decoder Outcome)
  | .string s => Decoder.named kinds s
  | v => .error (.type v "variant identifier")

-- The kind comes first in an array; in an object it may stand anywhere, and is looked at before the rest.
def decode : Decoder Outcome
  | .array [] => .error (.missing "kind")
  | .array (kind :: rest) => do (← decodeKind kind) (.array rest)
  | .object ms => do
    let body ← ((Fields.required "kind" decodeKind).read ms).mapError (·.misfit)
    body (.object (ms.filter (·.1 != "kind")))
  | v => .error (.type v "internally tagged enum CaseOutcome")

end Outcome

namespace CaseRecord

def toJson (c : CaseRecord) : Json :=
  .object ([("id", .string c.id), ("operation", .string c.operation), ("index", .ofNat c.index.toNat)] ++
    Written.optional "target_status" (c.target.map .string) ++
    [("request", c.request.toJson), ("outcome", c.outcome.toJson)])

def decode : Decoder CaseRecord :=
  (CaseRecord.mk <$> Fields.required "id" Decoder.string <*> Fields.required "operation" Decoder.string <*>
      (Nat.toUInt32 <$> Fields.required "index" (Decoder.natural (2 ^ 32 - 1) "u32")) <*>
      Fields.defaulted "target_status" (Decoder.nullable Decoder.string) none <*>
      Fields.required "request" RequestRecord.decode <*> Fields.required "outcome" Outcome.decode).decode
    ["id", "operation", "index", "target_status", "request", "outcome"] "struct CaseReport"

end CaseRecord

namespace Skipped

def toJson (s : Skipped) : Json := .object [("operation", .string s.operation), ("reason", .string s.reason)]

def decode : Decoder Skipped :=
  (Skipped.mk <$> Fields.required "operation" Decoder.string <*> Fields.required "reason" Decoder.string).decode
    ["operation", "reason"] "struct SkippedOperation"

end Skipped

namespace RunReport

def toJson (r : RunReport) : Json :=
  .object [("base_url", .string r.baseUrl), ("schema", .string r.schema),
    ("checks", Written.texts (r.checks.map Check.name)), ("operations", Written.texts r.operations),
    ("cases", .array (r.cases.map CaseRecord.toJson)), ("skipped", .array (r.skipped.map Skipped.toJson)),
    ("duration_secs", .ofBinary64 r.seconds), ("seed", .ofNat r.seed.toNat), ("timed_out", .bool r.timedOut)]

def decode : Decoder RunReport :=
  (RunReport.mk <$> Fields.required "base_url" Decoder.string <*> Fields.required "schema" Decoder.string <*>
      Fields.required "checks" (Decoder.list (Decoder.variant Check.named)) <*>
      Fields.required "operations" (Decoder.list Decoder.string) <*>
      Fields.required "cases" (Decoder.list CaseRecord.decode) <*>
      Fields.defaulted "skipped" (Decoder.list Skipped.decode) [] <*>
      Fields.required "duration_secs" Decoder.binary64 <*>
      (Nat.toUInt64 <$> Fields.defaulted "seed" (Decoder.natural (2 ^ 64 - 1) "u64") 0) <*>
      Fields.defaulted "timed_out" Decoder.bool false).decode
    ["base_url", "schema", "checks", "operations", "cases", "skipped", "duration_secs", "seed", "timed_out"]
    "struct RunReport"

end RunReport

def RunSummary.toJson (s : RunSummary) : Json :=
  .object [("operations", .ofNat s.operations), ("cases", .ofNat s.cases), ("passed", .ofNat s.passed),
    ("failed", .ofNat s.failed), ("errors", .ofNat s.errors), ("inconclusive", .ofNat s.inconclusive),
    ("skipped_operations", .ofNat s.skippedOperations)]

def Tally.toJson (t : Tally) : Json :=
  .object ([("check", .string t.check.name), ("passed", .ofNat t.passed), ("failed", .ofNat t.failed),
    ("inconclusive", .ofNat t.inconclusive)] ++ Written.optionalTexts "diagnostics" t.diagnostics)

def OperationSummary.toJson (s : OperationSummary) : Json :=
  .object ([("operation", .string s.operation), ("cases", .ofNat s.cases),
    ("checks", .array (s.tallies.map Tally.toJson))] ++ Written.optionalTexts "errors" s.errors ++
    Written.optional "skipped" (s.skipped.map .string))

def Failure.toJson (f : Failure) : Json :=
  .object [("case_id", .string f.caseId), ("operation", .string f.operation), ("check", .string f.check.name),
    ("severity", .string f.severity.text), ("status_code", .ofNat f.status.toNat), ("message", .string f.message),
    ("request", f.request.toJson)]

def Verdict.toJson (v : Verdict) : Json :=
  .object [("status", .string v.status), ("exit_code", .ofNat v.exitCode), ("reason", .string v.reason)]

def RunReport.judgementJson (r : RunReport) (v : Verdict) : Json :=
  .object [("verdict", v.toJson), ("seed", .ofNat r.seed.toNat), ("timed_out", .bool r.timedOut),
    ("summary", r.summary.toJson), ("operations", .array (r.operationSummaries.map OperationSummary.toJson)),
    ("skipped", .array (r.skipped.map Skipped.toJson)), ("failures", .array (r.failures.map Failure.toJson))]

end SchemaProbe
