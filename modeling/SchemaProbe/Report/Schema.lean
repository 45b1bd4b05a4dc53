import SchemaProbe.Json.Printer

set_option autoImplicit false

namespace SchemaProbe.ReportSchema

def described (text : String) : List (String × Json) := [("description", .string text)]

def typed (name : String) : List (String × Json) := [("type", .string name)]

def plain (name : String) : Json := .object (typed name)

def ref (name : String) : Json := .object [("$ref", .string ("#/$defs/" ++ name))]

def listOf (items : Json) : List (String × Json) := typed "array" ++ [("items", items)]

def nullableText : List (String × Json) := [("type", .array [.string "string", .string "null"])]

def fixed (value : String) : List (String × Json) := typed "string" ++ [("const", .string value)]

def textMap : Json := .object (typed "object" ++ [("additionalProperties", plain "string")])

def word (format : String) (rest : List (String × Json)) : List (String × Json) :=
  typed "integer" ++ [("format", .string format)] ++ rest

def record (properties : List (String × Json)) (required : List String) : List (String × Json) :=
  typed "object" ++ [("properties", .object properties), ("required", .array (required.map .string))]

def outcome : Json :=
  .object (described "What happened to a single generated case." ++
    [("oneOf", .array [
      .object (described "A response was received and checked" ++
        record [("kind", .object (fixed "checked")), ("response", ref "ResponseSnapshot"),
          ("results", .object (listOf (ref "CheckResult")))] ["kind", "response", "results"]),
      .object (described "Network-level failure: timeout, refused connection, DNS, ..." ++
        record [("kind", .object (fixed "execution_error")), ("message", plain "string")] ["kind", "message"]),
      .object (described "Not executed, or abandoned at the run timeout" ++
        record [("kind", .object (fixed "inconclusive")), ("reason", plain "string")] ["kind", "reason"])])])

def caseRecord : Json :=
  .object (described "One generated case and its outcome." ++
    record
      [("id", .object (described "Case ID for reproduction" ++ typed "string")),
        ("index", .object (described "Position of the case in the operation's case sequence" ++
          word "uint32" [("minimum", .ofNat 0)])),
        ("operation", .object (described "Operation label: \"GET /nodes\"" ++ typed "string")),
        ("outcome", ref "CaseOutcome"),
        ("request", ref "RequestSnapshot"),
        ("target_status", .object (described "Documented status this case was generated for" ++ nullableText))]
      ["id", "operation", "index", "request", "outcome"])

def checkName : Json :=
  let choice (value text : String) : Json := .object (described text ++ fixed value)
  .object (described "Built-in conformance checks." ++
    [("oneOf", .array [
      choice "not_a_server_error" "Status must be below 500",
      choice "status_code_conformance" "Status must be documented for the operation",
      choice "content_type_conformance" "Content-Type must be documented for the status",
      choice "response_schema_conformance" "Body must validate against the documented schema",
      choice "response_headers_conformance" "Documented required headers must be present and well-formed"])])

def checkResult : Json :=
  .object (described "Outcome of one check against one response." ++
    record
      [("check", ref "CheckName"), ("message", .object (described "Diagnostic for failures" ++ nullableText)),
        ("passed", plain "boolean")]
      ["check", "passed"])

def request : Json :=
  .object (described "Snapshot of the HTTP request sent for a case" ++
    record
      [("body", .object nullableText), ("headers", textMap), ("method", plain "string"), ("url", plain "string")]
      ["method", "url"])

def reply : Json :=
  .object (described "Snapshot of the HTTP response received for a case" ++
    record
      [("body", .object (described "Response body (truncated for large responses)" ++ nullableText)),
        ("elapsed_ms", .object (word "uint64" [("default", .ofNat 0), ("minimum", .ofNat 0)])),
        ("headers", textMap),
        ("status_code", .object (word "uint16" [("maximum", .ofNat 65535), ("minimum", .ofNat 0)]))]
      ["status_code"])

def skipped : Json :=
  .object (described "Operation for which no case could be generated." ++
    record [("operation", plain "string"), ("reason", plain "string")] ["operation", "reason"])

def properties : List (String × Json) :=
  [("base_url", plain "string"),
    ("cases", .object (listOf (ref "CaseReport"))),
    ("checks", .object (described "Checks that were applied to every response" ++ listOf (ref "CheckName"))),
    ("duration_secs", .object (typed "number" ++ [("format", .string "double")])),
    ("operations", .object (described "Operation labels in schema order" ++ listOf (plain "string"))),
    ("schema", .object (described "Schema location the run was generated from" ++ typed "string")),
    ("seed", .object (described "Generation seed; rerunning with it reproduces every case" ++
      word "uint64" [("default", .ofNat 0), ("minimum", .ofNat 0)])),
    ("skipped", .object (typed "array" ++ [("default", .array []), ("items", ref "SkippedOperation")])),
    ("timed_out", .object (described "The overall run timeout expired" ++ typed "boolean" ++ [("default", .bool false)]))]

def schema : Json :=
  .object ([("$schema", .string "https://json-schema.org/draft/2020-12/schema"), ("title", .string "RunReport")] ++
    described "Complete result of a conformance run." ++
    record properties ["base_url", "schema", "checks", "operations", "cases", "duration_secs"] ++
    [("$defs", .object
      [("CaseOutcome", outcome), ("CaseReport", caseRecord), ("CheckName", checkName), ("CheckResult", checkResult),
        ("RequestSnapshot", request), ("ResponseSnapshot", reply), ("SkippedOperation", skipped)])])

def text : String := schema.pretty 0

end SchemaProbe.ReportSchema
