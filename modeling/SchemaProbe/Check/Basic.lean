import SchemaProbe.Text.Trim

set_option autoImplicit false

namespace SchemaProbe

inductive Severity where
  | warning
  | error
  | critical
deriving DecidableEq, Repr

namespace Severity

def all : List Severity := [warning, error, critical]

def text : Severity → String
  | warning => "warning"
  | error => "error"
  | critical => "critical"

def rank : Severity → Nat
  | warning => 0
  | error => 1
  | critical => 2

-- A warning counts in strict judgement only.
def exitCode (strict : Bool) : Severity → Nat
  | warning => if strict then 1 else 0
  | error => 1
  | critical => 2

def worse (a b : Severity) : Severity := if a.rank < b.rank then b else a

def worst? : List Severity → Option Severity
  | [] => none
  | s :: ss => some (ss.foldl worse s)

end Severity

inductive Check where
  | noServerError
  | status
  | contentType
  | schema
  | headers
deriving DecidableEq, Repr

namespace Check

def all : List Check := [noServerError, status, contentType, schema, headers]

def name : Check → String
  | noServerError => "not_a_server_error"
  | status => "status_code_conformance"
  | contentType => "content_type_conformance"
  | schema => "response_schema_conformance"
  | headers => "response_headers_conformance"

def severity : Check → Severity
  | noServerError => .critical
  | _ => .error

def description : Check → String
  | noServerError => "Server returned a 5xx status"
  | status => "Status code not documented for the operation"
  | contentType => "Content-Type not documented for the status"
  | schema => "Response body does not match the documented schema"
  | headers => "Documented response headers missing or malformed"

def ofName? (s : String) : Option Check := all.find? fun c => c.name == s

-- Hyphens may stand for underscores, and blanks around the name are left out.
def parse? (s : String) : Option Check := ofName? (Text.replaceAll "-" "_" (Text.trim s))

def unknownMessage (s : String) : String := "Unknown check '" ++ Text.trim s ++ "'"

end Check

structure CheckResult where
  check : Check
  passed : Bool
  message : Option String := none
deriving DecidableEq, Repr

namespace CheckResult

def pass (c : Check) : CheckResult := { check := c, passed := true }

def fail (c : Check) (message : String) : CheckResult := { check := c, passed := false, message := some message }

end CheckResult

end SchemaProbe
