import SchemaProbe.Api.Basic
import SchemaProbe.Api.Media
import SchemaProbe.Check.Basic
import SchemaProbe.Exchange.Reply
import SchemaProbe.Json.Reader
import SchemaProbe.JsonSchema.Check
import SchemaProbe.JsonSchema.WellFormed
import SchemaProbe.ValueType.Written

set_option autoImplicit false

namespace SchemaProbe.Check

def serverFault? (op : Operation) (r : Reply) : Option String :=
  if 500 ≤ r.status then some (toString r.status ++ " on " ++ op.label) else none

def statusFault? (op : Operation) (r : Reply) : Option String :=
  if (op.response? r.status.toNat).isSome then none
  else
    let declared := if op.statuses.isEmpty then "none" else ", ".intercalate (op.statuses.map StatusKey.text)
    some (toString r.status ++ " not documented (declared: " ++ declared ++ ")")

-- A declared type may leave the subtype, or all of it, open.
def mediaMatches (declared actual : String) : Bool :=
  declared == actual || declared == "*/*" ||
    (Media.endsWith "/*" declared &&
      actual.toList.takeWhile (· != '/') == declared.toList.take (declared.length - 2))

def expectedTypes (types : List String) : String := "expected one of: " ++ ", ".intercalate types

-- A missing type is all right where there is no body.
def contentTypeFault? (op : Operation) (r : Reply) : Option String :=
  match op.response? r.status.toNat with
  | none => none
  | some documented =>
    let types := documented.contentTypes
    if types.isEmpty then none
    else match r.contentType? with
      | none => if r.body.isEmpty then none else some ("missing Content-Type header, " ++ expectedTypes types)
      | some given =>
        let actual := Media.essence given
        if types.any fun t => mediaMatches (Media.essence t) actual then none
        else some ("got \"" ++ actual ++ "\", " ++ expectedTypes types)

def mostViolations : Nat := 5

def longestQuote : Nat := 200

inductive BodyFault where
  | empty
  | notJson (fault : Json.SyntaxError) (body : String)
  -- The validator's own words are not kept.
  | unusableSchema
  | violations (vs : List JsonSchema.Violation)

def BodyFault.message : BodyFault → String
  | empty => "empty body, expected a body matching the documented schema"
  | notJson fault body =>
    "body is not valid JSON (" ++ fault.message ++ "): " ++ String.ofList (body.toList.take longestQuote)
  | unusableSchema => "documented schema cannot be compiled"
  | violations vs => "; ".intercalate (vs.map JsonSchema.Violation.message)

def bodyFault? (documented : Json) (typed : Bool) (body : String) : Option BodyFault :=
  if (Text.trim body).isEmpty then some .empty
  else match Json.parse body with
    | .error fault => if typed then some (.notJson fault body) else none
    | .ok v =>
      if !JsonSchema.isSchema documented then some .unusableSchema
      else match (JsonSchema.check documented v).take mostViolations with
        | [] => none
        | vs => some (.violations vs)

-- Bodies of another type than JSON are not looked into; nor is one without a type that is no JSON.
def schemaFault? (op : Operation) (r : Reply) : Option BodyFault :=
  match (op.response? r.status.toNat).bind Response.schema with
  | none => none
  | some documented =>
    if op.method = .head then none
    else match r.contentType? with
      | some given => if Media.isJson given then bodyFault? documented true r.body else none
      | none => bodyFault? documented false r.body

def headerFault? (r : Reply) (h : ResponseHeader) : Option String :=
  match r.headers.get? h.name, h.schema with
  | none, _ => if h.required then some ("missing required header '" ++ h.name ++ "'") else none
  | some _, none => none
  | some written, some documented =>
    if JsonSchema.isSchema documented && JsonSchema.accepts documented (h.type.read written) then none
    else some ("header '" ++ h.name ++ "' value \"" ++ written ++ "\" does not match its " ++ h.type.name ++ " schema")

def headersFault? (op : Operation) (r : Reply) : Option String :=
  match op.response? r.status.toNat with
  | none => none
  | some documented =>
    match documented.headers.filterMap (headerFault? r) with
    | [] => none
    | faults => some ("; ".intercalate faults)

def fault? (c : Check) (op : Operation) (r : Reply) : Option String :=
  match c with
  | noServerError => serverFault? op r
  | status => statusFault? op r
  | contentType => contentTypeFault? op r
  | schema => (schemaFault? op r).map BodyFault.message
  | headers => headersFault? op r

def judge (op : Operation) (r : Reply) (c : Check) : CheckResult :=
  match c.fault? op r with
  | some message => .fail c message
  | none => .pass c

end SchemaProbe.Check
