import SchemaProbe.Api.Status
import SchemaProbe.ValueType.Basic

set_option autoImplicit false

namespace SchemaProbe

inductive Dialect where
  | swagger2
  | openApi3
deriving DecidableEq, Repr

def Dialect.text : Dialect → String
  | swagger2 => "Swagger 2.0"
  | openApi3 => "OpenAPI 3"

inductive Method where
  | get
  | put
  | post
  | delete
  | options
  | head
  | patch
  | trace
deriving DecidableEq, Repr

namespace Method

def all : List Method := [get, put, post, delete, options, head, patch, trace]

def key : Method → String
  | get => "get"
  | put => "put"
  | post => "post"
  | delete => "delete"
  | options => "options"
  | head => "head"
  | patch => "patch"
  | trace => "trace"

def text : Method → String
  | get => "GET"
  | put => "PUT"
  | post => "POST"
  | delete => "DELETE"
  | options => "OPTIONS"
  | head => "HEAD"
  | patch => "PATCH"
  | trace => "TRACE"

end Method

inductive Location where
  | path
  | query
  | header
  | body
  | form
deriving DecidableEq, Repr

def Location.text : Location → String
  | path => "path"
  | query => "query"
  | header => "header"
  | body => "body"
  | form => "formData"

inductive ListStyle where
  | commas
  | blanks
  | tabs
  | pipes
  | repeated
deriving DecidableEq, Repr

def ListStyle.separator : ListStyle → String
  | commas | repeated => ","
  | blanks => " "
  | tabs => "\t"
  | pipes => "|"

structure Parameter where
  name : String
  location : Location
  required : Bool
  type : ValueType
  schema : Json
  style : ListStyle := .commas

def Parameter.sameKey (p q : Parameter) : Bool := p.name == q.name && p.location == q.location

structure ResponseHeader where
  name : String
  required : Bool
  schema : Option Json
  -- The type by which the text of the header is read.
  type : ValueType

structure Response where
  contentTypes : List String := []
  schema : Option Json := none
  headers : List ResponseHeader := []

structure Operation where
  method : Method
  path : String
  operationId : Option String
  parameters : List Parameter
  responses : ByStatus Response
  -- Why requests cannot be built, if so.
  unsupported : Option String

namespace Operation

def label (op : Operation) : String := op.method.text ++ " " ++ op.path

def response? (op : Operation) (status : Nat) : Option Response := op.responses.find? status

def statuses (op : Operation) : List StatusKey := op.responses.keys

def parametersIn (op : Operation) (l : Location) : List Parameter := op.parameters.filter fun p => p.location == l

end Operation

structure Api where
  title : String
  version : String
  dialect : Dialect
  -- Informational: requests go to the configured base.
  basePath : Option String
  operations : List Operation

def Api.operation? (a : Api) (method path : String) : Option Operation :=
  a.operations.find? fun op => Text.lowerAscii op.method.text == Text.lowerAscii method && op.path == path

def templateNames (path : String) : List String := go path.length path.toList
where
  go : Nat → List Char → List String
    | 0, _ => []
    | n + 1, cs =>
      match cs.dropWhile (· != '\x7b') with
      | [] => []
      | _ :: rest =>
        match rest.dropWhile (· != '\x7d') with
        | [] => []
        | _ :: further => String.ofList (rest.takeWhile (· != '\x7d')) :: go n further

end SchemaProbe
