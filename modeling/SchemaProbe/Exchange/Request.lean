import SchemaProbe.Case.Plan
import SchemaProbe.Exchange.Headers
import SchemaProbe.Url.Reader

set_option autoImplicit false

namespace SchemaProbe

inductive RequestBody where
  | none
  | json (v : Json)
  | form (pairs : List (String × String))

def RequestBody.text? : RequestBody → Option String
  | none => .none
  | json v => some v.compact
  | form pairs => some (Percent.formPairs pairs)

structure Request where
  method : Method
  url : Url
  headers : Headers
  body : RequestBody

-- Where requests go, and the headers that all of them have.
structure Service where
  base : Url
  headers : Headers

def Service.open (base : String) (headers : NameMap String) : Except UrlFault Service := do
  let base ← Url.parse base
  return { base, headers := headers.foldl (fun h e => h.set e.1 e.2) [] }

-- An array is written with the separator of its style.
def Json.rendered (style : ListStyle) : Json → String
  | .array vs => style.separator.intercalate (vs.map Json.written)
  | v => v.written

namespace TestCase

def placeholder (name : String) : String := "\x7b" ++ name ++ "\x7d"

def pathText (c : TestCase) (p : Parameter) : String := ((c.value? p.name .path).map (Json.rendered p.style)).getD ""

def fillSegment (c : TestCase) (segment : String) : String :=
  (c.operation.parametersIn .path).foldl
    (fun s p => Text.replaceAll (placeholder p.name) (c.pathText p) s) segment

def segments (c : TestCase) : List String :=
  ((Text.splitOn '/' c.operation.path).filter (· != "")).map c.fillSegment

-- A repeated array is a pair for each element.
def pairsOf (p : Parameter) (v : Json) : List (String × String) :=
  match p.style, v with
  | .repeated, .array vs => vs.map fun w => (p.name, w.written)
  | style, v => [(p.name, v.rendered style)]

def valuesIn (c : TestCase) (l : Location) : List (Parameter × Json) :=
  (c.operation.parametersIn l).filterMap fun p => (c.value? p.name l).map (p, ·)

def pairsIn (c : TestCase) (l : Location) : List (String × String) :=
  (c.valuesIn l).flatMap fun (p, v) => pairsOf p v

-- The last body stands; without one, the fields of the form.
def body (c : TestCase) : RequestBody :=
  match (c.valuesIn .body).getLast?, c.pairsIn .form with
  | some (_, v), _ => .json v
  | none, [] => .none
  | none, pairs => .form pairs

end TestCase

namespace Service

def url (s : Service) (c : TestCase) : Url :=
  (c.segments.foldl Url.push s.base.dropTrailingSlash).addPairs (c.pairsIn .query)

def request (s : Service) (c : TestCase) : Request :=
  { method := c.operation.method
    url := s.url c
    headers := (c.valuesIn .header).foldl (fun h (p, v) => h.set p.name (v.rendered p.style)) s.headers
    body := c.body }

end Service

end SchemaProbe
