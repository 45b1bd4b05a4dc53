import SchemaProbe.Api.Basic
import SchemaProbe.Api.Media
import SchemaProbe.Api.Normal
import SchemaProbe.Api.Reference
import SchemaProbe.JsonSchema.WellFormed
import SchemaProbe.ValueType.OfSchema

set_option autoImplicit false

namespace SchemaProbe.Document

structure Source where
  doc : Json
  dialect : Dialect

namespace Source

def follow (s : Source) (place : String) (v : Json) : Except DocumentFault Json := Reference.follow s.doc place v

-- A schema without references, in normal form.
def schema (s : Source) (place : String) (v : Json) : Except DocumentFault Json :=
  (Reference.inline s.doc place v).map Normal.normalize

end Source

def typeOf (place : String) (schema : Json) : Except DocumentFault ValueType :=
  (ValueType.ofSchema schema).mapError (.type place)

def text? (v : Json) (name : String) : Option String := (v.get? name).bind Json.string?

def flag (v : Json) (name : String) : Bool := ((v.get? name).bind Json.bool?).getD false

-- Keywords that stand beside the name of a Swagger parameter or header instead of in a schema of its own.
def inlineKeywords : List String :=
  ["type", "format", "items", "enum", "default", "minimum", "maximum", "exclusiveMinimum", "exclusiveMaximum",
    "minLength", "maxLength", "pattern", "minItems", "maxItems", "uniqueItems", "multipleOf", "x-nullable"]

def inlineSchema (v : Json) : Json :=
  .object ((v.object?.getD []).filter fun m => inlineKeywords.contains m.1)

def styleNamed : String → ListStyle
  | "ssv" => .blanks
  | "tsv" => .tabs
  | "pipes" => .pipes
  | "multi" => .repeated
  | _ => .commas

-- A parameter with a schema of its own is repeated unless it says otherwise.
def listStyle (v : Json) : ListStyle :=
  match text? v "collectionFormat" with
  | some name => styleNamed name
  | none =>
    match text? v "style", (v.get? "explode").bind Json.bool? with
    | some "spaceDelimited", _ => .blanks
    | some "pipeDelimited", _ => .pipes
    | _, some false => .commas
    | none, _ | some "form", _ => if v.has "schema" then .repeated else .commas
    | _, _ => .commas

def contentSchema? (v : Json) : Option Json :=
  (((v.get? "content").bind Json.object?).bind List.head?).bind fun m => m.2.get? "schema"

def stringSchema : Json := .object [("type", .string "string")]

def emptySchema : Json := .object []

def isFile (schema : Json) : Bool := text? schema "type" == some "file"

def rawSchema (dialect : Dialect) (place : String) (location : Location) (v : Json) : Except DocumentFault Json :=
  match dialect, location with
  | _, .body =>
    match v.get? "schema" with
    | some s => .ok s
    | none => .error (.bodyWithoutSchema place)
  | .swagger2, _ => .ok (inlineSchema v)
  | .openApi3, _ => .ok (((v.get? "schema").orElse fun _ => contentSchema? v).getD stringSchema)

-- The location; none for cookies, which are not sent.
def location (place : String) (v : Json) : Except DocumentFault (Option Location) :=
  match text? v "in" with
  | some "path" => .ok (some .path)
  | some "query" => .ok (some .query)
  | some "header" => .ok (some .header)
  | some "body" => .ok (some .body)
  | some "formData" => .ok (some .form)
  | some "cookie" => .ok none
  | some other => .error (.unknownLocation place other)
  | none => .error (.locationNotText place)

def parameterName (place : String) (v : Json) : Except DocumentFault String :=
  match text? v "name" with
  | some name => .ok name
  | none => .error (.nameNotText place)

-- A parameter with its schema and type; none for a file, which nothing may require.
def parameterAt (s : Source) (place name : String) (l : Location) (v : Json) :
    Except DocumentFault (Option Parameter) := do
  let required := l == .path || flag v "required"
  let raw ← rawSchema s.dialect place l v
  if isFile raw then
    if required then .error (.requiredFile place) else .ok none
  else
    let schema ← s.schema place raw
    let type ← typeOf place schema
    return some { name, location := l, required, type, schema, style := listStyle v }

-- One parameter; none if it is left out, as cookies and optional files are.
def parameter (s : Source) (place : String) (v : Json) : Except DocumentFault (Option Parameter) := do
  let name ← parameterName place v
  let place := place ++ " '" ++ name ++ "'"
  match ← location place v with
  | none => return none
  | some l => parameterAt s place name l v

def parametersFrom (s : Source) (place : String) (i : Nat) : List Json → Except DocumentFault (List Parameter)
  | [] => .ok []
  | v :: vs => do
    let here := place ++ " parameter #" ++ toString i
    let v ← s.follow here v
    let p ← parameter s here v
    let rest ← parametersFrom s place (i + 1) vs
    return p.toList ++ rest

def parameters (s : Source) (place : String) (list : Option Json) : Except DocumentFault (List Parameter) :=
  match list with
  | none => .ok []
  | some (.array vs) => parametersFrom s place 0 vs
  | some _ => .error (.parametersNotArray place)

inductive RequestBody where
  | absent
  | parameters (ps : List Parameter)
  | unsupported (media : String)

def formFields (place : String) (schema : Json) (type : ValueType) : Except DocumentFault (List Parameter) :=
  match type with
  | .object _ ps =>
    .ok (ps.map fun p =>
      { name := p.name
        location := .form
        required := p.required
        type := p.type
        schema := ((schema.get? "properties").bind (·.get? p.name)).getD .null })
  | _ => .error (.formNotObject place)

-- A JSON body is one parameter, a form one parameter per field; other media are not supported.
def requestBody (s : Source) (label : String) (v : Json) : Except DocumentFault RequestBody :=
  let required := flag v "required"
  let place := label ++ " requestBody"
  match (v.get? "content").bind Json.object? with
  | none => .ok .absent
  | some content =>
    match content.find? fun m => Media.isJson m.1 with
    | some (_, media) => do
      let schema ← s.schema place ((media.get? "schema").getD emptySchema)
      let type ← typeOf place schema
      return .parameters [{ name := "body", location := .body, required, type, schema }]
    | none =>
      match NameMap.get? content "application/x-www-form-urlencoded" with
      | some media => do
        let schema ← s.schema place ((media.get? "schema").getD emptySchema)
        let type ← typeOf place schema
        let fields ← formFields place schema type
        return .parameters fields
      | none =>
        match content with
        | (media, _) :: _ => .ok (if required then .unsupported media else .absent)
        | [] => .ok .absent

def jsonMedia : List String := ["application/json"]

-- Media types of Swagger responses: the operation's own, else those of the document.
def produces (s : Source) (op : Json) : List String :=
  match s.dialect with
  | .openApi3 => []
  | .swagger2 =>
    match ((op.get? "produces").orElse fun _ => s.doc.get? "produces").bind Json.array? with
    | none => jsonMedia
    | some vs =>
      let names := vs.filterMap Json.string?
      if names.isEmpty then jsonMedia else names

def checkSchema (place : String) (schema : Option Json) : Except DocumentFault Unit :=
  if schema.all JsonSchema.isSchema then .ok () else .error (.invalidSchema place)

def optionalSchema (s : Source) (place : String) (raw : Option Json) : Except DocumentFault (Option Json) :=
  match raw with
  | none => .ok none
  | some v => (s.schema place v).map some

def header (s : Source) (name place : String) (v : Json) : Except DocumentFault ResponseHeader := do
  let (required, raw) := match s.dialect with
    | .swagger2 =>
      let raw := inlineSchema v
      (flag v "x-required", if raw.has "type" then some raw else none)
    | .openApi3 => (flag v "required", v.get? "schema")
  let schema ← optionalSchema s place raw
  let type ← match schema with
    | some schema => typeOf place schema
    | none => .ok (.text false {})
  checkSchema place schema
  return { name, required, schema, type }

def headers (s : Source) (place : String) (v : Json) : Except DocumentFault (List ResponseHeader) :=
  (((v.get? "headers").bind Json.object?).getD []).mapM fun (name, h) => do
    let here := place ++ " header '" ++ name ++ "'"
    let h ← s.follow here h
    header s name here h

-- The media types of a response and the schema of its body: that of the first JSON media type with one, else of the
-- first with one.
def responseBody (s : Source) (produced : List String) (place : String) (v : Json) :
    Except DocumentFault (List String × Option Json) :=
  match s.dialect with
  | .swagger2 =>
    match v.get? "schema" with
    | none => .ok ([], none)
    | some raw => (s.schema place raw).map fun schema => (produced, some schema)
  | .openApi3 =>
    match (v.get? "content").bind Json.object? with
    | none => .ok ([], none)
    | some content =>
      let typed := content.filter fun m => m.2.has "schema"
      let chosen := (typed.find? fun m => Media.isJson m.1).orElse fun _ => typed.head?
      (optionalSchema s place (chosen.bind fun m => m.2.get? "schema")).map (NameMap.names content, ·)

def response (s : Source) (produced : List String) (place : String) (v : Json) : Except DocumentFault Response := do
  let (contentTypes, schema) ← responseBody s produced place v
  checkSchema place schema
  let headers ← headers s place v
  return { contentTypes, schema, headers }

def responsesFrom (s : Source) (label : String) (produced : List String) (acc : ByStatus Response) :
    Members → Except DocumentFault (ByStatus Response)
  | [] => .ok acc
  | (key, v) :: ms => do
    match StatusKey.parse? key with
    | none => throw (.invalidStatus label key)
    | some status =>
      let place := label ++ " response " ++ key
      let v ← s.follow place v
      let r ← response s produced place v
      responsesFrom s label produced (ByStatus.insert acc status r) ms

def responses (s : Source) (label : String) (op : Json) : Except DocumentFault (ByStatus Response) :=
  match op.get? "responses" with
  | none => .ok []
  | some (.object ms) => responsesFrom s label (produces s op) [] ms
  | some _ => .error (.responsesNotObject label)

-- Definitions of the operation win over shared ones of the same name and location.
def override (shared own : List Parameter) : List Parameter :=
  shared.filter (fun p => !own.any p.sameKey) ++ own

def checkTemplate (label path : String) (ps : List Parameter) : Except DocumentFault Unit :=
  match (templateNames path).find? fun n => !ps.any fun p => p.location == .path && p.name == n with
  | some n => .error (.undefinedPathParameter label n)
  | none => .ok ()

def bodyOf (s : Source) (label : String) (op : Json) : Except DocumentFault RequestBody :=
  match op.get? "requestBody" with
  | none => .ok .absent
  | some body => do
    let body ← s.follow (label ++ " requestBody") body
    requestBody s label body

def RequestBody.given : RequestBody → List Parameter
  | .parameters ps => ps
  | _ => []

def RequestBody.unsupportedReason? : RequestBody → Option String
  | .unsupported media => some ("request body media type '" ++ media ++ "' is not supported")
  | _ => none

def operation (s : Source) (path : String) (method : Method) (shared : List Parameter) (op : Json) :
    Except DocumentFault Operation := do
  let label := method.text ++ " " ++ path
  let own ← parameters s label (op.get? "parameters")
  let body ← bodyOf s label op
  let parameters := override shared own ++ body.given
  checkTemplate label path parameters
  let responses ← responses s label op
  return {
    method, path, parameters, responses
    operationId := text? op "operationId"
    unsupported := body.unsupportedReason? }

def operationAt (s : Source) (path : String) (shared : List Parameter) (item : Json) (m : Method) :
    Except DocumentFault (Option Operation) :=
  match item.get? m.key with
  | none => .ok none
  | some op => if op.isObject then (operation s path m shared op).map some else .error (.notObject (m.text ++ " " ++ path))

def operationsOf (s : Source) (path : String) (shared : List Parameter) (item : Json) :
    List Method → Except DocumentFault (List Operation)
  | [] => .ok []
  | m :: rest => do
    let here ← operationAt s path shared item m
    let others ← operationsOf s path shared item rest
    return here.toList ++ others

def pathOperations (s : Source) (path : String) (item : Json) : Except DocumentFault (List Operation) := do
  if !Text.startsWith "/" path then throw (.pathWithoutSlash path)
  let item ← s.follow ("path " ++ path) item
  if !item.isObject then throw (.pathItemNotObject path)
  let shared ← parameters s path (item.get? "parameters")
  operationsOf s path shared item Method.all

def dialect (doc : Json) : Except DocumentFault Dialect :=
  match doc.get? "swagger", doc.get? "openapi" with
  | some v, _ => if v.string? == some "2.0" then .ok .swagger2 else .error (.unsupportedVersion "swagger" v)
  | none, some v =>
    if v.string?.any (Text.startsWith "3.") then .ok .openApi3 else .error (.unsupportedVersion "openapi" v)
  | none, none => .error .noVersion

def pathItems (doc : Json) : Except DocumentFault Members :=
  match doc.get? "paths" with
  | none => .error .noPaths
  | some (.object ms) => .ok ms
  | some _ => .error .pathsNotObject

-- Whatever cannot be represented is a fault, so that no request is built from a document that is half understood.
def read (doc : Json) : Except DocumentFault Api := do
  if !doc.isObject then throw .rootNotObject
  let dialect ← dialect doc
  let items ← pathItems doc
  let operations ← items.mapM fun (path, item) => pathOperations ⟨doc, dialect⟩ path item
  let info (name : String) : String := ((doc.get? "info").bind (text? · name)).getD ""
  return {
    title := info "title"
    version := info "version"
    dialect
    basePath := text? doc "basePath"
    operations := operations.flatten }

end SchemaProbe.Document
