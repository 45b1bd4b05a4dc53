import SchemaProbe.JsonSchema.Basic

set_option autoImplicit false

namespace SchemaProbe.Normal

open JsonSchema

def position (keyword : String) : Position :=
  match keyword with
  | "properties" | "patternProperties" | "definitions" | "$defs" => .named
  | "items" | "additionalProperties" | "not" => .schema
  | "allOf" | "anyOf" | "oneOf" => .schemas
  | _ => .data

-- The keyword with its subschemas in normal form. One whose value has not the shape for subschemas is dropped.
def keyword (e : Entry Json) : Option (String × Json) :=
  match position e.keyword, e.sub with
  | .data, _ => some (e.keyword, e.value)
  | _, .one v => some (e.keyword, v)
  | _, .many vs => some (e.keyword, .array vs)
  | _, .named ms => some (e.keyword, .object ms)
  | _, .none => none

-- A flag that makes a bound exclusive moves the bound to its keyword; one that does not is dropped.
def exclusiveBound (exclusive inclusive : String) (ms : Members) : Members :=
  match NameMap.get? ms exclusive with
  | some (.bool flag) =>
    let rest := NameMap.erase ms exclusive
    match flag, NameMap.get? rest inclusive with
    | true, some bound => NameMap.insert (NameMap.erase rest inclusive) exclusive bound
    | _, _ => rest
  | _ => ms

def dropFileType (ms : Members) : Members :=
  match NameMap.get? ms "type" with
  | some (.string "file") => NameMap.erase ms "type"
  | _ => ms

def isTrue (ms : Members) (name : String) : Bool := NameMap.get? ms name == some (.bool true)

def addOnce (vs : List Json) (v : Json) : List Json := if vs.contains v then vs else vs ++ [v]

def nullChoice (ms : Members) : Members :=
  match NameMap.get? ms "enum" with
  | some (.array vs) => NameMap.insert ms "enum" (.array (addOnce vs .null))
  | _ => ms

-- Null beside the declared type, or beside the whole schema where no type is declared.
def admitNull (ms : Members) : Json :=
  let ms := nullChoice ms
  match NameMap.get? ms "type" with
  | some (.string t) => .object (NameMap.insert ms "type" (.array [.string t, .string "null"]))
  | some (.array ts) => .object (NameMap.insert ms "type" (.array (addOnce ts (.string "null"))))
  | _ => .object [("anyOf", .array [.object ms, .object [("type", .string "null")]])]

-- Exclusive flags become bounds; what has no meaning for validation goes.
def plainMembers (ms : Members) : Members :=
  let ms := exclusiveBound "exclusiveMinimum" "minimum" ms
  let ms := exclusiveBound "exclusiveMaximum" "maximum" ms
  NameMap.erase (dropFileType ms) "discriminator"

def nullByType (ms : Members) : Json :=
  let plain := NameMap.erase (NameMap.erase ms "nullable") "x-nullable"
  if isTrue ms "nullable" || isTrue ms "x-nullable" then admitNull plain else .object plain

def node (es : List (Entry Json)) : Json := nullByType (plainMembers (es.filterMap keyword))

def normalize (schema : Json) : Json := fold position id node schema

end SchemaProbe.Normal
