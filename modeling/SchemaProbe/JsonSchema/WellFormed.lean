import SchemaProbe.JsonSchema.Basic
import SchemaProbe.Pattern.Reader

set_option autoImplicit false

namespace SchemaProbe.JsonSchema

def isSize (v : Json) : Bool :=
  match v with
  | .number n => n.isIntegral && 0 ≤ n.toRat
  | _ => false

def allDistinct (xs : List Json) : Bool :=
  match xs with
  | [] => true
  | x :: rest => !rest.any (same x) && allDistinct rest

def isNameList (v : Json) : Bool :=
  match v with
  | .array xs => xs.all Json.isString && allDistinct xs
  | _ => false

def isTypeName (v : Json) : Bool := v.string?.any typeNames.contains

def isTypeValue (v : Json) : Bool :=
  match v with
  | .array xs => !xs.isEmpty && xs.all isTypeName && allDistinct xs
  | v => isTypeName v

def isPattern (source : String) : Bool := (Pattern.schema? source).isSome

def isData (keyword : String) (v : Json) : Bool :=
  match keyword with
  | "type" => isTypeValue v
  | "enum" | "examples" => v.array?.isSome
  | "multipleOf" => v.number?.any fun n => 0 < n.toRat
  | "minimum" | "maximum" | "exclusiveMinimum" | "exclusiveMaximum" => v.isNumber
  | "minLength" | "maxLength" | "minItems" | "maxItems" | "minProperties" | "maxProperties" | "minContains"
  | "maxContains" => isSize v
  | "pattern" => v.string?.any isPattern
  | "uniqueItems" | "deprecated" | "readOnly" | "writeOnly" => v.isBool
  | "required" => isNameList v
  | "dependentRequired" => v.object?.any fun ms => ms.all fun m => isNameList m.2
  | "title" | "description" | "format" | "contentEncoding" | "contentMediaType" | "$comment" | "$id" | "$schema"
  | "$ref" | "$anchor" | "$dynamicRef" | "$dynamicAnchor" => v.isString
  | _ => true

-- The shape alone: a pattern is any text, whether or not it can be read.
def isShaped (keyword : String) (v : Json) : Bool :=
  if keyword = "pattern" then v.isString else isData keyword v

structure Standing where
  usable : Bool
  kept : Bool

def Standing.both (b : Bool) : Standing := ⟨b, b⟩

def Standing.and (a b : Standing) : Standing := ⟨a.usable && b.usable, a.kept && b.kept⟩

-- The standing a keyword leaves. Patterns matter only where validation can get to them, which is nowhere below
-- `definitions`.
def Entry.standing (e : Entry Standing) : Standing :=
  match position e.keyword, e.sub with
  | .data, _ => ⟨isData e.keyword e.value, isShaped e.keyword e.value⟩
  | .schema, .one s => s
  | .schemas, .many ss => ⟨!ss.isEmpty && ss.all (·.usable), !ss.isEmpty && ss.all (·.kept)⟩
  | .named, .named ss =>
    if e.keyword = "definitions" || e.keyword = "$defs" then .both (ss.all fun m => m.2.kept)
    else
      ⟨ss.all (fun m => m.2.usable) && (e.keyword != "patternProperties" || ss.all fun m => isPattern m.1),
        ss.all fun m => m.2.kept⟩
  | _, _ => .both false

def standing (v : Json) : Standing :=
  fold position (fun v => .both v.isBool) (fun es => es.foldl (fun acc e => acc.and e.standing) (.both true)) v

def isSchema (v : Json) : Bool := (standing v).usable

end SchemaProbe.JsonSchema
