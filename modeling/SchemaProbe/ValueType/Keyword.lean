import SchemaProbe.Json.Printer

set_option autoImplicit false

namespace SchemaProbe

inductive TypeFault where
  | notObject (got : Json)
  | typeNotText (got : Json)
  | unknownType (name : String)
  | noTextChoice
  | noIntegerChoice
  | noNumberChoice
  | inItems (fault : TypeFault)
  | inProperty (name : String) (fault : TypeFault)
  | partNotObject (got : Json)
  | partsNotArray (got : Json)
  | typesDiffer (first second : String)
  | noCommonChoice
  | stepOverflow (a b : Binary64)
  | noCommonStep (a b : Binary64)

def TypeFault.message : TypeFault → String
  | notObject got => "schema must be an object, got " ++ got.compact
  | typeNotText got => "'type' must be a string, got " ++ got.compact
  | unknownType name => "unknown type '" ++ name ++ "'"
  | noTextChoice => "enum has no string values for type 'string'"
  | noIntegerChoice => "enum has no integer values for type 'integer'"
  | noNumberChoice => "enum has no numeric values for type 'number'"
  | inItems fault => "items: " ++ fault.message
  | inProperty name fault => "property '" ++ name ++ "': " ++ fault.message
  | partNotObject got => "allOf part must be an object, got " ++ got.compact
  | partsNotArray got => "'allOf' must be an array, got " ++ got.compact
  | typesDiffer first second => "allOf combines types '" ++ first ++ "' and '" ++ second ++ "'"
  | noCommonChoice => "allOf enums share no value"
  | stepOverflow a b => "allOf multipleOf " ++ a.plainText ++ " and " ++ b.plainText ++ " overflow"
  | noCommonStep a b => "allOf multipleOf " ++ a.plainText ++ " and " ++ b.plainText ++ " have no common step"

namespace Keyword

def flag (ms : Members) (name : String) : Bool := ((NameMap.get? ms name).bind Json.bool?).getD false

def size? (ms : Members) (name : String) : Option Nat := (NameMap.get? ms name).bind Json.nat?

def text? (ms : Members) (name : String) : Option String := (NameMap.get? ms name).bind Json.string?

def number? (ms : Members) (name : String) : Option Binary64 := (NameMap.get? ms name).bind Json.binary64?

def elements (ms : Members) (name : String) : List Json := ((NameMap.get? ms name).bind Json.array?).getD []

def isNullable (ms : Members) : Bool := flag ms "nullable" || flag ms "x-nullable"

-- Whether a schema names the null type, and nothing else, as its type.
def isNullType (v : Json) : Bool := (v.get? "type").bind Json.string? == some "null"

-- A bound and whether it is exclusive, whether the exclusive keyword is a flag or a bound of its own.
def bound (ms : Members) (inclusive exclusive : String) : Option Binary64 × Bool :=
  match NameMap.get? ms exclusive with
  | some (.number n) => (some n.toBinary64, true)
  | some (.bool b) => (number? ms inclusive, b)
  | _ => (number? ms inclusive, false)

end Keyword

end SchemaProbe
