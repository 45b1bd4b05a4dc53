import SchemaProbe.JsonSchema.Basic
import SchemaProbe.Json.Printer

set_option autoImplicit false

namespace SchemaProbe.JsonSchema

inductive Violation where
  | type (got : Json) (names : List String)
  | const (expected : Json)
  | choice (got : Json) (options : List Json)
  | belowMinimum (got limit : Json)
  | aboveMaximum (got limit : Json)
  | notAbove (got limit : Json)
  | notBelow (got limit : Json)
  | multiple (got : Json) (step : Binary64)
  | tooShort (got : Json) (limit : Nat)
  | tooLong (got : Json) (limit : Nat)
  | tooFewItems (got : Json) (limit : Nat)
  | tooManyItems (got : Json) (limit : Nat)
  | tooFewMembers (got : Json) (limit : Nat)
  | tooManyMembers (got : Json) (limit : Nat)
  | missing (name : Json)
  | pattern (got : Json) (source : String)
  | repeated (got : Json)
  | unexpected (names : List String)
  | unevaluatedMembers (names : List String)
  | unevaluatedElements (elements : List Json)
  | contains (got : Json)
  | anyOf (got : Json)
  | oneOfNone (got : Json)
  | oneOfSeveral (got : Json)
  | excluded (got schema : Json)
  | never (got : Json)

def counted (n : Nat) (one several : String) : String := toString n ++ " " ++ (if n = 1 then one else several)

def alternatives (options : List Json) : String :=
  match options.map Json.compact with
  | [] => ""
  | [a] => a
  | [a, b] => a ++ " or " ++ b
  | [a, b, c] => a ++ ", " ++ b ++ " or " ++ c
  | a :: b :: rest => a ++ ", " ++ b ++ " or " ++ toString rest.length ++ " other candidates"

def quotedNames (names : List String) : String := String.intercalate ", " (names.map Json.quote)

def notExpected (what : String) (shown : List String) : String :=
  what ++ " are not allowed (" ++ String.intercalate ", " (shown.map fun s => "'" ++ s ++ "'") ++
    (if shown.length = 1 then " was" else " were") ++ " unexpected)"

def Violation.message : Violation → String
  | type got [name] => got.compact ++ " is not of type " ++ Json.quote name
  | type got names => got.compact ++ " is not of types " ++ quotedNames names
  | const expected => expected.compact ++ " was expected"
  | choice got options => got.compact ++ " is not one of " ++ alternatives options
  | belowMinimum got limit => got.compact ++ " is less than the minimum of " ++ limit.compact
  | aboveMaximum got limit => got.compact ++ " is greater than the maximum of " ++ limit.compact
  | notAbove got limit => got.compact ++ " is less than or equal to the minimum of " ++ limit.compact
  | notBelow got limit => got.compact ++ " is greater than or equal to the maximum of " ++ limit.compact
  | multiple got step => got.compact ++ " is not a multiple of " ++ step.plainText
  | tooShort got n => got.compact ++ " is shorter than " ++ counted n "character" "characters"
  | tooLong got n => got.compact ++ " is longer than " ++ counted n "character" "characters"
  | tooFewItems got n => got.compact ++ " has less than " ++ counted n "item" "items"
  | tooManyItems got n => got.compact ++ " has more than " ++ counted n "item" "items"
  | tooFewMembers got n => got.compact ++ " has less than " ++ counted n "property" "properties"
  | tooManyMembers got n => got.compact ++ " has more than " ++ counted n "property" "properties"
  | missing name => name.compact ++ " is a required property"
  | pattern got source => got.compact ++ " does not match " ++ Json.quote source
  | repeated got => got.compact ++ " has non-unique elements"
  | unexpected names => notExpected "Additional properties" names
  | unevaluatedMembers names => notExpected "Unevaluated properties" names
  | unevaluatedElements elements => notExpected "Unevaluated items" (elements.map Json.compact)
  | contains got => "None of " ++ got.compact ++ " are valid under the given schema"
  | anyOf got => got.compact ++ " is not valid under any of the schemas listed in the 'anyOf' keyword"
  | oneOfNone got => got.compact ++ " is not valid under any of the schemas listed in the 'oneOf' keyword"
  | oneOfSeveral got => got.compact ++ " is valid under more than one of the schemas listed in the 'oneOf' keyword"
  | excluded got schema => schema.compact ++ " is not allowed for " ++ got.compact
  | never got => "False schema does not allow " ++ got.compact

end SchemaProbe.JsonSchema
