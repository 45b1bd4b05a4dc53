import SchemaProbe.ValueType.Basic
import SchemaProbe.Json.Printer
import SchemaProbe.Text.Trim

set_option autoImplicit false

namespace SchemaProbe

-- A string stands for itself and null for nothing.
def Json.written : Json → String
  | .string s => s
  | .null => ""
  | v => v.compact

namespace ValueType

def readInteger (text : String) : Json :=
  match Text.int? (Text.trim text) with
  | some i => if Number.smallestSigned ≤ i ∧ i ≤ Number.largestSigned then .ofInt i else .string text
  | none => .string text

def readNumber (text : String) : Json :=
  match Binary64.ofText? (Text.trim text) with
  | some x => if x.isFinite then .number (.float x) else .string text
  | none => .string text

def readBoolean (text : String) : Json :=
  match Text.trim text with
  | "true" => .bool true
  | "false" => .bool false
  | _ => .string text

-- Reads written text as a value of the type. Text that cannot be read stays a string, which the type then does not
-- accept; an array is read from the non-empty pieces between commas.
def read : ValueType → String → Json
  | integer .., written => readInteger written
  | number .., written => readNumber written
  | boolean .., written => readBoolean written
  | array _ items _, written =>
    .array (((Text.splitOn ',' written).filter (· != "")).map fun piece => items.read (Text.trim piece))
  | _, written => .string written

end ValueType

end SchemaProbe
