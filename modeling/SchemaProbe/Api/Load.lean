import SchemaProbe.Api.OfDocument
import SchemaProbe.Json.Reader
import SchemaProbe.Target
import SchemaProbe.Yaml.Document

set_option autoImplicit false

namespace SchemaProbe.Document

inductive LoadFault where
  | json (error : Json.SyntaxError)
  | yaml
  | document (fault : DocumentFault)

-- The words of a YAML reader are not kept.
def LoadFault.message : LoadFault → String
  | json error => "Invalid JSON: " ++ error.message
  | yaml => "Invalid YAML"
  | document fault => fault.message

inductive Format where
  | json
  | yaml
deriving DecidableEq, Repr

def formatOf (extension : Option String) (text : String) : Format :=
  match extension with
  | some "yaml" | some "yml" => .yaml
  | some "json" => .json
  | _ => if (Text.trimStart text.toList).head? == some '\x7b' then .json else .yaml

def parse (extension : Option String) (text : String) : Except LoadFault Json :=
  match formatOf extension text with
  | .json => (Json.parse text).mapError .json
  | .yaml =>
    match Yaml.parse? text with
    | some v => .ok v
    | none => .error .yaml

def load (location : SchemaLocation) (text : String) : Except LoadFault Api := do
  let doc ← parse location.extension? text
  (read doc).mapError .document

def faultMessage (location : SchemaLocation) (fault : LoadFault) : String :=
  "invalid schema " ++ location.text ++ ": " ++ fault.message

end SchemaProbe.Document
