import SchemaProbe.ValueType.Keyword

set_option autoImplicit false

namespace SchemaProbe

inductive DocumentFault where
  | rootNotObject
  | unsupportedVersion (format : String) (got : Json)
  | noVersion
  | noPaths
  | pathsNotObject
  | pathWithoutSlash (path : String)
  | pathItemNotObject (path : String)
  | notObject (place : String)
  | externalReference (place reference : String)
  | unresolvableReference (place reference : String)
  | chainTooDeep (place : String)
  | parametersNotArray (place : String)
  | nameNotText (place : String)
  | locationNotText (place : String)
  | unknownLocation (place location : String)
  | bodyWithoutSchema (place : String)
  | requiredFile (place : String)
  | type (place : String) (fault : TypeFault)
  | undefinedPathParameter (place name : String)
  | responsesNotObject (place : String)
  | invalidStatus (place key : String)
  | formNotObject (place : String)
  -- The validator's own words are not kept.
  | invalidSchema (place : String)

def DocumentFault.message : DocumentFault → String
  | rootNotObject => "document root must be an object"
  | unsupportedVersion format got => "unsupported " ++ format ++ " version " ++ got.compact
  | noVersion => "missing 'openapi' or 'swagger' version field"
  | noPaths => "missing 'paths'"
  | pathsNotObject => "'paths' must be an object"
  | pathWithoutSlash path => "path '" ++ path ++ "' must start with '/'"
  | pathItemNotObject path => "path item " ++ path ++ " must be an object"
  | notObject place => place ++ " must be an object"
  | externalReference place r => place ++ ": external reference '" ++ r ++ "' is not supported"
  | unresolvableReference place r => place ++ ": unresolvable reference '" ++ r ++ "'"
  | chainTooDeep place => place ++ ": reference chain too deep"
  | parametersNotArray place => place ++ ": 'parameters' must be an array"
  | nameNotText place => place ++ ": 'name' must be a string"
  | locationNotText place => place ++ ": 'in' must be a string"
  | unknownLocation place l => place ++ ": unknown location '" ++ l ++ "'"
  | bodyWithoutSchema place => place ++ ": body parameter without 'schema'"
  | requiredFile place => place ++ ": required file parameters are not supported"
  | type place fault => place ++ ": " ++ fault.message
  | undefinedPathParameter place name => place ++ ": path parameter '" ++ name ++ "' is not defined"
  | responsesNotObject place => place ++ ": 'responses' must be an object"
  | invalidStatus place key => place ++ ": invalid response key '" ++ key ++ "'"
  | formNotObject place => place ++ ": form body schema must be an object"
  | invalidSchema place => place ++ ": schema is not valid JSON Schema"

end SchemaProbe
