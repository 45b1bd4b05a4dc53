import SchemaProbe.Binary64.Decimal
import SchemaProbe.Check.Basic
import SchemaProbe.NameMap
import SchemaProbe.Target

set_option autoImplicit false

namespace SchemaProbe

structure Config where
  target : Option Target := none
  schema : Option String := none
  baseUrl : Option String := none
  headers : NameMap String := []
  pathTexts : NameMap String := []
  concurrency : Nat := 4
  requestTimeout : Binary64 := Binary64.ofNat 10
  runTimeout : Option Binary64 := none
  maxCases : Option Nat := none
  randomCases : Nat := 2
  seed : Option UInt64 := none
  checks : List Check := Check.all
deriving Repr

inductive ConfigFault where
  | unreadable (path reason : String)
  | unparsable (reason : String)
  | unknownTarget (name : String)
  | unknownCheck (name : String)
  | missing (field : String)
  | notHttp (baseUrl : String)
  | invalid (reason : String)
deriving DecidableEq, Repr

def ConfigFault.message : ConfigFault → String
  | unreadable path reason => "Cannot read " ++ path ++ ": " ++ reason
  | unparsable reason => "Parse error: " ++ reason
  | unknownTarget name => Target.unknownMessage name
  | unknownCheck name => Check.unknownMessage name
  | missing field => "No " ++ field ++ " configured: pass a target or set it explicitly"
  | notHttp baseUrl => "Base URL must start with http:// or https://, got '" ++ baseUrl ++ "'"
  | invalid reason => "Invalid configuration: " ++ reason

structure Destination where
  baseUrl : String
  schema : SchemaLocation
deriving DecidableEq, Repr

namespace Config

def withoutTrailingSlashes (s : String) : String :=
  String.ofList (s.toList.reverse.dropWhile (· == '/')).reverse

-- What is given explicitly comes before what the target stands for.
def destination (c : Config) : Except ConfigFault Destination := do
  let some baseUrl := c.baseUrl.orElse fun _ => c.target.map Target.baseUrl | throw (.missing "base_url")
  let some schema := (c.schema.map SchemaLocation.parse).orElse fun _ => c.target.map Target.schema
    | throw (.missing "schema")
  if SchemaLocation.isUrl baseUrl then return { baseUrl := withoutTrailingSlashes baseUrl, schema }
  else throw (.notHttp baseUrl)

def isPositive (x : Binary64) : Bool := x.isFinite && Binary64.lt (Binary64.ofNat 0) x

def isNotNegative (x : Binary64) : Bool := x.isFinite && Binary64.le (Binary64.ofNat 0) x

def validate (c : Config) : Except ConfigFault Unit := do
  if c.concurrency = 0 then throw (.invalid "concurrency must be at least 1")
  if !isPositive c.requestTimeout then throw (.invalid "request_timeout must be a positive number of seconds")
  if c.runTimeout.any (!isNotNegative ·) then throw (.invalid "run_timeout must be a non-negative number of seconds")
  if c.checks.isEmpty then throw (.invalid "at least one check must be enabled")

end Config

end SchemaProbe
