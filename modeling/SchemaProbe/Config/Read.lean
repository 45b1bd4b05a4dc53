import SchemaProbe.Config.Basic
import SchemaProbe.FileTree
import SchemaProbe.Json.Decode
import SchemaProbe.Json.Reader
import SchemaProbe.Report.Written
import SchemaProbe.Toml.Reader

set_option autoImplicit false

namespace SchemaProbe.Config

def decodeTarget : Decoder Target := fun v => do
  let name ← Decoder.string v
  match Target.parse? name with
  | some t => return t
  | none => throw (.other (Target.unknownMessage name))

def largest32 : Nat := 2 ^ 32 - 1

def largest64 : Nat := 2 ^ 64 - 1

def fieldNames : List String :=
  ["target", "schema", "base_url", "headers", "path_params", "concurrency", "request_timeout", "run_timeout",
    "max_cases", "random_cases", "seed", "checks"]

def decode : Decoder Config :=
  (Config.mk <$> Fields.defaulted "target" (Decoder.nullable decodeTarget) none <*>
      Fields.defaulted "schema" (Decoder.nullable Decoder.string) none <*>
      Fields.defaulted "base_url" (Decoder.nullable Decoder.string) none <*>
      Fields.defaulted "headers" (Decoder.map Decoder.string) [] <*>
      Fields.defaulted "path_params" (Decoder.map Decoder.string) [] <*>
      Fields.defaulted "concurrency" (Decoder.natural largest64 "usize") 4 <*>
      Fields.defaulted "request_timeout" Decoder.binary64 (Binary64.ofNat 10) <*>
      Fields.defaulted "run_timeout" (Decoder.nullable Decoder.binary64) none <*>
      Fields.defaulted "max_cases" (Decoder.nullable (Decoder.natural largest32 "u32")) none <*>
      Fields.defaulted "random_cases" (Decoder.natural largest32 "u32") 2 <*>
      (Option.map Nat.toUInt64 <$> Fields.defaulted "seed" (Decoder.nullable (Decoder.natural largest64 "u64")) none) <*>
      Fields.defaulted "checks" (Decoder.list (Decoder.variant Check.named)) Check.all).decode
    fieldNames "struct Config"

-- A place in the text is told of faults of syntax only.
def parseJson (text : String) : Except ConfigFault Config :=
  match Json.parseAsWritten text with
  | .error e => .error (.unparsable e.message)
  | .ok v => (decode v).mapError fun e => .unparsable e.message

-- The words of a TOML reader are not kept.
def parseToml (text : String) : Except ConfigFault Config :=
  match Toml.parse? text with
  | none => .error (.unparsable "invalid TOML")
  | some v => (decode v).mapError fun e => .unparsable e.message

def isJsonPath (path : String) : Bool :=
  match (SchemaLocation.fileName? path).bind (Text.splitLast? '.') with
  | some (stem, extension) => stem != "" && extension == "json"
  | none => false

def parse (path text : String) : Except ConfigFault Config :=
  if isJsonPath path then parseJson text else parseToml text

def defaultPaths : List String := [".apiconform.toml", ".apiconform.json", "apiconform.toml"]

def load {m : Type → Type} [Monad m] (files : Files m) (path : String) : m (Except ConfigFault Config) := do
  match ← files.read path with
  | .ok text => return parse path text
  | .error e => return .error (.unreadable path e.message)

def loadFirst {m : Type → Type} [Monad m] (files : Files m) : List String → m (Except ConfigFault Config)
  | [] => return .ok {}
  | path :: rest => do
    if ← files.has path then load files path else loadFirst files rest

def loadDefault {m : Type → Type} [Monad m] (files : Files m) : m (Except ConfigFault Config) :=
  loadFirst files defaultPaths

end SchemaProbe.Config
