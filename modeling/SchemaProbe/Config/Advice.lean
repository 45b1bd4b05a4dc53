import SchemaProbe.Config.Basic

set_option autoImplicit false

namespace SchemaProbe

inductive AdviceLevel where
  | ok
  | warning
  | error
deriving DecidableEq, Repr

namespace AdviceLevel

def name : AdviceLevel → String
  | ok => "ok"
  | warning => "warning"
  | error => "error"

def mark : AdviceLevel → String
  | ok => "OK"
  | warning => "WARNING"
  | error => "ERROR"

end AdviceLevel

structure Advice where
  topic : String
  level : AdviceLevel
  message : String
deriving DecidableEq, Repr

namespace Advice

-- Texts that stand in templates for a real value.
def placeholders : List String :=
  ["your-token", "your_token", "your-api-key", "your_api_key", "changeme", "placeholder", "replace-me", "replace_me"]

def bracketed? (value : String) : Option String :=
  let cs := value.toList.dropWhile (· != '<')
  let inner := (cs.drop 1).reverse.dropWhile (· != '>')
  if cs.isEmpty || inner.isEmpty then none else some (String.ofList ('<' :: inner.reverse))

def placeholder? (value : String) : Option String :=
  (bracketed? value).orElse fun _ => placeholders.find? fun p => Text.containsText p (Text.lowerAscii value)

def onSchema (found : Bool) : SchemaLocation → Advice
  | .url u => ⟨"schema", .ok, "schema: " ++ u ++ " (remote)"⟩
  | .file p => if found then ⟨"schema", .ok, "schema: " ++ p ++ " (exists)"⟩ else ⟨"schema", .error, "schema: " ++ p ++ " (not found)"⟩

def onDestination (c : Config) (found : Bool) : List Advice :=
  match c.destination with
  | .ok d => [⟨"base_url", .ok, "base_url: " ++ d.baseUrl⟩, onSchema found d.schema]
  | .error e => [⟨"target", .error, e.message⟩]

def onSettings (c : Config) : List Advice :=
  match c.validate with
  | .ok () => []
  | .error e => [⟨"settings", .error, e.message⟩]

def onHeaders (headers : NameMap String) : List Advice :=
  match headers.filterMap fun h => (placeholder? h.2).map fun found =>
      (⟨"headers", .warning, h.1 ++ ": value contains '" ++ found ++ "', looks like a placeholder"⟩ : Advice) with
  | [] => [⟨"headers", .ok, "headers: " ++ toString headers.length ++ " configured"⟩]
  | suspicious => suspicious

def onRunTimeout : Option Binary64 → List Advice
  | none => []
  | some t =>
    if t.isZero then [⟨"run_timeout", .warning, "run_timeout: 0s, every case will be inconclusive"⟩]
    else [⟨"run_timeout", .ok, "run_timeout: " ++ t.plainText ++ "s"⟩]

def onSeed : Option UInt64 → List Advice
  | some _ => []
  | none => [⟨"seed", .ok, "seed: random, recorded in the report"⟩]

def onPathTexts (texts : NameMap String) : List Advice :=
  if texts.isEmpty then [] else [⟨"path_params", .ok, "path_params: " ++ ", ".intercalate (NameMap.names texts)⟩]

def onChecks (checks : List Check) : Advice :=
  ⟨"checks", if checks.isEmpty then .error else .ok, "checks: " ++ ", ".intercalate (checks.map Check.name)⟩

end Advice

-- All remarks; `found` tells whether there is a file where the schema should be.
def Config.advice (c : Config) (found : Bool) : List Advice :=
  Advice.onDestination c found ++ Advice.onSettings c ++ Advice.onHeaders c.headers ++ Advice.onRunTimeout c.runTimeout ++
    Advice.onSeed c.seed ++ Advice.onPathTexts c.pathTexts ++ [Advice.onChecks c.checks]

end SchemaProbe
