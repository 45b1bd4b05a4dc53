import SchemaProbe.CommandLine.Options
import SchemaProbe.Config.Basic

set_option autoImplicit false

namespace SchemaProbe.CommandLine

inductive Output where
  | terminal
  | json
  | silent
deriving DecidableEq, Repr

-- Settings that come before those of a configuration.
structure Overrides where
  target : Option String := none
  schema : Option String := none
  baseUrl : Option String := none
  config : Option String := none
  headers : List String := []
  concurrency : Option Nat := none
  requestTimeout : Option Binary64 := none
  runTimeout : Option Binary64 := none
  checks : Option (List String) := none
  maxCases : Option Nat := none
  randomCases : Option Nat := none
  seed : Option UInt64 := none
deriving Repr

inductive Command where
  | run (overrides : Overrides) (report : Option String)
  | plan (overrides : Overrides)
  | targets
  | init
  | schema
deriving Repr

structure Invocation where
  command : Command
  output : Output := .terminal
  strict : Bool := true
deriving Repr

def readOutput? : String → Option Output
  | "terminal" => some .terminal
  | "json" => some .json
  | "silent" => some .silent
  | _ => none

def readBool? : String → Option Bool
  | "true" => some true
  | "false" => some false
  | _ => none

def readNatural? (largest : Nat) (s : String) : Option Nat :=
  if Text.startsWith "-" s then none
  else (Text.int? s).bind fun i => if i ≤ largest then some i.toNat else none

-- As a natural number, but zero may have a minus sign.
def readSmall? (s : String) : Option Nat :=
  (Text.int? s).bind fun i => if 0 ≤ i ∧ i ≤ 2 ^ 32 - 1 then some i.toNat else none

def readPath? (s : String) : Option String := if s = "" then none else some s

namespace Given

-- The value of an option, which may be absent but not wrong.
def read? {α : Type} (g : Given) (o : Opt) (f : String → Option α) : Option (Option α) :=
  match g.last? o with
  | none => some none
  | some s => (f s).map some

end Given

-- Without the option, the target is the one that the surroundings name.
def readOverrides? (network : Option String) (g : Given) : Option Overrides := do
  return {
    target := (g.last? .target).orElse fun _ => network
    schema := g.last? .schema
    baseUrl := g.last? .baseUrl
    config := ← g.read? .config readPath?
    headers := g.values .header
    concurrency := ← g.read? .concurrency (readNatural? (2 ^ 64 - 1))
    requestTimeout := ← g.read? .requestTimeout Binary64.ofText?
    runTimeout := ← g.read? .runTimeout Binary64.ofText?
    checks := if (g.values .checks).isEmpty then none else some ((g.values .checks).flatMap (Text.splitOn ','))
    maxCases := ← g.read? .maxCases readSmall?
    randomCases := ← g.read? .randomCases readSmall?
    seed := (← g.read? .seed (readNatural? (2 ^ 64 - 1))).map Nat.toUInt64 }

def ownOptions? : String → Option (List Opt)
  | "run" => some (Opt.ofTarget ++ [.report])
  | "plan" => some Opt.ofTarget
  | "targets" | "init" | "schema" => some []
  | _ => none

def readCommand? (network : Option String) (name : String) (g : Given) : Option Command :=
  match name with
  | "run" => do return .run (← readOverrides? network g) (← g.read? .report readPath?)
  | "plan" => do return .plan (← readOverrides? network g)
  | "targets" => some .targets
  | "init" => some .init
  | "schema" => some .schema
  | _ => none

-- A shared option behind the command comes before one in front of it.
def sharedValue? {α : Type} (before behind : Given) (o : Opt) (f : String → Option α) (default : α) : Option α := do
  let first ← before.read? o f
  let second ← behind.read? o f
  return (second.orElse fun _ => first).getD default

def Invocation.parse? (network : Option String) (args : List String) : Option Invocation := do
  let before ← options? Opt.shared args
  match before.rest with
  | [] => none
  | name :: rest => do
    let own ← ownOptions? name
    let behind ← options? (Opt.shared ++ own) rest
    if !behind.rest.isEmpty then none
    return {
      command := ← readCommand? network name behind.given
      output := ← sharedValue? before.given behind.given .output readOutput? .terminal
      strict := ← sharedValue? before.given behind.given .strict readBool? true }

inductive OverrideFault where
  | config (fault : ConfigFault)
  | header (text : String)
deriving DecidableEq, Repr

def OverrideFault.message : OverrideFault → String
  | config fault => fault.message
  | header text => "invalid header '" ++ text ++ "', expected \"Name: value\""

namespace Overrides

def readTarget (name : String) : Except OverrideFault Target :=
  match Target.parse? name with
  | some t => .ok t
  | none => .error (.config (.unknownTarget name))

def readCheck (name : String) : Except OverrideFault Check :=
  match Check.parse? name with
  | some c => .ok c
  | none => .error (.config (.unknownCheck name))

def addHeader (headers : NameMap String) (text : String) : Except OverrideFault (NameMap String) :=
  match Text.splitOnce? ':' text with
  | some (name, value) => .ok (NameMap.insert headers (Text.trim name) (Text.trim value))
  | none => .error (.header text)

def apply (o : Overrides) (c : Config) : Except OverrideFault Config := do
  let target ← match o.target with
    | some name => some <$> readTarget name
    | none => pure c.target
  let headers ← o.headers.foldlM addHeader c.headers
  let checks ← match o.checks with
    | some names => names.mapM readCheck
    | none => pure c.checks
  return {
    target
    schema := o.schema.orElse fun _ => c.schema
    baseUrl := o.baseUrl.orElse fun _ => c.baseUrl
    headers
    pathTexts := c.pathTexts
    concurrency := o.concurrency.getD c.concurrency
    requestTimeout := o.requestTimeout.getD c.requestTimeout
    runTimeout := o.runTimeout.orElse fun _ => c.runTimeout
    maxCases := o.maxCases.orElse fun _ => c.maxCases
    randomCases := o.randomCases.getD c.randomCases
    seed := o.seed.orElse fun _ => c.seed
    checks }

end Overrides

end SchemaProbe.CommandLine
