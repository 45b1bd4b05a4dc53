import SchemaProbe.CommandLine.Invocation
import SchemaProbe.Config.Example
import SchemaProbe.Report.Schema
import SchemaProbe.Report.Terminal
import SchemaProbe.Run.Plan
import SchemaProbe.Run.Prepare

set_option autoImplicit false

namespace SchemaProbe.CommandLine

structure Printed where
  code : Nat
  stdout : String := ""
  stderr : String := ""
deriving DecidableEq, Repr

namespace Printed

def line (s : String) : String := s ++ "\n"

def lines (ss : List String) : String := String.join (ss.map line)

def usage : Printed := { code := 2, stderr := "usage error" }

def failed (message : String) : Printed := { code := Verdict.toolError, stderr := line ("Error: " ++ message) }

def aborted : Printed := { code := 101 }

def andThen (a b : Printed) : Printed :=
  { code := b.code, stdout := a.stdout ++ b.stdout, stderr := a.stderr ++ b.stderr }

end Printed

variable {m : Type → Type} [Monad m]

structure Machine (m : Type → Type) where
  files : Files m
  network : Network m
  surroundings : Surroundings
  -- The seed of a run without a configured one.
  seed : UInt64

def Overrides.load (o : Overrides) (files : Files m) : m (Except OverrideFault Config) := do
  let base ← match o.config with
    | some path => Config.load files path
    | none => Config.loadDefault files
  return base.mapError OverrideFault.config >>= o.apply

def configLines (p : Probe) : List String :=
  ["Config:", "  base_url:    " ++ p.baseUrl, "  schema:      " ++ p.location,
    "  operations:  " ++ toString p.api.operations.length, "  concurrency: " ++ toString p.settings.concurrency] ++
    (if p.settings.headers.isEmpty then []
      else ["  headers:     " ++ toString p.settings.headers.length ++ " configured"]) ++
    ["  seed:        " ++ toString p.settings.cases.seed.toNat, ""]

-- An address that is no base is told of twice: as the fault and as its cause.
def baseFaultText (given : String) (fault : UrlFault) : String :=
  let cause := "invalid request: " ++ fault.baseMessage given
  "cannot build HTTP client: " ++ cause ++ ": " ++ cause

def shownReport (output : Output) (r : RunReport) (v : Verdict) : String :=
  match output with
  | .terminal => Printed.line (r.terminal v)
  | .json => Printed.line ((r.judgementJson v).sorted.pretty 0)
  | .silent => ""

def directoryOf (path : String) : String :=
  let strip (cs : List Char) : List Char := cs.dropWhile (· == '/')
  String.ofList (strip ((strip path.toList.reverse).dropWhile (· != '/'))).reverse

def saveReport (files : Files m) (path text : String) : m (Option String) := do
  let directory := directoryOf path
  let made ← if directory = "" then pure (.ok ()) else files.makeDirectory directory
  match made with
  | .error e => return some ("cannot create " ++ directory ++ ": " ++ e.message)
  | .ok () =>
    match ← files.write path text with
    | .error e => return some ("cannot write " ++ path ++ ": " ++ e.message)
    | .ok () => return none

def finishRun (files : Files m) (output : Output) (r : RunReport) (v : Verdict) (report : Option String) : m Printed := do
  let shown : Printed := { code := v.exitCode, stdout := shownReport output r v }
  match report with
  | none => return shown
  | some path =>
    match ← saveReport files path (r.toJson.pretty 0) with
    | some message => return shown.andThen (.failed message)
    | none =>
      let saved := if output = .silent then "" else Printed.line ("Report saved: " ++ path)
      return { shown with stderr := saved }

def PrepareFault.printed (what : String) : PrepareFault → Printed
  | .spanTooLong => .aborted
  | fault => .failed ("cannot prepare " ++ what ++ ": " ++ fault.message)

def run (machine : Machine m) (output : Output) (strict : Bool) (o : Overrides) (report : Option String) : m Printed := do
  match ← o.load machine.files with
  | .error e => return .failed e.message
  | .ok c =>
    match ← Probe.ofConfig machine.files machine.network c machine.seed with
    | .error e => return PrepareFault.printed "run" e
    | .ok p =>
      let head : Printed := { code := 0, stderr := if output = .silent then "" else Printed.lines (configLines p) }
      match p.run machine.surroundings with
      | .error (.base given fault) => return head.andThen (.failed (baseFaultText given fault))
      | .error (.draw _) | .error .deadline => return head.andThen .aborted
      | .ok r => return head.andThen (← finishRun machine.files output r (r.verdict strict) report)

def shownPlan (output : Output) (plan : RunPlan) : String :=
  match output with
  | .terminal => Printed.line plan.terminal
  | .json => Printed.line (plan.toJson.pretty 0)
  | .silent => ""

def plan (machine : Machine m) (output : Output) (o : Overrides) : m Printed := do
  match ← o.load machine.files with
  | .error e => return .failed e.message
  | .ok c =>
    match ← Probe.ofConfig machine.files machine.network c machine.seed with
    | .error e => return PrepareFault.printed "plan" e
    | .ok p =>
      let plan := p.plan c (← c.findsSchema machine.files)
      return { code := if plan.hasErrors then 1 else 0, stdout := shownPlan output plan }

def targetLine (t : Target) : String := Text.padRight 6 ' ' t.name ++ " " ++ t.baseUrl ++ " (schema: " ++ t.schema.text ++ ")"

def targetJson (t : Target) : Json :=
  .object [("name", .string t.name), ("base_url", .string t.baseUrl), ("schema", .string t.schema.text)]

def targets (output : Output) : Printed :=
  { code := 0
    stdout := match output with
      | .terminal => Printed.lines (Target.all.map targetLine)
      | .json => Printed.line ((Json.array (Target.all.map targetJson)).sorted.pretty 0)
      | .silent => "" }

def configPath : String := ".apiconform.toml"

def init (machine : Machine m) : m Printed := do
  if ← machine.files.has configPath then
    return { code := 1, stderr := Printed.line (configPath ++ " already exists") }
  match ← machine.files.write configPath Config.exampleText with
  | .error e => return .failed ("cannot write " ++ configPath ++ ": " ++ e.message)
  | .ok () =>
    return {
      code := 0
      stdout := Printed.lines
        ["Created " ++ configPath, "", "Edit the file to configure:", "  - target: named environment, or",
          "  - schema + base_url: document location and service to test", "  - headers: auth tokens, API keys",
          "  - path_params: entity IDs that exist on the server"] }

def Invocation.execute (machine : Machine m) (i : Invocation) : m Printed :=
  match i.command with
  | .run o report => run machine i.output i.strict o report
  | .plan o => plan machine i.output o
  | .targets => return targets i.output
  | .init => init machine
  | .schema => return { code := 0, stdout := Printed.line ReportSchema.text }

def execute (machine : Machine m) (network : Option String) (args : List String) : m Printed :=
  match Invocation.parse? network args with
  | some i => i.execute machine
  | none => return .usage

end SchemaProbe.CommandLine
