import SchemaProbe.Text.Trim

set_option autoImplicit false

namespace SchemaProbe.CommandLine

inductive Opt where
  | output
  | strict
  | verbose
  | quiet
  | target
  | schema
  | baseUrl
  | config
  | header
  | concurrency
  | requestTimeout
  | runTimeout
  | checks
  | maxCases
  | randomCases
  | seed
  | report
deriving DecidableEq, Repr

namespace Opt

def long : Opt → String
  | output => "output"
  | strict => "strict"
  | verbose => "verbose"
  | quiet => "quiet"
  | target => "target"
  | schema => "schema"
  | baseUrl => "base-url"
  | config => "config"
  | header => "header"
  | concurrency => "concurrency"
  | requestTimeout => "request-timeout"
  | runTimeout => "run-timeout"
  | checks => "checks"
  | maxCases => "max-cases"
  | randomCases => "random-cases"
  | seed => "seed"
  | report => "report"

def letter? : Opt → Option Char
  | verbose => some 'v'
  | quiet => some 'q'
  | target => some 't'
  | schema => some 's'
  | baseUrl => some 'b'
  | config => some 'c'
  | header => some 'H'
  | _ => none

def takesValue : Opt → Bool
  | verbose | quiet => false
  | _ => true

def mayRepeat : Opt → Bool
  | verbose | header | checks => true
  | _ => false

def shared : List Opt := [output, strict, verbose, quiet]

def ofTarget : List Opt :=
  [target, schema, baseUrl, config, header, concurrency, requestTimeout, runTimeout, checks, maxCases, randomCases, seed]

end Opt

-- Options in the order in which they are given; one without a value has an empty one.
abbrev Given := List (Opt × String)

namespace Given

def values (g : Given) (o : Opt) : List String := (g.filter (·.1 == o)).map Prod.snd

def last? (g : Given) (o : Opt) : Option String := (g.values o).getLast?

-- None is given twice that may not be, and silence and loudness are not both asked for.
def isConsistent (g : Given) : Bool :=
  (Opt.shared ++ Opt.ofTarget ++ [Opt.report]).all (fun o => o.mayRepeat || (g.values o).length ≤ 1) &&
    !(g.any (·.1 == .quiet) && g.any (·.1 == .verbose))

end Given

def looksLikeOption (arg : String) : Bool :=
  match arg.toList with
  | '-' :: _ :: _ => true
  | _ => false

def takeValue? (o : Opt) : List String → Option ((Opt × String) × List String)
  | v :: rest => if looksLikeOption v then none else some ((o, v), rest)
  | [] => none

-- A long option, with its value behind an equals sign or in the next argument.
def readLong? (allowed : List Opt) (body : String) (rest : List String) : Option ((Opt × String) × List String) :=
  let (name, inline?) := match Text.splitOnce? '=' body with
    | some (name, v) => (name, some v)
    | none => (body, none)
  match allowed.find? (·.long == name), inline? with
  | none, _ => none
  | some o, some v => if o.takesValue then some ((o, v), rest) else none
  | some o, none => if o.takesValue then takeValue? o rest else some ((o, ""), rest)

-- Letters in one argument; the first that takes a value takes the rest of it.
def readLetters? (allowed : List Opt) (rest : List String) : List Char → Option (Given × List String)
  | [] => some ([], rest)
  | c :: cs =>
    match allowed.find? (·.letter? == some c) with
    | none => none
    | some o =>
      if !o.takesValue then (readLetters? allowed rest cs).map fun (g, rest) => ((o, "") :: g, rest)
      else match cs with
        | [] => (takeValue? o rest).map fun (g, rest) => ([g], rest)
        | '=' :: v => some ([(o, String.ofList v)], rest)
        | v => some ([(o, String.ofList v)], rest)

structure Scanned where
  given : Given
  -- The first argument that is no option, and those behind it.
  rest : List String

def scan? (allowed : List Opt) : Nat → Given → List String → Option Scanned
  | 0, _, _ => none
  | _ + 1, acc, [] => some ⟨acc, []⟩
  | fuel + 1, acc, arg :: rest =>
    match arg.toList with
    | ['-', '-'] => if rest.isEmpty then some ⟨acc, []⟩ else none
    | '-' :: '-' :: body => do
      let (g, rest) ← readLong? allowed (String.ofList body) rest
      scan? allowed fuel (acc ++ [g]) rest
    | '-' :: c :: cs => do
      let (g, rest) ← readLetters? allowed rest (c :: cs)
      scan? allowed fuel (acc ++ g) rest
    | _ => some ⟨acc, arg :: rest⟩

def options? (allowed : List Opt) (args : List String) : Option Scanned :=
  (scan? allowed (args.length + 1) [] args).filter (·.given.isConsistent)

end SchemaProbe.CommandLine
