import SchemaProbe.Json.Basic
import SchemaProbe.Text.Category

set_option autoImplicit false

namespace SchemaProbe

inductive Misfit where
  | type (found : Json) (expected : String)
  | value (found : Json) (expected : String)
  | length (count : Nat) (expected : String)
  | variant (name : String) (known : List String)
  | missing (field : String)
  | repeated (field : String)
  | surplus
  | noValue
  | other (message : String)

namespace Misfit

-- Characters that a quoted text shows by their code points.
def isHidden (c : Char) : Bool :=
  c.toNat < 0x20 || (0x7F ≤ c.toNat && c.toNat < 0xA0) || c.toNat = 0xAD ||
    (c != ' ' && Category.isBlank c) || Category.holds Category.marks c

def quoteChar (c : Char) : String :=
  if c = '"' then "\\\""
  else if c = '\\' then "\\\\"
  else if c = '\n' then "\\n"
  else if c = '\r' then "\\r"
  else if c = '\t' then "\\t"
  else if c.toNat = 0 then "\\0"
  else if isHidden c then "\\u\x7b" ++ Text.hex 1 c.toNat ++ "\x7d"
  else String.singleton c

def quote (s : String) : String := "\"" ++ String.join (s.toList.map quoteChar) ++ "\""

def found : Json → String
  | .null => "null"
  | .bool b => "boolean `" ++ (if b then "true" else "false") ++ "`"
  | .number (.int i) => "integer `" ++ toString i ++ "`"
  | .number (.float x) => "floating point `" ++ x.jsonText ++ "`"
  | .string s => "string " ++ quote s
  | .array _ => "sequence"
  | .object _ => "map"

def choice (names : List String) : String :=
  match names.map fun n => "`" ++ n ++ "`" with
  | [] => "there are no variants"
  | [a] => "expected " ++ a
  | [a, b] => "expected " ++ a ++ " or " ++ b
  | quoted => "expected one of " ++ ", ".intercalate quoted

def message : Misfit → String
  | type v expected => "invalid type: " ++ found v ++ ", expected " ++ expected
  | value v expected => "invalid value: " ++ found v ++ ", expected " ++ expected
  | length n expected => "invalid length " ++ toString n ++ ", expected " ++ expected
  | variant name known => "unknown variant `" ++ name ++ "`, " ++ choice known
  | missing field => "missing field `" ++ field ++ "`"
  | repeated field => "duplicate field `" ++ field ++ "`"
  | surplus => "trailing characters"
  | noValue => "expected value"
  | other message => message

end Misfit

abbrev Decoder (α : Type) := Json → Except Misfit α

namespace Decoder

variable {α β : Type}

def string : Decoder String
  | .string s => .ok s
  | v => .error (.type v "a string")

def bool : Decoder Bool
  | .bool b => .ok b
  | v => .error (.type v "a boolean")

def natural (largest : Nat) (expected : String) : Decoder Nat
  | .number (.int i) => if 0 ≤ i ∧ i ≤ largest then .ok i.toNat else .error (.value (.ofInt i) expected)
  | v => .error (.type v expected)

def binary64 : Decoder Binary64
  | .number n => .ok n.toBinary64
  | v => .error (.type v "f64")

def nullable (d : Decoder α) : Decoder (Option α)
  | .null => .ok none
  | v => (d v).map some

def list (d : Decoder α) : Decoder (List α)
  | .array vs => vs.mapM d
  | v => .error (.type v "a sequence")

def map (d : Decoder α) : Decoder (NameMap α)
  | .object ms => (ms.mapM fun m => (d m.2).map fun a => (m.1, a)).map NameMap.ofList
  | v => .error (.type v "a map")

def named (known : List (String × α)) (name : String) : Except Misfit α :=
  match known.lookup name with
  | some x => .ok x
  | none => .error (.variant name (known.map Prod.fst))

-- A name, or an object with the name for its only member and no value for it.
def variant (known : List (String × α)) : Decoder α
  | .string s => named known s
  | .object ((name, v) :: rest) => do
    let x ← named known name
    if !v.isNull then throw (.type v "unit")
    if rest.isEmpty then .ok x else throw .noValue
  | _ => .error .noValue

-- As `variant`, of a value that has been read before it is known what it has to be.
def storedVariant (known : List (String × α)) : Decoder α
  | .string s => named known s
  | .object [(name, v)] => do
    let x ← named known name
    if v.isNull then .ok x else throw (.type v "unit")
  | .object ms => .error (.value (.object ms) "map with a single key")
  | v => .error (.type v "string or map")

end Decoder

structure FieldMisfit where
  place : Nat
  misfit : Misfit

-- The fault is the first misfit in the order of writing; a missing field is noticed at the end of its object.
structure Fields (α : Type) where
  read : List (String × Json) → Except FieldMisfit α

namespace Fields

variable {α β : Type}

def earlier (a b : FieldMisfit) : FieldMisfit := if b.place < a.place then b else a

-- Of two misfits the earlier one counts.
def apply (f : Fields (α → β)) (x : Fields α) : Fields β :=
  ⟨fun ms =>
    match f.read ms, x.read ms with
    | .ok g, .ok a => .ok (g a)
    | .error e, .ok _ => .error e
    | .ok _, .error e => .error e
    | .error d, .error e => .error (earlier d e)⟩

instance : Applicative Fields where
  pure a := ⟨fun _ => .ok a⟩
  seq f x := apply f (x ())

def occurrences (name : String) (ms : List (String × Json)) : List (Json × Nat) :=
  ms.zipIdx.filterMap fun (m, i) => if m.1 == name then some (m.2, i) else none

def single (name : String) (d : Decoder α) (absent : Nat → Except FieldMisfit α) : Fields α :=
  ⟨fun ms =>
    match occurrences name ms with
    | [] => absent ms.length
    | (v, i) :: rest =>
      match d v, rest with
      | .error e, _ => .error ⟨i, e⟩
      | .ok a, [] => .ok a
      | .ok _, (_, j) :: _ => .error ⟨j, .repeated name⟩⟩

def required (name : String) (d : Decoder α) : Fields α := single name d fun n => .error ⟨n, .missing name⟩

def defaulted (name : String) (d : Decoder α) (default : α) : Fields α := single name d fun _ => .ok default

-- The value of an object with these fields, others aside, or of the array of them.
def decode (fields : Fields α) (names : List String) (expected : String) : Decoder α
  | .object ms => (fields.read ms).mapError (·.misfit)
  | .array vs =>
    match fields.read (names.zip vs) with
    | .ok a => if names.length < vs.length then .error .surplus else .ok a
    | .error ⟨_, .missing name⟩ =>
      .error (.length (names.idxOf name) (expected ++ " with " ++ toString names.length ++
        (if names.length = 1 then " element" else " elements")))
    | .error e => .error e.misfit
  | v => .error (.type v expected)

end Fields

end SchemaProbe
