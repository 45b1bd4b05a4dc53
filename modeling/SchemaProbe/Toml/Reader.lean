import SchemaProbe.Toml.Scalar
import SchemaProbe.Toml.Table

set_option autoImplicit false

namespace SchemaProbe.Toml

def skipComment? (cs : List Char) : Option (List Char) :=
  match cs with
  | '#' :: rest =>
    let body := rest.takeWhile fun c => c != '\n' && c != '\r'
    if body.any isControl then none else some (rest.drop body.length)
  | cs => some cs

def skipLines? : Nat → List Char → Option (List Char)
  | 0, cs => some cs
  | fuel + 1, cs => do
    let rest ← skipComment? (skipBlanks cs)
    match lineBreak? rest with
    | some rest => skipLines? fuel rest
    | none => return rest

def word? (word : String) (v : Json) (cs : List Char) : Option (Json × List Char) :=
  if word.toList.isPrefixOf cs then some (v, cs.drop word.length) else none

mutual
def readValue? : Nat → List Char → Option (Json × List Char)
  | 0, _ => none
  | fuel + 1, cs =>
    match cs with
    | '"' :: _ | '\'' :: _ => (readString? cs).map fun (s, rest) => (.string s, rest)
    | '[' :: rest => readElements? fuel [] rest
    | '\x7b' :: rest =>
      match skipBlanks rest with
      | '\x7d' :: rest => some (.object [], rest)
      | rest => readInline? fuel [] rest
    | 't' :: _ => word? "true" (.bool true) cs
    | 'f' :: _ => word? "false" (.bool false) cs
    | cs => readNumber? cs
-- The elements behind a bracket or a comma, `acc` in reverse.
def readElements? : Nat → List Json → List Char → Option (Json × List Char)
  | 0, _, _ => none
  | fuel + 1, acc, cs => do
    match ← skipLines? cs.length cs with
    | ']' :: rest => return (.array acc.reverse, rest)
    | cs => do
      let (v, rest) ← readValue? fuel cs
      match ← skipLines? rest.length rest with
      | ',' :: rest => readElements? fuel (v :: acc) rest
      | ']' :: rest => return (.array (v :: acc).reverse, rest)
      | _ => none
def readInline? : Nat → Entries → List Char → Option (Json × List Char)
  | 0, _, _ => none
  | fuel + 1, entries, cs => do
    let (key, rest) ← readKey? (cs.length + 1) cs
    let rest ← sign? '=' rest
    let (v, rest) ← readValue? fuel (skipBlanks rest)
    let entries ← entries.assign v key
    match skipBlanks rest with
    | ',' :: rest => readInline? fuel entries rest
    | '\x7d' :: rest => return (entries.toJson, rest)
    | _ => none
end

structure State where
  root : Entries := []
  -- The header that the lines below belong to.
  header : List String := []

def closeHeader? (series : Bool) (cs : List Char) : Option (List Char) := do
  let rest ← sign? ']' cs
  if series then sign? ']' rest else some rest

def readHeader? (s : State) (series : Bool) (cs : List Char) : Option (State × List Char) := do
  let (key, rest) ← readKey? (cs.length + 1) cs
  let rest ← closeHeader? series rest
  let root ← s.root.openTable series key
  return ({ root, header := key }, rest)

def readPair? (s : State) (cs : List Char) : Option (State × List Char) := do
  let (key, rest) ← readKey? (cs.length + 1) cs
  let rest ← sign? '=' rest
  let (v, rest) ← readValue? (rest.length + 1) (skipBlanks rest)
  let root ← s.root.inTable (Entries.assign v key) s.header
  return ({ s with root }, rest)

def readLine? (s : State) (cs : List Char) : Option (State × List Char) :=
  match cs with
  | '[' :: '[' :: rest => readHeader? s true rest
  | '[' :: rest => readHeader? s false rest
  | cs => readPair? s cs

def readLines? : Nat → State → List Char → Option State
  | 0, _, _ => none
  | fuel + 1, s, cs => do
    match ← skipLines? (cs.length + 1) cs with
    | [] => return s
    | cs => do
      let (s, rest) ← readLine? s cs
      let rest ← skipComment? (skipBlanks rest)
      match rest with
      | [] => return s
      | rest => readLines? fuel s (← lineBreak? rest)

def parse? (text : String) : Option Json :=
  let cs := match text.toList with
    | '\ufeff' :: cs => cs
    | cs => cs
  (readLines? (cs.length + 1) {} cs).map fun s => s.root.toJson

end SchemaProbe.Toml
