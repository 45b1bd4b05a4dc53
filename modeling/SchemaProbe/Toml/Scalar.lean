import SchemaProbe.Json.Basic
import SchemaProbe.Text.Trim

set_option autoImplicit false

namespace SchemaProbe.Toml

def isControl (c : Char) : Bool := (c.toNat < 0x20 && c != '\t') || c.toNat = 0x7F

def isBlank (c : Char) : Bool := c = ' ' || c = '\t'

def skipBlanks (cs : List Char) : List Char := cs.dropWhile isBlank

def lineBreak? : List Char → Option (List Char)
  | '\n' :: cs => some cs
  | '\r' :: '\n' :: cs => some cs
  | _ => none

def simpleEscape? (c : Char) : Option Char :=
  if c = '"' || c = '\\' then some c
  else if c = 'b' then some '\x08'
  else if c = 't' then some '\t'
  else if c = 'n' then some '\n'
  else if c = 'f' then some '\x0c'
  else if c = 'r' then some '\r'
  else none

def codePoint? (digits : Nat) (cs : List Char) : Option (Char × List Char) := do
  if cs.length < digits then none
  let n ← Text.natOfHex? (cs.take digits)
  let c ← Text.charOfCode? n
  return (c, cs.drop digits)

def readEscape? : List Char → Option (Char × List Char)
  | 'u' :: cs => codePoint? 4 cs
  | 'U' :: cs => codePoint? 8 cs
  | c :: cs => (simpleEscape? c).map (·, cs)
  | [] => none

-- The text up to a closing quote; `acc` is in reverse.
def readBasic (acc : List Char) : Nat → List Char → Option (String × List Char)
  | 0, _ => none
  | fuel + 1, cs =>
    match cs with
    | [] => none
    | '"' :: cs => some (String.ofList acc.reverse, cs)
    | '\\' :: cs => do
      let (c, cs) ← readEscape? cs
      readBasic (c :: acc) fuel cs
    | c :: cs => if isControl c then none else readBasic (c :: acc) fuel cs

def readLiteral (acc : List Char) : List Char → Option (String × List Char)
  | [] => none
  | '\'' :: cs => some (String.ofList acc.reverse, cs)
  | c :: cs => if isControl c then none else readLiteral (c :: acc) cs

-- At a run of three to five quotes a long string ends; those before the last three belong to it.
def closing? (quote : Char) (cs : List Char) : Option (List Char × List Char) :=
  let n := min 5 (cs.takeWhile (· == quote)).length
  if n < 3 then none else some (List.replicate (n - 3) quote, cs.drop n)

-- Behind a backslash at the end of a line: without the blanks and line breaks up to the next text.
def skipFolded (cs : List Char) : Option (List Char) :=
  match lineBreak? (skipBlanks cs) with
  | none => none
  | some cs => some (cs.dropWhile fun c => isBlank c || c == '\n' || c == '\r')

def readLongBasic (acc : List Char) : Nat → List Char → Option (String × List Char)
  | 0, _ => none
  | fuel + 1, cs =>
    match closing? '"' cs with
    | some (quotes, cs) => some (String.ofList (acc.reverse ++ quotes), cs)
    | none =>
      match lineBreak? cs with
      | some cs => readLongBasic ('\n' :: acc) fuel cs
      | none =>
        match cs with
        | [] => none
        | '\\' :: cs =>
          match skipFolded cs with
          | some cs => readLongBasic acc fuel cs
          | none => do
            let (c, cs) ← readEscape? cs
            readLongBasic (c :: acc) fuel cs
        | c :: cs => if isControl c then none else readLongBasic (c :: acc) fuel cs

def readLongLiteral (acc : List Char) : Nat → List Char → Option (String × List Char)
  | 0, _ => none
  | fuel + 1, cs =>
    match closing? '\'' cs with
    | some (quotes, cs) => some (String.ofList (acc.reverse ++ quotes), cs)
    | none =>
      match lineBreak? cs with
      | some cs => readLongLiteral ('\n' :: acc) fuel cs
      | none =>
        match cs with
        | [] => none
        | c :: cs => if isControl c then none else readLongLiteral (c :: acc) fuel cs

-- A line break right behind the opening quotes is not part of the string.
def afterOpening (cs : List Char) : List Char := (lineBreak? cs).getD cs

def readString? : List Char → Option (String × List Char)
  | '"' :: '"' :: '"' :: cs => readLongBasic [] (cs.length + 1) (afterOpening cs)
  | '\'' :: '\'' :: '\'' :: cs => readLongLiteral [] (cs.length + 1) (afterOpening cs)
  | '"' :: cs => readBasic [] (cs.length + 1) cs
  | '\'' :: cs => readLiteral [] cs
  | _ => none

def isBareKeyChar (c : Char) : Bool := c.isAlphanum || c = '_' || c = '-'

def readSimpleKey? (cs : List Char) : Option (String × List Char) :=
  match cs with
  | '"' :: rest => readBasic [] (rest.length + 1) rest
  | '\'' :: rest => readLiteral [] rest
  | cs =>
    let name := cs.takeWhile isBareKeyChar
    if name.isEmpty then none else some (String.ofList name, cs.dropWhile isBareKeyChar)

def readKey? : Nat → List Char → Option (List String × List Char)
  | 0, _ => none
  | fuel + 1, cs => do
    let (k, rest) ← readSimpleKey? (skipBlanks cs)
    match skipBlanks rest with
    | '.' :: rest => do
      let (ks, rest) ← readKey? fuel rest
      return (k :: ks, rest)
    | rest => return ([k], rest)

-- Digits with single underscores between them.
def digits? (isDigit : Char → Bool) (cs : List Char) : Option (List Char) :=
  match Text.splitOn '_' (String.ofList cs) with
  | groups => if groups.all fun g => g != "" && g.toList.all isDigit then some (cs.filter (· != '_')) else none

def isOctal (c : Char) : Bool := '0' ≤ c && c ≤ '7'

def isBinary (c : Char) : Bool := c = '0' || c = '1'

def based? (base : Nat) (isDigit : Char → Bool) (cs : List Char) : Option Int :=
  (digits? isDigit cs).map fun ds => ((ds.foldl (fun n c => n * base + (Text.hexValue? c).getD 0) 0 : Nat) : Int)

-- An unsigned decimal number without needless zeros.
def decimal? (cs : List Char) : Option Nat := do
  let ds ← digits? Char.isDigit cs
  if 1 < ds.length && ds.head? == some '0' then none else some (Text.natOfDigits ds)

def signed (cs : List Char) : Bool × List Char :=
  match cs with
  | '-' :: cs => (true, cs)
  | '+' :: cs => (false, cs)
  | cs => (false, cs)

def integer? (cs : List Char) : Option Json := do
  let i ← match cs with
    | '0' :: 'x' :: ds => based? 16 Text.isHexDigit ds
    | '0' :: 'o' :: ds => based? 8 isOctal ds
    | '0' :: 'b' :: ds => based? 2 isBinary ds
    | cs =>
      let (negative, ds) := signed cs
      (decimal? ds).map fun n => if negative then -(n : Int) else n
  if Number.smallestSigned ≤ i ∧ i ≤ Number.largestSigned then some (.ofInt i) else none

def float? (cs : List Char) : Option Json :=
  let (negative, body) := signed cs
  if body = ['i', 'n', 'f'] then some (.number (.float (Binary64.infinity negative)))
  else if body = ['n', 'a', 'n'] then some (.number (.float Binary64.nan))
  else do
    let whole := body.takeWhile fun c => c.isDigit || c == '_'
    let rest := body.drop whole.length
    let _ ← decimal? whole
    let (fraction, rest) ← match rest with
      | '.' :: rest =>
        let f := rest.takeWhile fun c => c.isDigit || c == '_'
        (digits? Char.isDigit f).map fun _ => (f, rest.drop f.length)
      | rest => some ([], rest)
    let exponent ← match rest with
      | [] => some []
      | e :: rest =>
        if e != 'e' && e != 'E' then none
        else (digits? Char.isDigit (signed rest).2).map fun _ => rest
    if fraction.isEmpty && exponent.isEmpty then none
    let text := whole ++ (if fraction.isEmpty then [] else '.' :: fraction) ++
      (if exponent.isEmpty then [] else 'e' :: exponent)
    let x ← Binary64.ofText? (String.ofList (text.filter (· != '_')))
    if x.isInfinite && !negative then none else some (.number (.float (if negative then -x else x)))

def twoDigits? (lowest highest : Nat) (cs : List Char) : Option (List Char) :=
  match cs with
  | a :: b :: rest =>
    let n := Text.natOfDigits [a, b]
    if a.isDigit && b.isDigit && lowest ≤ n && n ≤ highest then some rest else none
  | _ => none

def sign? (c : Char) : List Char → Option (List Char)
  | d :: rest => if d = c then some rest else none
  | [] => none

def date? (cs : List Char) : Option (List Char) := do
  if cs.length < 4 || !(cs.take 4).all Char.isDigit then none
  let year := Text.natOfDigits (cs.take 4)
  let rest ← sign? '-' (cs.drop 4)
  let month := Text.natOfDigits (rest.take 2)
  let rest ← sign? '-' (← twoDigits? 1 12 rest)
  let leap := year % 4 = 0 ∧ (year % 100 ≠ 0 ∨ year % 400 = 0)
  let last := if month = 2 then (if leap then 29 else 28) else if [4, 6, 9, 11].contains month then 30 else 31
  twoDigits? 1 last rest

def time? (cs : List Char) : Option (List Char) := do
  let rest ← sign? ':' (← twoDigits? 0 23 cs)
  let rest ← sign? ':' (← twoDigits? 0 59 rest)
  let rest ← twoDigits? 0 60 rest
  match rest with
  | '.' :: rest => if (rest.head?.any Char.isDigit) then some (rest.dropWhile Char.isDigit) else none
  | rest => some rest

def offset? (cs : List Char) : Option (List Char) :=
  match cs with
  | 'Z' :: rest | 'z' :: rest => some rest
  | '+' :: rest | '-' :: rest => do
    let rest ← sign? ':' (← twoDigits? 0 23 rest)
    twoDigits? 0 59 rest
  | rest => some rest

-- Behind a date, a time or both.
def moment? (cs : List Char) : Option (List Char) :=
  match date? cs with
  | some rest =>
    match rest with
    | c :: more =>
      if c = 'T' || c = 't' then (time? more).bind offset?
      else if c = ' ' && more.head?.any Char.isDigit then (time? more).bind offset?
      else some rest
    | [] => some []
  | none => time? cs

-- A moment is an object of one member, so that it is neither a string nor a number.
def momentValue (text : List Char) : Json := .object [("date", .string (String.ofList text))]

def isNumberChar (c : Char) : Bool := c.isAlphanum || ['_', '+', '-', '.'].contains c

def readNumber? (cs : List Char) : Option (Json × List Char) :=
  match moment? cs with
  | some rest => some (momentValue (cs.take (cs.length - rest.length)), rest)
  | none =>
    let text := cs.takeWhile isNumberChar
    ((integer? text).orElse fun _ => float? text).map (·, cs.drop text.length)

end SchemaProbe.Toml
