import SchemaProbe.Json.Basic

set_option autoImplicit false

namespace SchemaProbe.Json

inductive FaultCause where
  | endInValue
  | endInList
  | endInObject
  | endInString
  | expectedColon
  | expectedListEnd
  | expectedObjectEnd
  | expectedWord
  | expectedValue
  | keyNotString
  | trailingComma
  | trailingCharacters
  | invalidEscape
  | invalidNumber
  | numberOutOfRange
  | controlCharacter
  | unfinishedSurrogates
  | loneSurrogate
  | tooDeep
deriving DecidableEq, Repr

def FaultCause.message : FaultCause → String
  | endInValue => "EOF while parsing a value"
  | endInList => "EOF while parsing a list"
  | endInObject => "EOF while parsing an object"
  | endInString => "EOF while parsing a string"
  | expectedColon => "expected `:`"
  | expectedListEnd => "expected `,` or `]`"
  | expectedObjectEnd => "expected `,` or `\x7d`"
  | expectedWord => "expected ident"
  | expectedValue => "expected value"
  | keyNotString => "key must be a string"
  | trailingComma => "trailing comma"
  | trailingCharacters => "trailing characters"
  | invalidEscape => "invalid escape"
  | invalidNumber => "invalid number"
  | numberOutOfRange => "number out of range"
  | controlCharacter => "control character (\\u0000-\\u001F) found while parsing a string"
  | unfinishedSurrogates => "unexpected end of hex escape"
  | loneSurrogate => "lone leading surrogate in hex escape"
  | tooDeep => "recursion limit exceeded"

structure Fault where
  cause : FaultCause
  left : Nat

structure SyntaxError where
  cause : FaultCause
  line : Nat
  column : Nat

def SyntaxError.message (e : SyntaxError) : String :=
  e.cause.message ++ " at line " ++ toString e.line ++ " column " ++ toString e.column

def byteLength (cs : List Char) : Nat := cs.foldl (fun n c => n + c.utf8Size) 0

-- Line and column of the byte offset, both counted from the last line break before it.
def locate (cs : List Char) (offset : Nat) : Nat × Nat :=
  let (line, start, _) := cs.foldl
    (fun (line, start, pos) c =>
      let next := pos + c.utf8Size
      if c = '\n' && next ≤ offset then (line + 1, next, next) else (line, start, next))
    (1, 0, 0)
  (line, offset - start)

-- The fault lies before the rest of the text.
def faultBefore {α : Type} (cause : FaultCause) (rest : List Char) : Except Fault α :=
  .error ⟨cause, byteLength rest⟩

-- The fault lies behind the next byte, if there is one.
def faultAt {α : Type} (cause : FaultCause) (rest : List Char) : Except Fault α :=
  .error ⟨cause, byteLength rest - 1⟩

def isBlank (c : Char) : Bool := c = ' ' || c = '\n' || c = '\t' || c = '\r'

def skipBlanks (cs : List Char) : List Char := cs.dropWhile isBlank

def readWord (word : List Char) (v : Json) (cs : List Char) : Except Fault (Json × List Char) :=
  match word, cs with
  | [], rest => .ok (v, rest)
  | _ :: _, [] => faultBefore .endInValue []
  | w :: word, c :: rest => if c = w then readWord word v rest else faultBefore .expectedWord rest

-- A significand times a power of ten, formed in doubles: one product or quotient within 308 places.
def scaleDecimal (x : Binary64) (place : Int) : Nat → Option Binary64
  | 0 => some x
  | steps + 1 =>
    if place.natAbs ≤ 308 then
      let pow := Binary64.ofNat (10 ^ place.natAbs)
      if 0 ≤ place then
        let y := x * pow
        if y.isInfinite then none else some y
      else some (x / pow)
    else if x.isZero then some x
    else if 0 ≤ place then none
    else scaleDecimal (x / Binary64.ofNat (10 ^ 308)) (place + 308) steps

def finishFloat (negative : Bool) (significand : Nat) (place : Int) (rest : List Char) : Except Fault (Number × List Char) :=
  match scaleDecimal (Binary64.ofNat significand) place 5 with
  | some x => .ok (.float (if negative then -x else x), rest)
  | none => faultBefore .numberOutOfRange rest

def largestPlace : Nat := 2 ^ 31 - 1

def clampPlace (place : Int) : Int := max (-(2 ^ 31)) (min largestPlace place)

-- The digits of an exponent; one too large decides the value by its sign alone.
def readExponentDigits (negative : Bool) (significand : Nat) (place : Int) (down : Bool) (e : Nat) :
    List Char → Except Fault (Number × List Char)
  | [] => finish e []
  | c :: rest =>
    if c.isDigit then
      let e' := e * 10 + Text.digitValue c
      if largestPlace < e' then
        if significand ≠ 0 && !down then faultBefore .numberOutOfRange rest
        else .ok (.float (Binary64.zero negative), rest.dropWhile Char.isDigit)
      else readExponentDigits negative significand place down e' rest
    else finish e (c :: rest)
where
  finish (e : Nat) (rest : List Char) : Except Fault (Number × List Char) :=
    finishFloat negative significand (clampPlace (if down then place - e else place + e)) rest

def readExponent (negative : Bool) (significand : Nat) (place : Int) (cs : List Char) : Except Fault (Number × List Char) :=
  let (down, cs) := match cs with
    | '+' :: r => (false, r)
    | '-' :: r => (true, r)
    | r => (false, r)
  match cs with
  | [] => faultBefore .endInValue []
  | c :: rest =>
    if c.isDigit then readExponentDigits negative significand place down (Text.digitValue c) rest
    else faultBefore .invalidNumber rest

def finishOrExponent (negative : Bool) (significand : Nat) (place : Int) (cs : List Char) : Except Fault (Number × List Char) :=
  match cs with
  | c :: rest =>
    if c = 'e' || c = 'E' then readExponent negative significand place rest
    else finishFloat negative significand place cs
  | [] => finishFloat negative significand place []

-- Digits behind the point; once the significand is full the remaining ones are dropped.
def readFraction (negative : Bool) (significand : Nat) (place : Int) (any : Bool) : List Char → Except Fault (Number × List Char)
  | [] => if any then finishOrExponent negative significand place [] else faultAt .endInValue []
  | c :: rest =>
    if c.isDigit then
      let s := significand * 10 + Text.digitValue c
      if Number.largestUnsigned < s then
        finishOrExponent negative significand place (rest.dropWhile Char.isDigit)
      else readFraction negative s (place - 1) true rest
    else if any then finishOrExponent negative significand place (c :: rest)
    else faultAt .invalidNumber (c :: rest)

def readAfterDigits (negative : Bool) (significand : Nat) (place : Int) (cs : List Char) : Except Fault (Number × List Char) :=
  match cs with
  | '.' :: rest => readFraction negative significand place false rest
  | cs => finishOrExponent negative significand place cs

-- An integer without point or exponent; minus zero and what is too low for 64 bits become doubles.
def wholeNumber (negative : Bool) (significand : Nat) : Number :=
  if !negative then .int significand
  else if significand ≠ 0 ∧ Number.smallestSigned ≤ -(significand : Int) then .int (-(significand : Int))
  else .float (-(Binary64.ofNat significand))

def readDigits (negative : Bool) (significand : Nat) : List Char → Except Fault (Number × List Char)
  | [] => .ok (wholeNumber negative significand, [])
  | c :: rest =>
    if c.isDigit then
      let s := significand * 10 + Text.digitValue c
      if Number.largestUnsigned < s then
        let dropped := (c :: rest).takeWhile Char.isDigit
        readAfterDigits negative significand dropped.length ((c :: rest).dropWhile Char.isDigit)
      else readDigits negative s rest
    else if c = '.' || c = 'e' || c = 'E' then readAfterDigits negative significand 0 (c :: rest)
    else .ok (wholeNumber negative significand, c :: rest)

def readNumber (negative : Bool) (cs : List Char) : Except Fault (Number × List Char) :=
  match cs with
  | [] => faultBefore .endInValue []
  | '0' :: rest =>
    match rest with
    | c :: _ => if c.isDigit then faultAt .invalidNumber rest else readDigits negative 0 rest
    | [] => readDigits negative 0 []
  | c :: rest =>
    if c.isDigit then readDigits negative (Text.digitValue c) rest else faultBefore .invalidNumber rest

def readHex (cs : List Char) : Except Fault (Nat × List Char) :=
  if byteLength cs < 4 then faultBefore .endInString []
  else
    match Text.natOfHex? (cs.take 4) with
    | some n => .ok (n, cs.drop 4)
    | none => .error ⟨.invalidEscape, byteLength cs - 4⟩

def isHighSurrogate (n : Nat) : Bool := 0xD800 ≤ n && n ≤ 0xDBFF

def isLowSurrogate (n : Nat) : Bool := 0xDC00 ≤ n && n ≤ 0xDFFF

def readUnicode (cs : List Char) : Except Fault (Char × List Char) := do
  let (n, cs) ← readHex cs
  if isLowSurrogate n then faultBefore .loneSurrogate cs
  else if !isHighSurrogate n then .ok (Char.ofNat n, cs)
  else match cs with
    | [] => faultBefore .endInString []
    | '\\' :: [] => faultBefore .endInString []
    | '\\' :: 'u' :: rest => do
      let (low, rest) ← readHex rest
      if isLowSurrogate low then .ok (Char.ofNat (0x10000 + (n - 0xD800) * 0x400 + (low - 0xDC00)), rest)
      else faultBefore .loneSurrogate rest
    | '\\' :: rest => faultAt .unfinishedSurrogates rest
    | cs => faultAt .unfinishedSurrogates cs

def simpleEscape? (c : Char) : Option Char :=
  if c = '"' || c = '\\' || c = '/' then some c
  else if c = 'b' then some '\x08'
  else if c = 'f' then some '\x0c'
  else if c = 'n' then some '\n'
  else if c = 'r' then some '\r'
  else if c = 't' then some '\t'
  else none

def readString (acc : List Char) : Nat → List Char → Except Fault (String × List Char)
  | 0, _ => faultBefore .endInString []
  | _ + 1, [] => faultBefore .endInString []
  | fuel + 1, c :: rest =>
    if c = '"' then .ok (String.ofList acc.reverse, rest)
    else if c = '\\' then
      match rest with
      | [] => faultBefore .endInString []
      | 'u' :: rest => do
        let (c, rest) ← readUnicode rest
        readString (c :: acc) fuel rest
      | e :: rest =>
        match simpleEscape? e with
        | some c => readString (c :: acc) fuel rest
        | none => .error ⟨.invalidEscape, byteLength rest + e.utf8Size - 1⟩
    else if c.toNat < 0x20 then faultBefore .controlCharacter rest
    else readString (c :: acc) fuel rest

def colon (cs : List Char) : Except Fault (List Char) :=
  match skipBlanks cs with
  | ':' :: rest => .ok rest
  | [] => faultAt .endInObject []
  | cs => faultAt .expectedColon cs

mutual
-- A value behind blanks; `levels` counts down with every array and object entered.
def readValue : Nat → Nat → List Char → Except Fault (Json × List Char)
  | 0, _, _ => faultAt .endInValue []
  | fuel + 1, levels, cs =>
    match skipBlanks cs with
    | [] => faultAt .endInValue []
    | 'n' :: rest => readWord ['u', 'l', 'l'] null rest
    | 't' :: rest => readWord ['r', 'u', 'e'] (bool true) rest
    | 'f' :: rest => readWord ['a', 'l', 's', 'e'] (bool false) rest
    | '-' :: rest => do
      let (n, rest) ← readNumber true rest
      .ok (number n, rest)
    | '"' :: rest => do
      let (s, rest) ← readString [] (rest.length + 1) rest
      .ok (string s, rest)
    | '[' :: rest =>
      if levels ≤ 1 then faultAt .tooDeep ('[' :: rest)
      else readElements fuel (levels - 1) [] rest
    | '\x7b' :: rest =>
      if levels ≤ 1 then faultAt .tooDeep ('\x7b' :: rest)
      else readMembers fuel (levels - 1) [] rest
    | c :: rest =>
      if c.isDigit then do
        let (n, rest) ← readNumber false (c :: rest)
        .ok (number n, rest)
      else faultAt .expectedValue (c :: rest)

-- The elements behind an opening bracket, `acc` in reverse.
def readElements : Nat → Nat → List Json → List Char → Except Fault (Json × List Char)
  | 0, _, _, _ => faultAt .endInList []
  | fuel + 1, levels, acc, cs =>
    match skipBlanks cs with
    | [] => faultAt .endInList []
    | ']' :: rest => .ok (array acc.reverse, rest)
    | c :: rest =>
      if acc.isEmpty then do
        let (v, rest) ← readValue fuel levels (c :: rest)
        readElements fuel levels (v :: acc) rest
      else if c = ',' then
        match skipBlanks rest with
        | [] => faultAt .endInValue []
        | ']' :: rest => faultAt .trailingComma (']' :: rest)
        | rest => do
          let (v, rest) ← readValue fuel levels rest
          readElements fuel levels (v :: acc) rest
      else faultAt .expectedListEnd (c :: rest)

def readMembers : Nat → Nat → List (String × Json) → List Char → Except Fault (Json × List Char)
  | 0, _, _, _ => faultAt .endInObject []
  | fuel + 1, levels, acc, cs =>
    match skipBlanks cs with
    | [] => faultAt .endInObject []
    | '\x7d' :: rest => .ok (object acc.reverse, rest)
    | c :: rest =>
      if acc.isEmpty then
        if c = '"' then readMember fuel levels acc rest else faultAt .keyNotString (c :: rest)
      else if c = ',' then
        match skipBlanks rest with
        | [] => faultAt .endInValue []
        | '"' :: rest => readMember fuel levels acc rest
        | '\x7d' :: rest => faultAt .trailingComma ('\x7d' :: rest)
        | rest => faultAt .keyNotString rest
      else faultAt .expectedObjectEnd (c :: rest)

def readMember : Nat → Nat → List (String × Json) → List Char → Except Fault (Json × List Char)
  | 0, _, _, _ => faultAt .endInObject []
  | fuel + 1, levels, acc, cs => do
    let (k, rest) ← readString [] (cs.length + 1) cs
    let rest ← colon rest
    let (v, rest) ← readValue fuel levels rest
    readMembers fuel levels ((k, v) :: acc) rest
end

def deepest : Nat := 128

def readDocument (cs : List Char) : Except Fault Json := do
  let (v, rest) ← readValue (2 * cs.length + 2) deepest cs
  match skipBlanks rest with
  | [] => .ok v
  | rest => faultAt .trailingCharacters rest

def parseAsWritten (text : String) : Except SyntaxError Json :=
  let cs := text.toList
  match readDocument cs with
  | .ok v => .ok v
  | .error fault =>
    let (line, column) := locate cs (byteLength cs - fault.left)
    .error ⟨fault.cause, line, column⟩

def parse (text : String) : Except SyntaxError Json := (parseAsWritten text).map sorted

end SchemaProbe.Json
