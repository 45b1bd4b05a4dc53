import SchemaProbe.Text.LetterCase
import SchemaProbe.TextFormat
import SchemaProbe.Url.Percent
import SchemaProbe.Url.Punycode

set_option autoImplicit false

namespace SchemaProbe

inductive UrlFault where
  | relative
  | emptyHost
  | invalidPort
  | invalidIpv4
  | invalidIpv6
  | invalidName
  | invalidHostCharacter
  -- The address has no hierarchical path; it is kept as it is written.
  | withoutPath (address : String)
deriving DecidableEq, Repr

namespace Host

-- Groups of hexadecimal digits between colons; the last one may be an IPv4 address, which is two groups.
def groups? : List String → Option (List Nat)
  | [] => some []
  | [piece] =>
    if TextFormat.isIpv4 piece then
      match (Text.splitOn '.' piece).map fun n => Text.natOfDigits n.toList with
      | [a, b, c, d] => some [a * 256 + b, c * 256 + d]
      | _ => none
    else (group? piece).map ([·])
  | piece :: rest => do
    let n ← group? piece
    let ns ← groups? rest
    return n :: ns
where
  group? (piece : String) : Option Nat :=
    if piece.isEmpty || 4 < piece.length then none else Text.natOfHex? piece.toList

def side? (s : List Char) : Option (List Nat) :=
  if s.isEmpty then some [] else groups? (Text.splitOn ':' (String.ofList s))

def splitAtGap? : List Char → Option (List Char × List Char)
  | ':' :: ':' :: rest => some ([], rest)
  | c :: rest => (splitAtGap? rest).map fun (a, b) => (c :: a, b)
  | [] => none

-- The eight groups of an IPv6 address; a gap stands for at least one of them.
def readIpv6? (cs : List Char) : Option (List Nat) :=
  match splitAtGap? cs with
  | none => (side? cs).filter fun gs => gs.length == 8
  | some (before, behind) => do
    if before.contains '.' then none
    let gs ← side? before
    let hs ← side? behind
    if gs.length + hs.length ≤ 7 then some (gs ++ List.replicate (8 - gs.length - hs.length) 0 ++ hs) else none

def zerosAhead (gs : List Nat) : Nat := (gs.takeWhile (· == 0)).length

-- Start and length of the first of the longest runs of zeros.
def longestGap (gs : List Nat) : Nat × Nat :=
  (List.range gs.length).foldl
    (fun best i => if best.2 < zerosAhead (gs.drop i) then (i, zerosAhead (gs.drop i)) else best) (0, 0)

def ipv6Text (gs : List Nat) : String :=
  let written (ns : List Nat) : String := ":".intercalate (ns.map fun n => Text.hex 1 n)
  let (start, length) := longestGap gs
  if length < 2 then written gs else written (gs.take start) ++ "::" ++ written (gs.drop (start + length))

-- A part of an IPv4 address, hexadecimal behind `0x` and octal behind `0`.
def ipv4Part? (s : String) : Option Nat :=
  match s.toList with
  | [] => none
  | '0' :: x :: rest =>
    if x = 'x' || x = 'X' then if rest.isEmpty then some 0 else Text.natOfHex? rest
    else if (x :: rest).all fun c => '0' ≤ c && c ≤ '7' then
      some ((x :: rest).foldl (fun n c => n * 8 + Text.digitValue c) 0)
    else none
  | cs => if cs.all Char.isDigit then some (Text.natOfDigits cs) else none

def dropEmptyLast (parts : List String) : List String := if parts.getLast? == some "" then parts.dropLast else parts

def endsInNumber (name : String) : Bool :=
  let parts := dropEmptyLast (Text.splitOn '.' name)
  parts.getLast?.any fun s => (!s.isEmpty && s.toList.all Char.isDigit) || (ipv4Part? s).isSome

-- The last part fills all the bytes that the others leave.
def readIpv4? (name : String) : Option Nat := do
  let ns ← (dropEmptyLast (Text.splitOn '.' name)).mapM ipv4Part?
  let last ← ns.getLast?
  let before := ns.dropLast
  if 3 < before.length || before.any (255 < ·) || 256 ^ (4 - before.length) ≤ last then none
  else some (before.zipIdx.foldl (fun acc (n, i) => acc + n * 256 ^ (3 - i)) last)

def ipv4Text (n : Nat) : String :=
  ".".intercalate ([3, 2, 1, 0].map fun i => toString (n / 256 ^ i % 256))

def isForbiddenInName (c : Char) : Bool :=
  c.toNat ≤ 0x20 || c.toNat = 0x7F || ['#', '%', '/', ':', '<', '>', '?', '@', '[', '\\', ']', '^', '|'].contains c

-- Characters that leave no trace in a name.
def isIgnored (c : Char) : Bool := [0xAD, 0x200B, 0x2060, 0xFEFF].contains c.toNat

-- Small letters for capitals, and ASCII characters for full-width ones; three full stops count as points.
def fold (c : Char) : Char :=
  if c.toNat = 0x3002 || c.toNat = 0xFF61 then '.'
  else if 0xFF01 ≤ c.toNat && c.toNat ≤ 0xFF5E then (Char.ofNat (c.toNat - 0xFEE0)).toLower
  else LetterCase.lower c

def folded (s : String) : String := String.ofList ((s.toList.filter (!isIgnored ·)).map fold)

-- Whether a label that claims to be encoded is the encoding of one that needs it.
def isEncoded (label : List Char) : Bool :=
  match Punycode.decode? label with
  | some cs =>
    cs.any (128 ≤ ·.toNat) && cs.all (fun c => c.toNat < 128 || (0xA1 ≤ c.toNat && fold c == c && !isIgnored c)) &&
      Punycode.encode cs == label
  | none => false

def asciiLabel? (label : String) : Option String :=
  if label.toList.any (128 ≤ ·.toNat) then some ("xn--" ++ String.ofList (Punycode.encode label.toList))
  else match Text.dropPrefix? "xn--" label with
    | some encoded => if isEncoded encoded.toList then some label else none
    | none => some label

def name? (s : String) : Option String := do
  let name := folded (← Percent.decode? s)
  if name.toList.any isForbiddenInName then none
  else return ".".intercalate (← (Text.splitOn '.' name).mapM asciiLabel?)

def bracketed? (s : String) : Option (Except UrlFault String) :=
  match s.toList with
  | '[' :: rest =>
    some (match rest.getLast?, readIpv6? rest.dropLast with
      | some ']', some gs => .ok ("[" ++ ipv6Text gs ++ "]")
      | _, _ => .error .invalidIpv6)
  | _ => none

-- A host of a well-known kind of address.
def parse (s : String) : Except UrlFault String :=
  match bracketed? s with
  | some r => r
  | none =>
    match name? s with
    | none => .error .invalidName
    | some name =>
      if name.isEmpty then .error .emptyHost
      else if endsInNumber name then
        match readIpv4? name with
        | some n => .ok (ipv4Text n)
        | none => .error .invalidIpv4
      else .ok name

def isForbiddenInOther (c : Char) : Bool :=
  [Char.ofNat 0, ' ', '#', '/', ':', '<', '>', '?', '@', '[', '\\', ']', '^', '|'].contains c

-- A host of another kind of address, of which nothing is known.
def parseOther (s : String) : Except UrlFault String :=
  match bracketed? s with
  | some r => r
  | none =>
    if s.toList.any isForbiddenInOther then .error .invalidHostCharacter
    else .ok (Percent.encode Percent.isPrintable s)

end Host

end SchemaProbe
