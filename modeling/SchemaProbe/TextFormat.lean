import SchemaProbe.Draw
import SchemaProbe.Text.Digit
import SchemaProbe.Text.Trim

set_option autoImplicit false

namespace SchemaProbe.TextFormat

def isDate (cs : List Char) : Bool :=
  match cs with
  | [y1, y2, y3, y4, a, m1, m2, b, d1, d2] =>
    a = '-' && b = '-' && [y1, y2, y3, y4, m1, m2, d1, d2].all Char.isDigit
  | _ => false

def isDateTime (cs : List Char) : Bool := isDate (cs.take 10) && cs[10]? == some 'T'

def isUuid (s : String) : Bool :=
  let groups := (Text.splitOn '-' s).map String.toList
  groups.map List.length == [8, 4, 4, 4, 12] && groups.all fun g => g.all Text.isHexDigit

def isEmail (s : String) : Bool :=
  match Text.splitOnce? '@' s with
  | some (user, host) => user != "" && host.toList.contains '.'
  | none => false

-- A decimal byte without needless zeros, and what follows it.
def readByte? (cs : List Char) : Option (List Char) :=
  let ds := cs.takeWhile Char.isDigit
  if ds.isEmpty || 3 < ds.length || (1 < ds.length && ds.head? == some '0') || 255 < Text.natOfDigits ds then none
  else some (cs.dropWhile Char.isDigit)

def readDot? : List Char → Option (List Char)
  | '.' :: cs => some cs
  | _ => none

def readIpv4? (cs : List Char) : Option (List Char) := do
  let cs ← readByte? cs
  let cs ← readByte? (← readDot? cs)
  let cs ← readByte? (← readDot? cs)
  readByte? (← readDot? cs)

def isIpv4 (s : String) : Bool := readIpv4? s.toList == some []

def readGroup? (cs : List Char) : Option (List Char) :=
  let ds := cs.takeWhile Text.isHexDigit
  if ds.isEmpty || 4 < ds.length then none else some (cs.dropWhile Text.isHexDigit)

def readSeparator? (first : Bool) (cs : List Char) : Option (List Char) :=
  if first then some cs
  else match cs with
    | ':' :: cs => some cs
    | _ => none

-- Groups between colons, up to `limit`: how many, whether the last two were written as IPv4, and the rest.
def readGroups (first : Bool) (count : Nat) : Nat → List Char → Nat × Bool × List Char
  | 0, cs => (count, false, cs)
  | limit + 1, cs =>
    match readSeparator? first cs with
    | none => (count, false, cs)
    | some body =>
      match (if limit = 0 then none else readIpv4? body) with
      | some rest => (count + 2, true, rest)
      | none =>
        match readGroup? body with
        | some rest => readGroups false (count + 1) limit rest
        | none => (count, false, cs)

def isIpv6 (s : String) : Bool :=
  match readGroups true 0 8 s.toList with
  | (n, embedded, rest) =>
    if n = 8 then rest.isEmpty
    else if embedded then false
    else match rest with
      | ':' :: ':' :: tail => (readGroups true 0 (7 - n) tail).2.2.isEmpty
      | _ => false

-- Texts of an unknown format are all right.
def accepts (format s : String) : Bool :=
  match format with
  | "date" => isDate s.toList
  | "date-time" => isDateTime s.toList
  | "uuid" => isUuid s
  | "email" => isEmail s
  | "uri" | "url" => Text.containsText "://" s
  | "ipv4" => isIpv4 s
  | "ipv6" => isIpv6 s
  | _ => true

def sample? (format : String) : Option String :=
  match format with
  | "date" => some "2024-01-15"
  | "date-time" => some "2024-01-15T12:00:00Z"
  | "email" => some "user@example.com"
  | "uri" | "url" => some "https://example.com"
  | "uuid" => some "123e4567-e89b-42d3-a456-426614174000"
  | "ipv4" => some "192.0.2.1"
  | "ipv6" => some "2001:db8::1"
  | "hostname" => some "example.com"
  | "byte" => some "c2FtcGxl"
  | "password" => some "sample-password"
  | _ => none

-- A number below `n` and at least `first`, drawn from 32 bits.
def part (first last : Nat) : Draw Nat := do
  let k ← Draw.below 32 (last - first + 1)
  return first + k

def twoDigits (first last : Nat) : Draw String := do
  let n ← part first last
  return Text.decimal 2 n

def randomDate : Draw String := do
  let year ← twoDigits 0 29
  let month ← twoDigits 1 12
  let day ← twoDigits 1 28
  return "20" ++ year ++ "-" ++ month ++ "-" ++ day

def randomDateTime : Draw String := do
  let date ← randomDate
  let hour ← twoDigits 0 23
  let minute ← twoDigits 0 59
  let second ← twoDigits 0 59
  return date ++ "T" ++ hour ++ ":" ++ minute ++ ":" ++ second ++ "Z"

def randomUuid : Draw String := do
  let a ← Draw.bits 32
  let b ← Draw.short
  let c ← Draw.short
  let d ← Draw.short
  let e ← Draw.word
  return Text.hex 8 a ++ "-" ++ Text.hex 4 b ++ "-4" ++ Text.hex 3 (c % 2 ^ 12) ++ "-" ++
    Text.hex 4 (d % 2 ^ 14 + 2 ^ 15) ++ "-" ++ Text.hex 12 (e.toNat % 2 ^ 48)

def randomIpv4 : Draw String := do
  let a ← part 0 255
  let b ← part 0 255
  let c ← part 1 254
  return "10." ++ toString a ++ "." ++ toString b ++ "." ++ toString c

def randomEmail : Draw String := do
  let n ← part 1 9998
  return "user" ++ toString n ++ "@example.com"

-- A random text of the format; its sample where none is made up.
def random? (format : String) : Draw (Option String) :=
  match format with
  | "email" => some <$> randomEmail
  | "uuid" => some <$> randomUuid
  | "date" => some <$> randomDate
  | "date-time" => some <$> randomDateTime
  | "ipv4" => some <$> randomIpv4
  | other => return sample? other

end SchemaProbe.TextFormat
