set_option autoImplicit false

namespace SchemaProbe.Punycode

def digit (n : Nat) : Char := if n < 26 then Char.ofNat ('a'.toNat + n) else Char.ofNat ('0'.toNat + n - 26)

-- From which value on a digit at position `k` has a successor.
def threshold (k bias : Nat) : Nat := if k ≤ bias then 1 else min 26 (k - bias)

def number (bias : Nat) : Nat → Nat → Nat → List Char
  | 0, _, q => [digit q]
  | fuel + 1, k, q =>
    let t := threshold k bias
    if q < t then [digit q] else digit (t + (q - t) % (36 - t)) :: number bias fuel (k + 36) ((q - t) / (36 - t))

def adaptLoop : Nat → Nat → Nat → Nat
  | 0, k, delta => k + 36 * delta / (delta + 38)
  | fuel + 1, k, delta => if 455 < delta then adaptLoop fuel (k + 36) (delta / 35) else k + 36 * delta / (delta + 38)

def adapt (delta points : Nat) (first : Bool) : Nat :=
  let delta := if first then delta / 700 else delta / 2
  adaptLoop delta 0 (delta + delta / points)

structure State where
  bias : Nat := 72
  delta : Nat := 0
  handled : Nat
  written : List Char

def pass (n basic : Nat) (s : State) (cs : List Char) : State :=
  cs.foldl
    (fun s c =>
      if c.toNat < n then { s with delta := s.delta + 1 }
      else if c.toNat = n then
        { bias := adapt s.delta (s.handled + 1) (s.handled == basic)
          delta := 0
          handled := s.handled + 1
          written := s.written ++ number s.bias s.delta 36 s.delta }
      else s)
    s

def loop (cs : List Char) (basic : Nat) : Nat → Nat → State → State
  | 0, _, s => s
  | fuel + 1, n, s =>
    match ((cs.filter fun c => n ≤ c.toNat).map Char.toNat).min? with
    | none => s
    | some m =>
      let s := pass m basic { s with delta := s.delta + (m - n) * (s.handled + 1) } cs
      loop cs basic fuel (m + 1) { s with delta := s.delta + 1 }

-- For each character beyond ASCII, by rising code point, how many steps lie before its insertion.
def encode (label : List Char) : List Char :=
  let ascii := label.filter fun c => c.toNat < 128
  let start : State := { handled := ascii.length, written := if ascii.isEmpty then [] else ascii ++ ['-'] }
  (loop label ascii.length label.length 128 start).written

def digitValue? (c : Char) : Option Nat :=
  if 'a' ≤ c ∧ c ≤ 'z' then some (c.toNat - 'a'.toNat)
  else if '0' ≤ c ∧ c ≤ '9' then some (c.toNat - '0'.toNat + 26)
  else none

-- Adds the number at the front to `sum`, its first digit at position `k` and of this weight.
def readNumber? (bias k weight sum : Nat) : List Char → Option (Nat × List Char)
  | [] => none
  | c :: cs => do
    let d ← digitValue? c
    let t := threshold k bias
    if d < t then return (sum + d * weight, cs)
    else readNumber? bias (k + 36) (weight * (36 - t)) (sum + d * weight) cs

-- Inserts a character per number: `n` is the last one's code point and `spot` the place behind it.
def insertAll? (n bias spot : Nat) (first : Bool) (label : List Char) : Nat → List Char → Option (List Char)
  | _, [] => some label
  | 0, _ => none
  | fuel + 1, digits => do
    let (sum, digits) ← readNumber? bias 36 1 spot digits
    let points := label.length + 1
    let n := n + sum / points
    if !n.isValidChar then none
    else
      insertAll? n (adapt (sum - spot) points first) (sum % points + 1) false
        (label.insertIdx (sum % points) (Char.ofNat n)) fuel digits

def splitLastHyphen (cs : List Char) : List Char × List Char :=
  if cs.contains '-' then
    ((cs.reverse.dropWhile (· != '-')).drop 1 |>.reverse, (cs.reverse.takeWhile (· != '-')).reverse)
  else ([], cs)

def decode? (cs : List Char) : Option (List Char) :=
  let (ascii, digits) := splitLastHyphen cs
  insertAll? 128 72 0 true ascii cs.length digits

end SchemaProbe.Punycode
