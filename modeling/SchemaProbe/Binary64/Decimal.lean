import SchemaProbe.Binary64.Basic
import SchemaProbe.Text.Digit

set_option autoImplicit false

namespace SchemaProbe.Binary64

-- The number `num / den * 10^place`, cut to an integer: `(quotient, is exact)`.
def scaledFloor (num den : Nat) (place : Int) : Nat × Bool :=
  let n := if 0 ≤ place then num else num * 10 ^ (-place).toNat
  let d := if 0 ≤ place then den * 10 ^ place.toNat else den
  (n / d, n % d == 0)

-- The largest `k` with `10^k ≤ num / den`, for a positive quotient.
def decade (num den : Nat) : Int :=
  climb ((((num.log2 : Int) - (den.log2 : Int)) * 30103).fdiv 100000 - 1) 4
where
  reaches (k : Int) : Bool :=
    if 0 ≤ k then den * 10 ^ k.toNat ≤ num else den ≤ num * 10 ^ (-k).toNat
  climb (k : Int) : Nat → Int
    | 0 => k
    | n + 1 => if reaches (k + 1) then climb (k + 1) n else k

-- The reals that round to a positive finite `x`, as `(low, high, closed)` over the denominator of `x / 4`.
structure Interval where
  den : Nat
  low : Nat
  value : Nat
  high : Nat
  closed : Bool

def interval (x : Binary64) : Interval :=
  let narrow := x.fraction = 0 ∧ 1 < x.exponentField
  let e := x.exponent - 2
  let up := 2 ^ e.toNat
  { den := 2 ^ (-e).toNat
    low := (4 * x.mantissa - (if narrow then 1 else 2)) * up
    value := 4 * x.mantissa * up
    high := (4 * x.mantissa + 2) * up
    closed := x.mantissa % 2 == 0 }

def Interval.contains (i : Interval) (digits : Nat) (place : Int) : Bool :=
  let n := if 0 ≤ place then digits * 10 ^ place.toNat * i.den else digits * i.den
  let s := if 0 ≤ place then 1 else 10 ^ (-place).toNat
  if i.closed then i.low * s ≤ n && n ≤ i.high * s else i.low * s < n && n < i.high * s

-- The neighbour of the value on the grid `10^place` that reads back, the nearer of the two if both do.
def Interval.pick (i : Interval) (tieUp : Bool) (place : Int) : Option Nat :=
  let (a, exact) := scaledFloor i.value i.den place
  let below := i.contains a place
  let above := !exact && i.contains (a + 1) place
  if below && above then
    let twice := scaledFloor (2 * i.value) i.den place
    if twice.1 = 2 * a then some a
    else if twice.2 then some (if tieUp then a + 1 else a + a % 2)
    else some (a + 1)
  else if below then some a
  else if above then some (a + 1)
  else none

def stripZeros (digits : Nat) (place : Int) : Nat → Nat × Int
  | 0 => (digits, place)
  | n + 1 => if digits % 10 = 0 then stripZeros (digits / 10) (place + 1) n else (digits, place)

-- Decimal digits `d` and exponent `k` of the shortest `d * 10^k` that reads back as a positive finite `x`.
def shortest (tieUp : Bool) (x : Binary64) : Nat × Int :=
  let i := x.interval
  let top := decade i.value i.den
  let grid (n : Nat) : Option (Nat × Int) := (i.pick tieUp (top - n)).map (·, top - n)
  let (d, k) := ((List.range 17).findSome? grid).getD (i.value, 0)
  stripZeros d k 20

def decimalValue (x : Binary64) : Rat :=
  if x.isZero then 0
  else
    let (d, k) := (abs x).shortest true
    let m : Rat := if 0 ≤ k then (d * 10 ^ k.toNat : Nat) else mkRat d (10 ^ (-k).toNat)
    if x.sign then -m else m

-- Whether `x` is zero or a positive multiple of `step` as the two are written.
def isWrittenMultipleOf (x step : Binary64) : Bool :=
  x.isZero || (!(x.lt step) && (x.decimalValue / step.decimalValue).den == 1)

-- How a finite double is laid out: decimal exponents in `lowest ..< limit` are positional, others have an exponent.
structure Layout where
  lowest : Int
  limit : Int
  keepPoint : Bool
  tieUp : Bool

def Layout.digits (l : Layout) (digits : Nat) (place : Int) : String :=
  let ds := (toString digits).toList
  let top : Int := (ds.length : Int) - 1 + place
  let zeros (n : Nat) := List.replicate n '0'
  if l.lowest ≤ top ∧ top < l.limit then
    if top < 0 then String.ofList ('0' :: '.' :: zeros (-top - 1).toNat ++ ds)
    else if 0 ≤ place then
      String.ofList (ds ++ zeros place.toNat) ++ (if l.keepPoint then ".0" else "")
    else
      let whole := (top + 1).toNat
      String.ofList (ds.take whole ++ '.' :: ds.drop whole)
  else
    let rest := ds.drop 1
    String.ofList (ds.take 1 ++ (if rest.isEmpty then [] else '.' :: rest)) ++
      (if top < 0 then "e-" else "e+") ++ toString top.natAbs

def Layout.text (l : Layout) (x : Binary64) : String :=
  if x.isNaN then "NaN"
  else
    let s := if x.sign then "-" else ""
    if x.isInfinite then s ++ "inf"
    else if x.isZero then s ++ (if l.keepPoint then "0.0" else "0")
    else
      let (d, k) := (abs x).shortest l.tieUp
      s ++ l.digits d k

def jsonLayout : Layout := ⟨-5, 16, true, false⟩

-- Numbers inside messages: never an exponent, and no point when integral.
def plainLayout : Layout := ⟨-400, 400, false, true⟩

def jsonText (x : Binary64) : String := jsonLayout.text x

def plainText (x : Binary64) : String := plainLayout.text x

-- A finite `x` with exactly `places` decimals; the exact value is rounded, a half to even.
def fixedText (places : Nat) (x : Binary64) : String :=
  let m := x.magnitude
  let n := divNearestEven (m.num.natAbs * 10 ^ places) m.den
  let ds := (toString n).toList
  let ds := List.replicate (places + 1 - ds.length) '0' ++ ds
  let whole := ds.length - places
  (if x.sign then "-" else "") ++ String.ofList (ds.take whole) ++
    (if places = 0 then "" else "." ++ String.ofList (ds.drop whole))

def ofDecimal (negative : Bool) (digits : Nat) (place : Int) : Binary64 :=
  if digits = 0 then zero negative
  -- Beyond these decimal exponents the result is infinite or zero whatever the digits are.
  else if 400 < place + (toString digits).length then infinity negative
  else if place + (toString digits).length < -400 then zero negative
  else if 0 ≤ place then roundQuotient negative (digits * 10 ^ place.toNat) 1
  else roundQuotient negative digits (10 ^ (-place).toNat)

def spanDigits (cs : List Char) : List Char × List Char := cs.span Char.isDigit

def exponentOf? : List Char → Option Int
  | '-' :: ds => if ds.isEmpty || !ds.all Char.isDigit then none else some (-(Text.natOfDigits ds : Int))
  | '+' :: ds => if ds.isEmpty || !ds.all Char.isDigit then none else some (Text.natOfDigits ds : Int)
  | ds => if ds.isEmpty || !ds.all Char.isDigit then none else some (Text.natOfDigits ds : Int)

-- Digits with an optional point and an optional exponent; at least one digit beside the point.
def ofUnsigned? (negative : Bool) (cs : List Char) : Option Binary64 :=
  let (whole, rest) := spanDigits cs
  let (frac, rest) := match rest with
    | '.' :: r => spanDigits r
    | r => ([], r)
  if whole.isEmpty && frac.isEmpty then none
  else
    let value (e : Int) := ofDecimal negative (Text.natOfDigits (whole ++ frac)) (e - frac.length)
    match rest with
    | [] => some (value 0)
    | c :: r => if c = 'e' || c = 'E' then (exponentOf? r).map value else none

-- Reads a decimal number, `inf`, `infinity` or `nan` in any case, each with an optional sign.
def ofText? (text : String) : Option Binary64 :=
  match text.toList with
  | '-' :: r => signed true r
  | '+' :: r => signed false r
  | r => signed false r
where
  signed (negative : Bool) (cs : List Char) : Option Binary64 :=
    match String.ofList (cs.map Char.toLower) with
    | "inf" | "infinity" => some (infinity negative)
    | "nan" => some (if negative then neg nan else nan)
    | _ => ofUnsigned? negative cs

end SchemaProbe.Binary64
