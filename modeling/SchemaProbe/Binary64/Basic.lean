set_option autoImplicit false

namespace SchemaProbe

-- Powers are those of the core library, whatever other instances are in reach.
attribute [instance (high), default_instance (high + 1)] instPowNat

-- A finite pattern denotes `±mantissa * 2^exponent`; every operation is exact and then rounded once, ties to even.
structure Binary64 where
  bits : UInt64
deriving DecidableEq, Inhabited, Repr

namespace Binary64

def sign (x : Binary64) : Bool := x.bits.toNat / 2 ^ 63 == 1

def exponentField (x : Binary64) : Nat := x.bits.toNat / 2 ^ 52 % 2 ^ 11

def fraction (x : Binary64) : Nat := x.bits.toNat % 2 ^ 52

def isFinite (x : Binary64) : Bool := x.exponentField != 2047

def isNaN (x : Binary64) : Bool := x.exponentField == 2047 && x.fraction != 0

def isInfinite (x : Binary64) : Bool := x.exponentField == 2047 && x.fraction == 0

def isZero (x : Binary64) : Bool := x.exponentField == 0 && x.fraction == 0

-- The leading bit is implied except in the lowest binade.
def mantissa (x : Binary64) : Nat :=
  if x.exponentField = 0 then x.fraction else x.fraction + 2 ^ 52

def exponent (x : Binary64) : Int :=
  if x.exponentField = 0 then -1074 else (x.exponentField : Int) - 1075

def scale (m : Nat) (e : Int) : Rat :=
  if 0 ≤ e then (m * 2 ^ e.toNat : Nat) else (m : Rat) / (2 ^ (-e).toNat : Nat)

def magnitude (x : Binary64) : Rat := scale x.mantissa x.exponent

-- The rational a finite pattern denotes; the patterns of infinities and of NaN have no use for it.
def toRat (x : Binary64) : Rat := if x.sign then -x.magnitude else x.magnitude

def ofNatBits (negative : Bool) (magnitudeBits : Nat) : Binary64 :=
  ⟨(UInt64.ofNat magnitudeBits) ||| (if negative then 0x8000000000000000 else 0)⟩

def infinity (negative : Bool) : Binary64 := ofNatBits negative (2047 * 2 ^ 52)

def nan : Binary64 := ⟨0x7ff8000000000000⟩

def zero (negative : Bool) : Binary64 := ofNatBits negative 0

-- `num / den` rounded to the nearest integer, a half to the even one.
def divNearestEven (num den : Nat) : Nat :=
  let q := num / den
  let r := num % den
  if 2 * r < den then q else if den < 2 * r then q + 1 else q + q % 2

-- The exponent of the last place of `num / den`, never below that of the lowest binade.
def lastPlace (num den : Nat) : Int :=
  let guess : Int := (num.log2 : Int) - (den.log2 : Int)
  let below := if 0 ≤ guess then num < den * 2 ^ guess.toNat else num * 2 ^ (-guess).toNat < den
  max ((if below then guess - 1 else guess) - 52) (-1074)

-- Magnitude bits of `num / den` rounded to nearest even: a carry out of the mantissa lands in the exponent field, and
-- whatever reaches the field of the infinities is infinite.
def nearestBits (num den : Nat) : Nat :=
  if num = 0 then 0 else
    let e := lastPlace num den
    let m := if 0 ≤ e then divNearestEven num (den * 2 ^ e.toNat)
      else divNearestEven (num * 2 ^ (-e).toNat) den
    min ((e + 1074).toNat * 2 ^ 52 + m) (2047 * 2 ^ 52)

def roundQuotient (negative : Bool) (num den : Nat) : Binary64 :=
  ofNatBits negative (nearestBits num den)

-- The double nearest to `r`; zero takes the sign `zeroSign`.
def ofRat (r : Rat) (zeroSign : Bool) : Binary64 :=
  if r.num = 0 then zero zeroSign else roundQuotient (decide (r.num < 0)) r.num.natAbs r.den

def ofNat (n : Nat) : Binary64 := roundQuotient false n 1

def ofInt (i : Int) : Binary64 := roundQuotient (decide (i < 0)) i.natAbs 1

instance {n : Nat} : OfNat Binary64 n := ⟨ofNat n⟩

def neg (x : Binary64) : Binary64 := ⟨x.bits ^^^ 0x8000000000000000⟩

def abs (x : Binary64) : Binary64 := ⟨x.bits &&& 0x7fffffffffffffff⟩

def add (x y : Binary64) : Binary64 :=
  if x.isNaN || y.isNaN then nan
  else if x.isInfinite then (if y.isInfinite && x.sign != y.sign then nan else x)
  else if y.isInfinite then y
  else ofRat (x.toRat + y.toRat) (x.sign && y.sign)

def sub (x y : Binary64) : Binary64 := add x (neg y)

def mul (x y : Binary64) : Binary64 :=
  let s := x.sign != y.sign
  if x.isNaN || y.isNaN then nan
  else if x.isInfinite || y.isInfinite then (if x.isZero || y.isZero then nan else infinity s)
  else ofRat (x.toRat * y.toRat) s

def div (x y : Binary64) : Binary64 :=
  let s := x.sign != y.sign
  if x.isNaN || y.isNaN then nan
  else if x.isInfinite then (if y.isInfinite then nan else infinity s)
  else if y.isInfinite then zero s
  else if y.isZero then (if x.isZero then nan else infinity s)
  else ofRat (x.toRat / y.toRat) s

-- `x` less the integral part of `x / y` times `y`, with the sign of `x`.
def rem (x y : Binary64) : Binary64 :=
  if x.isNaN || y.isNaN || x.isInfinite || y.isZero then nan
  else if y.isInfinite then x
  else
    let q := x.magnitude / y.magnitude
    let r := x.magnitude - (q.floor : Rat) * y.magnitude
    if x.sign then neg (ofRat r false) else ofRat r false

instance : Neg Binary64 := ⟨neg⟩
instance : Add Binary64 := ⟨add⟩
instance : Sub Binary64 := ⟨sub⟩
instance : Mul Binary64 := ⟨mul⟩
instance : Div Binary64 := ⟨div⟩
instance : Mod Binary64 := ⟨rem⟩

-- Order of the extended rationals; a NaN is not comparable and the two zeros are equal.
def compare? (x y : Binary64) : Option Ordering :=
  if x.isNaN || y.isNaN then none
  else if x.isInfinite || y.isInfinite then
    let rank (z : Binary64) : Int := if z.isInfinite then (if z.sign then -1 else 1) else 0
    some (compare (rank x) (rank y))
  else
    let a := x.toRat
    let b := y.toRat
    some (if a < b then .lt else if a = b then .eq else .gt)

def lt (x y : Binary64) : Bool := x.compare? y == some .lt

def le (x y : Binary64) : Bool := x.compare? y == some .lt || x.compare? y == some .eq

def eq (x y : Binary64) : Bool := x.compare? y == some .eq

-- Rounds a finite number to an integral one; the integer function gets the exact value.
def toIntegral (f : Rat → Int) (x : Binary64) : Binary64 :=
  if x.isFinite then ofRat (f x.toRat) x.sign else x

def floor (x : Binary64) : Binary64 := x.toIntegral Rat.floor

def ceil (x : Binary64) : Binary64 := x.toIntegral Rat.ceil

-- Nearest integral number, a half away from zero.
def round (x : Binary64) : Binary64 :=
  x.toIntegral fun r => if r < 0 then -((-r + 1 / 2).floor) else (r + 1 / 2).floor

-- Whether the fractional part is zero; infinities have none.
def isIntegral (x : Binary64) : Bool := x.isFinite && x.toRat.den == 1

-- The integral part, clamped to `lo..hi`; zero for a NaN.
def toIntClamped (lo hi : Int) (x : Binary64) : Int :=
  if x.isNaN then 0
  else if x.isInfinite then (if x.sign then lo else hi)
  else
    let r := x.toRat
    max lo (min hi (if r < 0 then r.ceil else r.floor))

def epsilon : Binary64 := ⟨0x3cb0000000000000⟩

-- `a` odd and `x = a * 2^e` for a positive finite `x`.
def oddPart (x : Binary64) : Nat × Int :=
  if x.mantissa = 0 then (0, 0) else strip x.mantissa x.exponent 53
where
  strip (m : Nat) (e : Int) : Nat → Nat × Int
    | 0 => (m, e)
    | n + 1 => if m % 2 = 0 then strip (m / 2) (e + 1) n else (m, e)

def pred (x : Binary64) : Binary64 := ⟨x.bits - 1⟩

end Binary64

end SchemaProbe
