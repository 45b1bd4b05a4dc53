import SchemaProbe.Binary64.Basic

set_option autoImplicit false

namespace SchemaProbe

structure RandomSource where
  s0 : UInt64
  s1 : UInt64
  s2 : UInt64
  s3 : UInt64
deriving DecidableEq, Repr

def rotateLeft (x k : UInt64) : UInt64 := (x <<< k) ||| (x >>> (64 - k))

namespace RandomSource

def step (s : RandomSource) : RandomSource :=
  let s2 := s.s2 ^^^ s.s0
  let s3 := s.s3 ^^^ s.s1
  { s0 := s.s0 ^^^ s3
    s1 := s.s1 ^^^ s2
    s2 := s2 ^^^ (s.s1 <<< 17)
    s3 := rotateLeft s3 45 }

def output (s : RandomSource) : UInt64 := rotateLeft (s.s0 + s.s3) 23 + s.s0

-- One step of the linear congruential generator that spreads a seed over the state.
def spread (seed : UInt64) : UInt64 := seed * 6364136223846793005 + 11634580027462260723

def permute (seed : UInt64) : UInt32 :=
  let x := (((seed >>> 18) ^^^ seed) >>> 27).toUInt32
  let r := (seed >>> 59).toUInt32
  (x >>> r) ||| (x <<< ((32 - r) % 32))

def spreadWord (seed : UInt64) : UInt64 × UInt64 :=
  let low := spread seed
  let high := spread low
  ((permute low).toUInt64 ||| ((permute high).toUInt64 <<< 32), high)

def ofSeed (seed : UInt64) : RandomSource :=
  let (s0, a) := spreadWord seed
  let (s1, b) := spreadWord a
  let (s2, c) := spreadWord b
  let (s3, _) := spreadWord c
  ⟨s0, s1, s2, s3⟩

end RandomSource

inductive DrawFault where
  | rangeTooWide
deriving DecidableEq, Repr

abbrev Draw (α : Type) := StateT RandomSource (Except DrawFault) α

namespace Draw

def word : Draw UInt64 := fun s => .ok (s.output, s.step)

def bits (width : Nat) : Draw Nat := do
  let w ← word
  return w.toNat / 2 ^ (64 - width)

def short : Draw Nat := do
  let n ← bits 32
  return n % 2 ^ 16

-- Draws products until the low part is in the zone that makes the high part uniform.
def scaled (width n zone : Nat) : Nat → Draw Nat
  | 0 => return 0
  | tries + 1 => do
    let v ← bits width
    if v * n % 2 ^ width ≤ zone then return v * n / 2 ^ width else scaled width n zone tries

-- More rejections in a row than this do not occur; each has a chance below one half.
def patience : Nat := 4096

-- A uniform number below `n`, from words of `width` bits.
def below (width n : Nat) : Draw Nat :=
  if n = 2 ^ width then bits width
  else scaled width n (n * 2 ^ (width - 1 - n.log2) - 1) patience

def signed (width n : Nat) : Int := if n < 2 ^ (width - 1) then n else (n : Int) - 2 ^ width

-- An integer in `lo..hi`; where that is the whole signed range, the word itself.
def between (width : Nat) (lo hi : Int) : Draw Int := do
  let n := (hi - lo + 1).toNat
  let k ← below width n
  return if n = 2 ^ width then signed width k else lo + k

def coin : Draw Bool := do
  let w ← word
  return w.toNat < 2 ^ 63

def choose {α : Type} (xs : List α) : Draw (Option α) :=
  match xs with
  | [] => return none
  | x :: xs => do
    let i ← below 32 (x :: xs).length
    return (x :: xs)[i]?

def largestFraction : Binary64 := ⟨0x3feffffffffffffe⟩

-- The greatest scale, by steps of one place, that keeps the top of the range within `hi`.
def lowerScale (lo hi : Binary64) (scale : Binary64) : Nat → Binary64
  | 0 => scale
  | n + 1 => if hi.lt (scale * largestFraction + lo) then lowerScale lo hi scale.pred n else scale

def double (lo hi : Binary64) : Draw Binary64 := do
  let scale := (hi - lo) / largestFraction
  if !scale.isFinite then throw .rangeTooWide
  let n ← bits 52
  return Binary64.roundQuotient false n (2 ^ 52) * lowerScale lo hi scale 64 + lo

end Draw

end SchemaProbe
