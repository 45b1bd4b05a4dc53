import SchemaProbe.ValueType.Sample

set_option autoImplicit false

namespace SchemaProbe.Sample

def letters : List Char := "abcdefghijklmnopqrstuvwxyzABCDEFGHIJKLMNOPQRSTUVWXYZ0123456789".toList

def repeatDraw {α : Type} (once : Draw α) : Nat → Draw (List α)
  | 0 => return []
  | n + 1 => do
    let x ← once
    let xs ← repeatDraw once n
    return x :: xs

-- `n` values, or none as soon as one fails.
def repeatDraw? {α : Type} (once : Draw (Option α)) : Nat → Draw (Option (List α))
  | 0 => return some []
  | n + 1 => do
    match ← once with
    | none => return none
    | some x =>
      let xs ← repeatDraw? once n
      return xs.map (x :: ·)

def randomText (length : Nat) : Draw String := do
  let cs ← repeatDraw (Draw.below 64 letters.length) length
  return String.ofList (cs.map fun i => letters.getD i 'a')

def drawText (r : TextRule) : Draw (Option Json) :=
  match r.choices with
  | some values => do
    let s ← Draw.choose values
    return s.map .string
  | none => do
    let formatted ← match r.format with
      | some f => TextFormat.random? f
      | none => pure none
    match formatted with
    | some s => return some (.string s)
    | none =>
      let lo := min (r.minLength.getD 1) longestText
      let hi := max (min (min (r.maxLength.getD (lo + 20)) (lo + 20)) longestText) lo
      let length ← Draw.between 64 lo hi
      let s ← randomText length.toNat
      return some (.string s)

-- The multiple of `m` at or below `v`, or the one above it where that is below `lo`.
def snapInteger (v lo m : Int) : Int :=
  let down := clampSigned (v / m * m)
  if down < lo then clampSigned (down + m) else down

def drawInteger (r : IntegerRule) : Draw (Option Json) :=
  match r.choices with
  | some values => do
    let i ← Draw.choose values
    return i.map .ofInt
  | none => do
    let lo := r.minimum.getD ((r.maximum.map fun hi => clampSigned (hi - 1000)).getD 0)
    let hi := r.maximum.getD (clampSigned (lo + 1000))
    if hi < lo then return none
    let v ← Draw.between 64 lo hi
    return some (.ofInt (match r.multipleOf with
      | some m => snapInteger v lo m
      | none => v))

def snapNumber (v lo m : Binary64) : Binary64 :=
  let near := (v / m).round * m
  if near.lt lo then near + m else near

def drawNumber (r : NumberRule) : Draw (Option Json) :=
  match r.choices with
  | some values => do
    let x ← Draw.choose values
    return x.map .ofBinary64
  | none => do
    let lo := r.minimum.getD ((r.maximum.map (· - 1000)).getD 0)
    let hi := r.maximum.getD (lo + 1000)
    if !(lo.isFinite && hi.isFinite) || hi.le lo then return r.minimum.map .ofBinary64
    let v ← Draw.double lo hi
    return some (.ofBinary64 (match r.multipleOf with
      | some m => snapNumber v lo m
      | none => v))

-- Tries `once` until the type accepts, and takes a representative after the last attempt.
def retry (t : ValueType) (room : Nat) (once : Draw (Option Json)) : Nat → Draw (Option Json)
  | 0 => Draw.choose (representativesAt t room)
  | n + 1 => do
    match ← once with
    | some v => if t.accepts v then return some v else retry t room once n
    | none => retry t room once n

-- A random value where `room` is left, none where it is used up.
def retryWithin (t : ValueType) (room : Nat) (once : Draw (Option Json)) : Draw (Option Json) :=
  if room = 0 then return none else retry t room once attempts

mutual
-- One random proposal, which the type may not accept.
def propose : ValueType → Nat → Draw (Option Json)
  | .text _ r, _ => drawText r
  | .integer _ r, _ => drawInteger r
  | .number _ r, _ => drawNumber r
  | .boolean _, _ => do
    let b ← Draw.coin
    return some (.bool b)
  | .array _ items r, room => do
    let most := max (min (r.maxItems.getD (r.minItems + 3)) (r.minItems + 3)) r.minItems
    let length ← Draw.between 64 r.minItems most
    let xs ← repeatDraw? (retryWithin items (room - 1) (propose items (room - 1))) length.toNat
    return xs.map .array
  | .object _ ps, room => do
    let ms ← proposeMembers ps (room - 1) []
    return ms.map .object
  | .any _, _ => do
    let s ← randomText 8
    return some (.string s)
-- Required members, and each optional one with an even chance.
def proposeMembers : List (Property ValueType) → Nat → Members → Draw (Option Members)
  | [], _, acc => return some acc
  | ⟨name, required, t⟩ :: ps, room, acc => do
    let wanted ← if required then pure true else Draw.coin
    if !wanted then proposeMembers ps room acc
    else
      match ← retryWithin t room (propose t room) with
      | some v => proposeMembers ps room (NameMap.insert acc name v)
      | none => if required then return none else proposeMembers ps room acc
end

def fixed (t : ValueType) (fill : Fill) : Option Json :=
  match t with
  | .object _ ps => (fixedMembers ps fill deepest).map .object
  | t => (representatives t).head?

def fill (t : ValueType) (f : Fill) : Draw (Option Json) :=
  match f with
  | .random => retryWithin t (deepest + 1) (propose t (deepest + 1))
  | f => return fixed t f

end SchemaProbe.Sample
