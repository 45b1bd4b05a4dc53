import SchemaProbe.Proofs.Checked.Draw
import SchemaProbe.Proofs.ValueType.Integers
import SchemaProbe.Proofs.ValueType.OfSchema

set_option autoImplicit false

namespace SchemaProbe

namespace ValueType

inductive NestedIn : ValueType → ValueType → Prop where
  | self (t : ValueType) : NestedIn t t
  | item {t items : ValueType} {n : Bool} {r : ArrayRule} (inner : NestedIn t items) : NestedIn t (.array n items r)
  | property {t : ValueType} {n : Bool} {ps : List (Property ValueType)} {p : Property ValueType} (member : p ∈ ps)
      (inner : NestedIn t p.type) : NestedIn t (.object n ps)

def Divides : ValueType → Prop
  | .integer _ r => ∀ m, r.multipleOf = some m → m ≠ 0
  | .number _ r => ∀ m, r.multipleOf = some m → m.mantissa ≠ 0
  | _ => True

theorem integer_divides {n : Bool} {ms : Members} {r : IntegerRule} (built : integerRule ms = .ok r) :
    (integer n r).Divides := by
  rw [integerRule_eq] at built
  obtain ⟨choices, -, rfl⟩ := map_eq_ok_iff.mp built
  exact fun m stepped => Int.ne_of_gt (integerStep_positive (Prod.ext stepped rfl))

theorem number_divides {n : Bool} {ms : Members} {r : NumberRule} (built : numberRule ms = .ok r) :
    (number n r).Divides := by
  obtain ⟨choices, -, made⟩ := bind_eq_ok_iff.mp built
  cases made
  exact fun m stepped => Binary64.mantissa_ne_zero (Option.filter_eq_some_iff.mp stepped).2

theorem build_divides (fuel : Nat) {v : Json} {t : ValueType} (built : build fuel v = .ok t) {u : ValueType}
    (nested : NestedIn u t) : u.Divides := by
  induction fuel generalizing v t with
  | zero => cases built
  | succ fuel ih =>
    rw [build_succ] at built
    obtain ⟨r, -, built⟩ := bind_eq_ok_iff.mp built
    obtain ⟨⟨name, hasNull⟩, -, named⟩ := bind_eq_ok_iff.mp built
    rw [ofName_eq_ok_iff] at named
    generalize name.orElse (fun _ => inferredName r.keywords) = wanted at named
    cases named with
    | any | null | text | boolean => cases nested; trivial
    | integer rule =>
      cases nested
      exact integer_divides rule
    | number rule =>
      cases nested
      exact number_divides rule
    | array item =>
      unfold itemsType at item
      split at item
      next =>
        cases nested with
        | self => trivial
        | item inner => exact ih (mapError_eq_ok_iff.mp item) inner
      next =>
        cases item
        cases nested with
        | self => trivial
        | item inner => cases inner; trivial
    | object properties =>
      cases nested with
      | self => trivial
      | property member inner =>
        obtain ⟨w, -, typed⟩ := exists_of_mem_propertyTypes properties member
        exact ih typed inner

theorem ofSchema_divides {v : Json} {t : ValueType} (built : ofSchema v = .ok t) {u : ValueType}
    (nested : NestedIn u t) : u.Divides :=
  build_divides _ built nested

end ValueType

namespace Checked

open ValueType

def integerAccepts (r : IntegerRule) (i : Int) : Checked Bool :=
  match r.choices with
  | some values => return values.contains i
  | none =>
    if r.minimum.all (· ≤ i) && r.maximum.all (i ≤ ·) then
      match r.multipleOf with
      | some m => return (← remainder i m) == 0
      | none => return true
    else return false

def isMultipleOf (x step : Binary64) : Checked Bool :=
  if step.isIntegral then return x.isIntegral && (x % step).isZero
  else if x.isZero then return true
  else if x.lt step then return false
  else if step.oddPart.2 ≤ x.oddPart.2 then return (← remainder x.oddPart.1 step.oddPart.1) == 0
  else return false

def numberAccepts (r : NumberRule) (x : Binary64) : Checked Bool :=
  match r.choices with
  | some _ => return r.accepts x
  | none =>
    if { r with multipleOf := none }.accepts x then
      match r.multipleOf with
      | some m => isMultipleOf x m
      | none => return true
    else return false

mutual
def accepts : ValueType → Json → Checked Bool
  | .any _, _ => return true
  | t, .null => return t.nullable
  | .text _ r, v => return v.string?.any r.accepts
  | .integer _ r, v =>
    match v.int? with
    | some i => integerAccepts r i
    | none => return false
  | .number _ r, v =>
    match v.binary64? with
    | some x => numberAccepts r x
    | none => return false
  | .boolean _, v => return v.isBool
  | .array _ items r, v =>
    match v.array? with
    | some xs => if r.accepts xs then xs.allM (accepts items) else return false
    | none => return false
  | .object _ ps, v =>
    match v.object? with
    | some ms => acceptsMembers ps ms
    | none => return false
def acceptsMembers : List (Property ValueType) → Members → Checked Bool
  | [], _ => return true
  | ⟨name, required, t⟩ :: ps, ms => do
    let fits ← match NameMap.get? ms name with
      | some v => accepts t v
      | none => pure !required
    if fits then acceptsMembers ps ms else return false
end

theorem integerAccepts_eq {r : IntegerRule} (divides : ∀ m, r.multipleOf = some m → m ≠ 0) (i : Int) :
    integerAccepts r i = .ok (r.accepts i) := by
  obtain ⟨minimum, maximum, multipleOf, choices⟩ := r
  cases choices with
  | some values => rfl
  | none =>
    simp only [integerAccepts, IntegerRule.accepts]
    cases minimum.all (· ≤ i) && maximum.all (i ≤ ·) with
    | false => rfl
    | true =>
      cases multipleOf with
      | none => rfl
      | some m =>
        simp only [remainder_eq (divides m rfl)]
        rfl

theorem isMultipleOf_eq {step : Binary64} (divides : step.mantissa ≠ 0) (x : Binary64) :
    isMultipleOf x step = .ok (x.isMultipleOf step) := by
  have odd : step.oddPart.1 ≠ 0 := Nat.ne_of_gt (Binary64.oddPart_pos divides)
  simp only [isMultipleOf, Binary64.isMultipleOf, remainder_eq odd]
  split_ifs with integral zero less below
  · rfl
  · rfl
  · rfl
  · simp [below]
  · simp [below]

theorem numberAccepts_eq {r : NumberRule} (divides : ∀ m, r.multipleOf = some m → m.mantissa ≠ 0) (x : Binary64) :
    numberAccepts r x = .ok (r.accepts x) := by
  obtain ⟨minimum, maximum, strictMinimum, strictMaximum, multipleOf, choices⟩ := r
  cases choices with
  | some values => rfl
  | none =>
    simp only [numberAccepts, NumberRule.accepts]
    cases finite : x.isFinite with
    | false => rfl
    | true =>
      simp only [Bool.not_true, if_neg Bool.false_ne_true, Option.all_none, Bool.and_true]
      generalize (minimum.all _ && maximum.all _) = within
      cases within with
      | false => rfl
      | true =>
        cases multipleOf with
        | none => rfl
        | some m => exact isMultipleOf_eq (divides m rfl) x

theorem allM_eq {α : Type} {f : α → Checked Bool} {g : α → Bool} (same : ∀ x, f x = .ok (g x)) (xs : List α) :
    xs.allM f = .ok (xs.all g) := by
  induction xs with
  | nil => rfl
  | cons x xs ih =>
    rw [List.allM, same x, List.all_cons]
    cases g x with
    | false => rfl
    | true => exact ih

theorem foldlM_eq {α β : Type} {f : β → α → Checked β} {g : β → α → β} (same : ∀ b x, f b x = .ok (g b x))
    (xs : List α) (b : β) : xs.foldlM f b = .ok (xs.foldl g b) := by
  induction xs generalizing b with
  | nil => rfl
  | cons x xs ih =>
    rw [List.foldlM_cons, same b x]
    exact ih _

theorem acceptsMembers_eq {ps : List (Property ValueType)}
    (each : ∀ p ∈ ps, ∀ v, accepts p.type v = .ok (p.type.accepts v)) (ms : Members) :
    acceptsMembers ps ms = .ok (ValueType.acceptsMembers ps ms) := by
  induction ps with
  | nil => rfl
  | cons p ps ih =>
    obtain ⟨first, rest⟩ := List.forall_mem_cons.mp each
    obtain ⟨name, required, type⟩ := p
    rw [acceptsMembers, ValueType.acceptsMembers, ih rest]
    cases NameMap.get? ms name with
    | none => cases required <;> rfl
    | some v =>
      dsimp only
      rw [first v]
      cases type.accepts v <;> rfl

theorem accepts_eq {t : ValueType} (divides : ∀ u, NestedIn u t → u.Divides) (v : Json) :
    accepts t v = .ok (t.accepts v) := by
  induction t using ValueType.inductionOn generalizing v with
  | text n r => cases v <;> rfl
  | boolean n => cases v <;> rfl
  | any n => cases v <;> rfl
  | integer n r =>
    have rule := integerAccepts_eq (divides _ (.self _))
    cases v with
    | number k =>
      simp only [accepts, ValueType.accepts]
      cases (Json.number k).int? with
      | none => rfl
      | some i => exact rule i
    | _ => rfl
  | number n r =>
    have rule := numberAccepts_eq (divides _ (.self _))
    cases v with
    | number k => exact rule k.toBinary64
    | _ => rfl
  | array n items r ih =>
    have item := ih fun u inner => divides u (.item inner)
    cases v with
    | array xs =>
      simp only [accepts, ValueType.accepts, Json.array?, Option.any_some]
      rw [allM_eq item]
      cases r.accepts xs <;> rfl
    | _ => rfl
  | object n ps ih =>
    have members := acceptsMembers_eq fun p member => ih p member fun u inner => divides u (.property member inner)
    cases v with
    | object ms => exact members ms
    | _ => rfl

def texts (r : TextRule) : Checked (List Json) :=
  match r.choices with
  | some values => return values.map .string
  | none => do
    let lo := min (r.minLength.getD 0) Sample.longestText
    let hi := max (min (r.maxLength.getD Sample.longestText) Sample.longestText) lo
    let typical ← clamp 6 (max lo 1) (max hi 1)
    return (r.examples ++ (r.format.bind TextFormat.sample?).toList ++ [Sample.sizedText typical] ++
      (if r.minLength.isSome then [Sample.sizedText lo] else []) ++
      (if r.maxLength.isSome then [Sample.sizedText hi] else []) ++
      (if r.patterns.isEmpty then [] else Sample.guesses)).map .string

-- The multiple of `m` at or below `i`, and the one above it, within 64 bits.
def multipleBelow (i m : Int) : Checked Int := return Sample.clampSigned ((← floorDiv i m) * m)

def multipleAbove (i m : Int) : Checked Int :=
  return Sample.clampSigned (Sample.clampSigned ((← floorDiv i m) + 1) * m)

def integers (r : IntegerRule) : Checked (List Json) :=
  match r.choices with
  | some values => return values.map .ofInt
  | none => do
    let middle := match r.minimum, r.maximum with
      | some lo, some hi => [Sample.clampSigned (lo + (Sample.clampSigned (hi - lo)).tdiv 2)]
      | _, _ => []
    let stepped ← match r.multipleOf with
      | some m => do
        let above ← r.minimum.toList.mapM (multipleAbove · m)
        let below ← r.maximum.toList.mapM (multipleBelow · m)
        pure (m :: above ++ below)
      | none => pure []
    return ([1, 0] ++ r.minimum.toList ++ r.maximum.toList ++ middle ++ stepped).map .ofInt

def acceptedOnce (t : ValueType) (proposals : List Json) : Checked (List Json) :=
  proposals.foldlM (fun acc v => return if (← accepts t v) && !acc.contains v then acc ++ [v] else acc) []

mutual
def representativesAt : ValueType → Nat → Checked (List Json)
  | _, 0 => return []
  | t, room + 1 => do
    let proposals ← (match t with
      | .text _ r => texts r
      | .integer _ r => integers r
      | .number _ r => pure (Sample.numbers r)
      | .boolean _ => pure [.bool true, .bool false]
      | .array _ items r => do
        let items ← representativesAt items room
        pure (Sample.arrays items r)
      | .object _ ps => do
        let minimal ← fixedMembers ps .minimal room
        let full ← fixedMembers ps .full room
        pure (minimal.toList.map .object ++ full.toList.map .object)
      | .any _ => pure [.string "sample"])
    acceptedOnce t proposals
def fixedMembers : List (Property ValueType) → Fill → Nat → Checked (Option Members)
  | [], _, _ => return some []
  | ⟨name, required, t⟩ :: ps, fill, room =>
    if !required && fill == .minimal then fixedMembers ps fill room
    else do
      let value ← (match t with
        | .object _ nested => do
          let ms ← fixedMembers nested fill (room - 1)
          return ms.map Json.object
        | t => do
          let vs ← representativesAt t room
          return vs.head?)
      match value with
      | some v => do
        let ms ← fixedMembers ps fill room
        return ms.map fun ms => NameMap.insert ms name v
      | none => if required then return none else fixedMembers ps fill room
end

def representatives (t : ValueType) : Checked (List Json) := representativesAt t (Sample.deepest + 1)

theorem texts_eq (r : TextRule) : texts r = .ok (Sample.texts r) := by
  obtain ⟨format, minLength, maxLength, patterns, choices, examples⟩ := r
  cases choices with
  | some values => rfl
  | none =>
    have ordered {lo hi : Nat} (above : lo ≤ hi) : max lo 1 ≤ max hi 1 := by omega
    simp only [texts, Sample.texts, clamp_eq (ordered (Nat.le_max_right _ _))]
    rfl

theorem integers_eq {r : IntegerRule} (divides : ∀ m, r.multipleOf = some m → m ≠ 0) :
    integers r = .ok (Sample.integers r) := by
  obtain ⟨minimum, maximum, multipleOf, choices⟩ := r
  cases choices with
  | some values => rfl
  | none =>
    cases multipleOf with
    | none => rfl
    | some m =>
      simp only [integers, Sample.integers, multipleAbove, multipleBelow, floorDiv_eq (divides m rfl)]
      cases minimum <;> cases maximum <;> rfl

theorem acceptedOnce_eq {t : ValueType} (same : ∀ v, accepts t v = .ok (t.accepts v)) (proposals : List Json) :
    acceptedOnce t proposals = .ok (Sample.acceptedOnce t proposals) :=
  foldlM_eq (fun acc v => by rw [same v]; rfl) proposals []

-- What a property of an object is given, as a value of its own.
def fixedWithin (t : ValueType) (f : Fill) (room : Nat) : Checked (Option Json) :=
  match t with
  | .object _ nested => do
    let ms ← fixedMembers nested f (room - 1)
    return ms.map Json.object
  | t => do
    let vs ← representativesAt t room
    return vs.head?

theorem fixedMembers_cons (p : Property ValueType) (ps : List (Property ValueType)) (f : Fill) (room : Nat) :
    fixedMembers (p :: ps) f room =
      if !p.required && f == .minimal then fixedMembers ps f room
      else fixedWithin p.type f room >>= fun
        | some v => fixedMembers ps f room >>= fun ms => pure (ms.map fun ms => NameMap.insert ms p.name v)
        | none => if p.required then pure none else fixedMembers ps f room := by
  obtain ⟨name, required, type⟩ := p
  cases type <;> rfl

theorem fixedMembers_eq {ps : List (Property ValueType)} {f : Fill} {room : Nat}
    (each : ∀ p ∈ ps, fixedWithin p.type f room = .ok (Sample.fixedWithin p.type f room)) :
    fixedMembers ps f room = .ok (Sample.fixedMembers ps f room) := by
  induction ps with
  | nil => rfl
  | cons p ps ih =>
    obtain ⟨first, rest⟩ := List.forall_mem_cons.mp each
    rw [fixedMembers_cons, Sample.fixedMembers_cons, first, ih rest]
    cases !p.required && f == .minimal with
    | true => rfl
    | false =>
      cases Sample.fixedWithin p.type f room with
      | some v => rfl
      | none => cases p.required <;> rfl

-- With its checks, a type has the representatives and the fixed values that it has without.
structure Passes (t : ValueType) : Prop where
  representatives : ∀ room, representativesAt t room = .ok (Sample.representativesAt t room)
  fixed : ∀ f room, fixedWithin t f room = .ok (Sample.fixedWithin t f room)

section
variable {t : ValueType}
  (deeper : ∀ room, representativesAt t (room + 1) = .ok (Sample.representativesAt t (room + 1)))
include deeper

theorem representativesAt_eq : ∀ room, representativesAt t room = .ok (Sample.representativesAt t room)
  | 0 => by cases t <;> rfl
  | room + 1 => deeper room

theorem Passes.plain (plain : ∀ n ps, t ≠ .object n ps) : Passes t := by
  refine ⟨representativesAt_eq deeper, fun f room => ?_⟩
  cases t with
  | object n ps => exact absurd rfl (plain n ps)
  | _ =>
    change representativesAt _ _ >>= _ = _
    rw [representativesAt_eq deeper]
    rfl

end

theorem passes {t : ValueType} (divides : ∀ u, NestedIn u t → u.Divides) : Passes t := by
  induction t using ValueType.inductionOn with
  | text n r =>
    refine .plain (fun room => ?_) nofun
    rw [representativesAt, texts_eq]
    exact acceptedOnce_eq (accepts_eq divides) _
  | integer n r =>
    refine .plain (fun room => ?_) nofun
    rw [representativesAt, integers_eq (divides _ (.self _))]
    exact acceptedOnce_eq (accepts_eq divides) _
  | number | boolean | any => exact .plain (fun room => acceptedOnce_eq (accepts_eq divides) _) nofun
  | array n items r ih =>
    refine .plain (fun room => ?_) nofun
    rw [representativesAt, (ih fun u nested => divides u (.item nested)).representatives]
    exact acceptedOnce_eq (accepts_eq divides) _
  | object n ps ih =>
    have members (f : Fill) (room : Nat) : fixedMembers ps f room = .ok (Sample.fixedMembers ps f room) :=
      fixedMembers_eq fun p member => (ih p member fun u nested => divides u (.property member nested)).fixed f room
    refine ⟨representativesAt_eq fun room => ?_, fun f room => ?_⟩
    · rw [representativesAt, members, members]
      exact acceptedOnce_eq (accepts_eq divides) _
    · rw [fixedWithin, members]
      rfl

end Checked

end SchemaProbe
