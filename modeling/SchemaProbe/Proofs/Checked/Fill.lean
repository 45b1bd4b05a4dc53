import SchemaProbe.Proofs.Case.Statuses
import SchemaProbe.Proofs.Checked.Sample

set_option autoImplicit false

namespace SchemaProbe

namespace Checked

open ValueType

def textLength (r : TextRule) : CheckedDraw Int := do
  let lo := min (r.minLength.getD 1) Sample.longestText
  let further ← sum lo 20
  let hi := max (min (min (r.maxLength.getD further) further) Sample.longestText) lo
  between 64 lo hi

def drawText (r : TextRule) : CheckedDraw (Option Json) :=
  match r.choices with
  | some values => do
    let s ← choose values
    return s.map .string
  | none => do
    let formatted ← match r.format with
      | some f => random? f
      | none => pure none
    match formatted with
    | some s => return some (.string s)
    | none =>
      let length ← textLength r
      let s ← randomText length.toNat
      return some (.string s)

def snapInteger (v lo m : Int) : Checked Int := do
  let down ← multipleBelow v m
  return if down < lo then Sample.clampSigned (down + m) else down

def drawInteger (r : IntegerRule) : CheckedDraw (Option Json) :=
  match r.choices with
  | some values => do
    let i ← choose values
    return i.map .ofInt
  | none => do
    let lo := r.minimum.getD ((r.maximum.map fun hi => Sample.clampSigned (hi - 1000)).getD 0)
    let hi := r.maximum.getD (Sample.clampSigned (lo + 1000))
    if hi < lo then return none
    else do
      let v ← between 64 lo hi
      let snapped ← (match r.multipleOf with
        | some m => snapInteger v lo m
        | none => pure v)
      return some (.ofInt snapped)

def drawNumber (r : NumberRule) : CheckedDraw (Option Json) :=
  match r.choices with
  | some values => do
    let x ← choose values
    return x.map .ofBinary64
  | none => do
    let lo := r.minimum.getD ((r.maximum.map (· - 1000)).getD 0)
    let hi := r.maximum.getD (lo + 1000)
    if !(lo.isFinite && hi.isFinite) || hi.le lo then return r.minimum.map .ofBinary64
    else do
      let v ← double lo hi
      return some (.ofBinary64 (match r.multipleOf with
        | some m => Sample.snapNumber v lo m
        | none => v))

def retry (t : ValueType) (room : Nat) (once : CheckedDraw (Option Json)) : Nat → CheckedDraw (Option Json)
  | 0 => do
    let vs ← representativesAt t room
    choose vs
  | n + 1 => do
    match ← once with
    | some v =>
      let fits ← accepts t v
      if fits then return some v else retry t room once n
    | none => retry t room once n

def retryWithin (t : ValueType) (room : Nat) (once : CheckedDraw (Option Json)) : CheckedDraw (Option Json) :=
  if room = 0 then return none else retry t room once Sample.attempts

def arrayLength (r : ArrayRule) : CheckedDraw Int := do
  let further ← sum r.minItems 3
  let most := max (min (r.maxItems.getD further) further) r.minItems
  between 64 r.minItems most

mutual
def propose : ValueType → Nat → CheckedDraw (Option Json)
  | .text _ r, _ => drawText r
  | .integer _ r, _ => drawInteger r
  | .number _ r, _ => drawNumber r
  | .boolean _, _ => do
    let b ← lift Draw.coin
    return some (.bool b)
  | .array _ items r, room => do
    let length ← arrayLength r
    let xs ← repeatDraw? (retryWithin items (room - 1) (propose items (room - 1))) length.toNat
    return xs.map .array
  | .object _ ps, room => do
    let ms ← proposeMembers ps (room - 1) []
    return ms.map .object
  | .any _, _ => do
    let s ← randomText 8
    return some (.string s)
def proposeMembers : List (Property ValueType) → Nat → Members → CheckedDraw (Option Members)
  | [], _, acc => return some acc
  | ⟨name, required, t⟩ :: ps, room, acc => do
    let wanted ← (if required then pure true else lift Draw.coin)
    if wanted then
      match ← retryWithin t room (propose t room) with
      | some v => proposeMembers ps room (NameMap.insert acc name v)
      | none => if required then return none else proposeMembers ps room acc
    else proposeMembers ps room acc
end

def fill (t : ValueType) (f : Fill) : CheckedDraw (Option Json) :=
  match f with
  | .random => retryWithin t (Sample.deepest + 1) (propose t (Sample.deepest + 1))
  | f => fixedWithin t f (Sample.deepest + 1)

theorem agrees_textLength (r : TextRule) :
    let lo := min (r.minLength.getD 1) Sample.longestText
    let hi := max (min (min (r.maxLength.getD (lo + 20)) (lo + 20)) Sample.longestText) lo
    Agrees (textLength r) (Draw.between 64 lo hi) := by
  intro lo hi
  have small : lo ≤ 256 := Nat.min_le_right _ _
  exact .after (sum_eq (by omega)) (agrees_between 64 (Int.ofNat_le.mpr (Nat.le_max_right _ _)))

theorem agrees_drawText (r : TextRule) : Agrees (drawText r) (Sample.drawText r) := by
  have sized := (agrees_textLength r).bind fun length => (agrees_randomText length.toNat).bind fun s =>
    agrees_pure (some (Json.string s))
  cases choices : r.choices with
  | some values =>
    simp only [drawText, Sample.drawText, choices]
    exact (agrees_choose values).bind fun s => agrees_pure _
  | none =>
    simp only [drawText, Sample.drawText, choices]
    cases r.format with
    | none => exact sized
    | some f =>
      refine (agrees_random? f).bind fun formatted => ?_
      cases formatted with
      | some s => exact agrees_pure _
      | none => exact sized

theorem agrees_drawInteger {r : IntegerRule} (divides : ∀ m, r.multipleOf = some m → m ≠ 0) :
    Agrees (drawInteger r) (Sample.drawInteger r) := by
  obtain ⟨minimum, maximum, multipleOf, choices⟩ := r
  cases choices with
  | some values => exact (agrees_choose values).bind fun i => agrees_pure _
  | none =>
    simp only [drawInteger, Sample.drawInteger]
    split
    next => exact agrees_pure none
    next ordered =>
      refine (agrees_between 64 (Int.not_lt.mp ordered)).bind fun v => ?_
      cases multipleOf with
      | none => exact agrees_pure _
      | some m =>
        refine .after (b := Sample.snapInteger v _ m) ?_ (agrees_pure _)
        simp only [snapInteger, multipleBelow, floorDiv_eq (divides m rfl)]
        rfl

theorem agrees_drawNumber (r : NumberRule) : Agrees (drawNumber r) (Sample.drawNumber r) := by
  obtain ⟨minimum, maximum, strictMinimum, strictMaximum, multipleOf, choices⟩ := r
  cases choices with
  | some values => exact (agrees_choose values).bind fun x => agrees_pure _
  | none =>
    simp only [drawNumber, Sample.drawNumber]
    split
    next => exact agrees_pure _
    next bounded =>
      simp only [Bool.or_eq_true, Bool.not_eq_true', Bool.and_eq_false_iff, not_or, Bool.not_eq_false] at bounded
      obtain ⟨⟨low, high⟩, apart⟩ := bounded
      rw [Binary64.le_iff high low, Rat.not_le] at apart
      exact (agrees_double ((Binary64.le_iff low high).mpr (Rat.le_of_lt apart))).bind fun v => agrees_pure _

theorem agrees_retry {t : ValueType} (divides : ∀ u, NestedIn u t → u.Divides) (room : Nat)
    {once : CheckedDraw (Option Json)} {once' : Draw (Option Json)} (same : Agrees once once') (tries : Nat) :
    Agrees (retry t room once tries) (Sample.retry t room once' tries) := by
  induction tries with
  | zero => exact .after ((passes divides).representatives room) (agrees_choose _)
  | succ n ih =>
    refine same.bind fun proposal => ?_
    cases proposal with
    | none => exact ih
    | some v =>
      refine .after (accepts_eq divides v) ?_
      dsimp only
      split
      · exact agrees_pure _
      · exact ih

theorem agrees_retryWithin {t : ValueType} (divides : ∀ u, NestedIn u t → u.Divides) (room : Nat)
    {once : CheckedDraw (Option Json)} {once' : Draw (Option Json)} (same : Agrees once once') :
    Agrees (retryWithin t room once) (Sample.retryWithin t room once') := by
  unfold retryWithin Sample.retryWithin
  split
  · exact agrees_pure none
  · exact agrees_retry divides room same _

theorem agrees_arrayLength {r : ArrayRule} (short : r.minItems ≤ 1000) :
    Agrees (arrayLength r)
      (Draw.between 64 r.minItems (max (min (r.maxItems.getD (r.minItems + 3)) (r.minItems + 3)) r.minItems : Nat)) :=
  .after (sum_eq (by omega)) (agrees_between 64 (Int.ofNat_le.mpr (Nat.le_max_right _ _)))

theorem agrees_proposeMembers {ps : List (Property ValueType)}
    (each : ∀ p ∈ ps, ∀ room, Agrees (retryWithin p.type room (propose p.type room))
      (Sample.retryWithin p.type room (Sample.propose p.type room))) (room : Nat) (acc : Members) :
    Agrees (proposeMembers ps room acc) (Sample.proposeMembers ps room acc) := by
  induction ps generalizing acc with
  | nil => exact agrees_pure (some acc)
  | cons p ps ih =>
    obtain ⟨first, rest⟩ := List.forall_mem_cons.mp each
    rw [Sample.proposeMembers_cons]
    obtain ⟨name, required, type⟩ := p
    refine Agrees.bind ?_ fun wanted => ?_
    · cases required with
      | true => exact agrees_pure true
      | false => exact agrees_lift _
    · cases wanted with
      | false => exact ih rest acc
      | true =>
        refine (first room).bind fun value => ?_
        cases value with
        | some v => exact ih rest _
        | none =>
          cases required with
          | true => exact agrees_pure none
          | false => exact ih rest acc

theorem agrees_propose {t : ValueType} (divides : ∀ u, NestedIn u t → u.Divides)
    (short : ∀ n items r, NestedIn (.array n items r) t → r.minItems ≤ 1000) (room : Nat) :
    Agrees (propose t room) (Sample.propose t room) := by
  induction t using ValueType.inductionOn generalizing room with
  | text n r => exact agrees_drawText r
  | integer n r => exact agrees_drawInteger (divides _ (.self _))
  | number n r => exact agrees_drawNumber r
  | boolean n => exact (agrees_lift _).bind fun b => agrees_pure _
  | array n items r ih =>
    have inside (u : ValueType) (nested : NestedIn u items) : u.Divides := divides u (.item nested)
    have item := ih inside fun n items r nested => short n items r (.item nested)
    exact (agrees_arrayLength (short n items r (.self _))).bind fun length =>
      (agrees_repeatDraw? (agrees_retryWithin inside _ (item _)) _).bind fun xs => agrees_pure _
  | object n ps ih =>
    refine (agrees_proposeMembers (fun p member room => ?_) _ []).bind fun ms => agrees_pure _
    have inside (u : ValueType) (nested : NestedIn u p.type) : u.Divides := divides u (.property member nested)
    exact agrees_retryWithin inside room <|
      ih p member inside (fun n items r nested => short n items r (.property member nested)) room
  | any n => exact (agrees_randomText 8).bind fun s => agrees_pure _

theorem agrees_fill {t : ValueType} (divides : ∀ u, NestedIn u t → u.Divides)
    (short : ∀ n items r, NestedIn (.array n items r) t → r.minItems ≤ 1000) (f : Fill) :
    Agrees (fill t f) (Sample.fill t f) := by
  have fixed (f : Fill) : Agrees (liftM (fixedWithin t f (Sample.deepest + 1))) (pure (Sample.fixed t f)) := by
    rw [(passes divides).fixed, ← Sample.fixed_eq_fixedWithin]
    exact agrees_pure _
  cases f with
  | random => exact agrees_retryWithin divides _ (agrees_propose divides short _)
  | minimal | full => exact fixed _

end Checked

namespace ValueType

/-- Generation for the type of a schema, whose arrays need not hold more than a thousand items, fails no check but one:
representatives and fixed values are always given, and random ones where no number is drawn from too wide a range. A
number with such a range is never given. -/
theorem generation_checked {v : Json} {t : ValueType} (built : ofSchema v = .ok t)
    (short : ∀ n items r, NestedIn (.array n items r) t → r.minItems ≤ 1000) :
    Checked.representatives t = .ok (Sample.representatives t) ∧
    (∀ f s, Checked.fill t f s = (Sample.fill t f s).mapError fun _ => .rangeTooWide) ∧
    (∀ f s, (f = .random → t.Scales) → ∃ r, Checked.fill t f s = .ok r) ∧
    ∀ n r, t = .number n r → ¬r.Scales → ∀ s, Checked.fill t .random s = .error .rangeTooWide := by
  have divides (u : ValueType) (nested : NestedIn u t) : u.Divides := ofSchema_divides built nested
  have same (f : Fill) (s : RandomSource) :
      Checked.fill t f s = (Sample.fill t f s).mapError fun _ => .rangeTooWide :=
    congrFun (Checked.agrees_fill divides short f) s
  refine ⟨(Checked.passes divides).representatives _, same, fun f s scales => ?_, ?_⟩
  · obtain ⟨r, s', filled⟩ : ∃ r s', Sample.fill t f s = .ok (r, s') := by
      cases f with
      | random => exact Sample.fill_succeeds (scales rfl) .random s
      | minimal | full => exact ⟨_, _, rfl⟩
    exact ⟨(r, s'), by rw [same, filled]; rfl⟩
  · rintro n r rfl unscaled s
    rw [same, Sample.fill_random_fails unscaled s]
    rfl

def wideNumbers : Json := .object [
  ("maximum", .number (.float ⟨0x7fe1ccf385ebc8a0⟩)), ("minimum", .number (.float ⟨0xffe1ccf385ebc8a0⟩)),
  ("type", .string "number")]

def longArrays : Json := .object [
  ("items", .object [("minLength", .ofInt 300), ("type", .string "string")]), ("minItems", .ofInt 1000),
  ("type", .string "array")]

theorem long_arrays_generated :
    (ofSchema wideNumbers = .ok (.number false CasePlan.wideRule) ∧
      ∀ s, Checked.fill (.number false CasePlan.wideRule) .random s = .error .rangeTooWide) ∧
    ∃ t, ofSchema longArrays = .ok t ∧ Checked.representatives t = .ok (Sample.representatives t) ∧
      ∀ f s, ∃ r, Checked.fill t f s = .ok r := by
  have wide : ofSchema wideNumbers = .ok (.number false CasePlan.wideRule) := rfl
  have long : ofSchema longArrays = .ok (.array false (.text false { minLength := some 300 }) { minItems := 1000 }) :=
    rfl
  refine ⟨⟨wide, ?_⟩, _, long, ?_⟩
  · obtain ⟨-, -, -, failing⟩ := generation_checked wide nofun
    exact failing _ _ rfl CasePlan.wideRule_not_scales
  · obtain ⟨representatives, -, filled, -⟩ := generation_checked long fun n items r nested => by
      cases nested with
      | self => exact Nat.le_refl 1000
      | item inner => cases inner
    exact ⟨representatives, fun f s => filled f s fun _ => .array (.text _ _)⟩

end ValueType

end SchemaProbe
