import Mathlib.Data.Int.LeastGreatest
import SchemaProbe.Proofs.Binary64.OddPart
import SchemaProbe.Proofs.ValueType.Integers

set_option autoImplicit false

namespace SchemaProbe

namespace Binary64

theorem isFinite_of_toRat_lt {x : Binary64} (small : |x.toRat| < 2 ^ 53) : x.isFinite = true := by
  rw [isFinite, bne_iff_ne]
  intro top
  have least : (2 : Rat) ^ 53 ≤ x.magnitude := by
    have leading : (2 : Rat) ^ 52 ≤ x.mantissa := by
      have normal : 2 ^ 52 ≤ x.mantissa := by simp [mantissa, top]
      exact_mod_cast normal
    have power : x.exponent = 972 := by simp [exponent, top]
    have two : (2 : Rat) ≤ 2 ^ (972 : Int) := by
      rw [show (972 : Int) = (972 : Nat) from rfl, zpow_natCast]
      exact le_self_pow₀ one_le_two (by decide)
    rw [magnitude, scale_eq, power, pow_succ]
    gcongr
  have value : |x.toRat| = x.magnitude := by
    have nonneg : 0 ≤ x.magnitude := le_trans (by positivity) least
    rw [toRat]
    split <;> simp [abs_of_nonneg nonneg]
  rw [value] at small
  exact absurd least (not_le.mpr small)

theorem isMultipleOf_iff {x y : Binary64} (positive : x.IsPositive) (positive' : y.IsPositive)
    (fractional : y.isIntegral = false) : x.isMultipleOf y = true ↔ ∃ k : Int, x.toRat / y.toRat = k := by
  obtain ⟨finite, above⟩ := isPositive_iff.mp positive
  obtain ⟨finite', above'⟩ := isPositive_iff.mp positive'
  have nonzero : x.isZero = false := by
    have some := (isPositive_iff_fields.mp positive).2.2
    rw [Ne, mantissa_eq_zero_iff] at some
    simpa [isZero] using some
  rw [isMultipleOf, fractional, nonzero, ← oddParts_divide_iff positive positive']
  by_cases less : x.lt y = true
  · -- A quotient below one would be zero.
    simp only [less, Bool.false_eq_true, if_false, if_true, false_iff]
    rw [oddParts_divide_iff positive positive']
    rintro ⟨k, same⟩
    have low : 0 < x.toRat / y.toRat := div_pos above above'
    have high : x.toRat / y.toRat < 1 := (div_lt_one above').mpr ((lt_iff finite finite').mp less)
    rw [same] at low high
    norm_cast at low high
    omega
  · simp [less]

end Binary64

theorem Number.toBinary64_exact {n : Number} (small : |n.toRat| < 2 ^ 53) :
    n.toBinary64.isFinite = true ∧ n.toBinary64.toRat = n.toRat := by
  cases n with
  | float x => exact ⟨Binary64.isFinite_of_toRat_lt small, rfl⟩
  | int i =>
    have within : i.natAbs < 2 ^ 53 := by
      have bound : (i.natAbs : Rat) < 2 ^ 53 := by rwa [Nat.cast_natAbs, Int.cast_abs]
      exact_mod_cast bound
    have denotes := Binary64.denotes_ofInt (i := i) (by omega)
    rwa [Binary64.nearest_of_le within.le] at denotes

def Keyword.declared? (ms : Members) (name : String) : Option Rat :=
  ((NameMap.get? ms name).bind Json.number?).map Number.toRat

theorem Keyword.declared?_of_number? {ms : Members} {name : String} {b : Binary64}
    (found : Keyword.number? ms name = some b) (small : ∀ x, Keyword.declared? ms name = some x → |x| < 2 ^ 53) :
    Keyword.declared? ms name = some b.toRat ∧ b.isFinite = true ∧ |b.toRat| < 2 ^ 53 := by
  obtain ⟨v, here, read⟩ := Option.bind_eq_some_iff.mp found
  obtain ⟨n, number, rfl⟩ := Option.map_eq_some_iff.mp read
  have written : Keyword.declared? ms name = some n.toRat := by
    rw [Keyword.declared?, here, Option.bind_some, number]
    rfl
  have below := small _ written
  obtain ⟨finite, value⟩ := Number.toBinary64_exact below
  exact ⟨value ▸ written, finite, value ▸ below⟩

namespace ValueType

-- What the bounds of one side ask, where `lax` and `strict` compare with a bound.
structure Asks (ms : Members) (bound exclusive : String) (lax strict : Rat → Prop) : Prop where
  inclusive : ∀ x, Keyword.declared? ms bound = some x → lax x
  flagged : ∀ x, Keyword.declared? ms bound = some x → NameMap.get? ms exclusive = some (.bool true) → strict x
  own : ∀ x, Keyword.declared? ms exclusive = some x → strict x

structure WithinDeclared (ms : Members) (i : Int) : Prop where
  lower : Asks ms "minimum" "exclusiveMinimum" (· ≤ i) (· < i)
  upper : Asks ms "maximum" "exclusiveMaximum" (i ≤ ·) (i < ·)

-- An integer lies between the bounds that are read, which are doubles that were rounded and moved inward.
def WithinRead (ms : Members) (i : Int) : Prop :=
  (∀ lo ∈ integerMinimum (Keyword.bound ms "minimum" "exclusiveMinimum"), lo ≤ i) ∧
    ∀ hi ∈ integerMaximum (Keyword.bound ms "maximum" "exclusiveMaximum"), i ≤ hi

def Told (ms : Members) (names : List String) : Prop :=
  ∀ name ∈ names, ∀ x, Keyword.declared? ms name = some x → |x| < 2 ^ 53

section
variable {ms : Members} {b : Binary64} {i : Int}

theorem Asks.read {bound exclusive : String} {lax strict : Rat → Prop} (asks : Asks ms bound exclusive lax strict)
    (told : Told ms [bound, exclusive]) {apart : Bool} (read : Keyword.bound ms bound exclusive = (some b, apart)) :
    b.isFinite = true ∧ |b.toRat| < 2 ^ 53 ∧ if apart then strict b.toRat else lax b.toRat := by
  unfold Keyword.bound at read
  split at read
  next n found =>
    cases read
    have own : Keyword.number? ms exclusive = some n.toBinary64 := by rw [Keyword.number?, found]; rfl
    obtain ⟨written, finite, small⟩ := Keyword.declared?_of_number? own (told exclusive (by simp))
    exact ⟨finite, small, asks.own _ written⟩
  next flag found =>
    obtain ⟨number, rfl⟩ := Prod.mk.inj read
    obtain ⟨written, finite, small⟩ := Keyword.declared?_of_number? number (told bound (by simp))
    refine ⟨finite, small, ?_⟩
    split
    next on => exact asks.flagged _ written (on ▸ found)
    next => exact asks.inclusive _ written
  next =>
    obtain ⟨number, rfl⟩ := Prod.mk.inj read
    obtain ⟨written, finite, small⟩ := Keyword.declared?_of_number? number (told bound (by simp))
    exact ⟨finite, small, asks.inclusive _ written⟩

variable (finite : b.isFinite = true) (small : |b.toRat| < 2 ^ 53) (signed : Number.IsSigned i)
include finite small signed

theorem integerMinimum_le {strict : Bool} (above : if strict then b.toRat < i else b.toRat ≤ i) :
    ∀ lo ∈ integerMinimum (some b, strict), lo ≤ i := by
  obtain ⟨low, high⟩ := abs_lt.mp small
  have least : b.toRat.ceil.natAbs ≤ 2 ^ 53 := by
    have up : b.toRat.ceil ≤ 2 ^ 53 := Rat.ceil_le_iff.mpr (by exact_mod_cast high.le)
    have down : -(2 ^ 53) < b.toRat.ceil := Rat.lt_ceil_iff.mpr (by exact_mod_cast low)
    omega
  have denotes := Binary64.denotes_ceil finite least
  rintro lo ⟨⟩
  by_cases moved : (strict && b.ceil.eq b) = true
  · obtain ⟨rfl, whole⟩ := Bool.and_eq_true_iff.mp moved
    have same : (b.toRat.ceil : Rat) = b.toRat := denotes.2 ▸ (Binary64.eq_iff denotes.1 finite).mp whole
    have less : b.toRat.ceil < i := by
      rw [if_pos rfl, ← same] at above
      exact_mod_cast above
    have inside : b.toRat.ceil < 2 ^ 53 := by
      rw [← same] at high
      exact_mod_cast high
    have next := denotes.add_one (by omega)
    rw [Binary64.nearest_of_le (by omega)] at next
    rw [if_pos moved, clampToInt64, next.toIntClamped]
    obtain ⟨smallest, -⟩ := signed
    omega
  · have lax : b.toRat ≤ i := by
      split at above
      · exact above.le
      · exact above
    have below : b.toRat.ceil ≤ i := Rat.ceil_le_iff.mpr lax
    rw [if_neg moved, clampToInt64, denotes.toIntClamped]
    obtain ⟨smallest, -⟩ := signed
    omega

theorem le_integerMaximum {strict : Bool} (below : if strict then (i : Rat) < b.toRat else i ≤ b.toRat) :
    ∀ hi ∈ integerMaximum (some b, strict), i ≤ hi := by
  obtain ⟨low, high⟩ := abs_lt.mp small
  have most : b.toRat.floor.natAbs ≤ 2 ^ 53 := by
    have up : b.toRat.floor < 2 ^ 53 := Rat.floor_lt_iff.mpr (by exact_mod_cast high)
    have down : -(2 ^ 53) ≤ b.toRat.floor := Rat.le_floor_iff.mpr (by exact_mod_cast low.le)
    omega
  have denotes := Binary64.denotes_floor finite most
  rintro hi ⟨⟩
  by_cases moved : (strict && b.floor.eq b) = true
  · obtain ⟨rfl, whole⟩ := Bool.and_eq_true_iff.mp moved
    have same : (b.toRat.floor : Rat) = b.toRat := denotes.2 ▸ (Binary64.eq_iff denotes.1 finite).mp whole
    have less : i < b.toRat.floor := by
      rw [if_pos rfl, ← same] at below
      exact_mod_cast below
    have inside : -(2 ^ 53) < b.toRat.floor := by
      rw [← same] at low
      exact_mod_cast low
    have next := denotes.sub_one (by omega)
    rw [Binary64.nearest_of_le (by omega)] at next
    rw [if_pos moved, clampToInt64, next.toIntClamped]
    obtain ⟨-, largest⟩ := signed
    omega
  · have lax : (i : Rat) ≤ b.toRat := by
      split at below
      · exact below.le
      · exact below
    have above : i ≤ b.toRat.floor := Rat.le_floor_iff.mpr lax
    rw [if_neg moved, clampToInt64, denotes.toIntClamped]
    obtain ⟨-, largest⟩ := signed
    omega

end

theorem WithinDeclared.read {ms : Members} {i : Int} (within : WithinDeclared ms i) (signed : Number.IsSigned i)
    (told : Told ms ["minimum", "exclusiveMinimum", "maximum", "exclusiveMaximum"]) : WithinRead ms i := by
  constructor
  · cases read : Keyword.bound ms "minimum" "exclusiveMinimum" with
    | mk bound apart =>
      cases bound with
      | none => nofun
      | some b =>
        obtain ⟨finite, small, above⟩ := within.lower.read (fun name listed => told name (by grind)) read
        exact integerMinimum_le finite small signed above
  · cases read : Keyword.bound ms "maximum" "exclusiveMaximum" with
    | mk bound apart =>
      cases bound with
      | none => nofun
      | some b =>
        obtain ⟨finite, small, below⟩ := within.upper.read (fun name listed => told name (by grind)) read
        exact le_integerMaximum finite small signed below

def IsMultiple (m : Binary64) (i : Int) : Prop := ∃ k : Int, (i : Rat) = k * m.toRat

def declaredMultiples (ms : Members) (m : Binary64) : Set Int :=
  {i | Number.IsSigned i ∧ WithinDeclared ms i ∧ 0 ≤ i ∧ IsMultiple m i}

-- What is read has no gaps, so that it holds all of them if it holds the ends.
theorem withinRead_of_ends {ms : Members} {m : Binary64}
    (ends : ∀ i, IsLeast (declaredMultiples ms m) i ∨ IsGreatest (declaredMultiples ms m) i → WithinRead ms i) :
    ∀ i ∈ declaredMultiples ms m, WithinRead ms i := by
  intro i member
  obtain ⟨first, least, low⟩ := Int.exists_least_of_bdd (P := (· ∈ declaredMultiples ms m))
    ⟨Number.smallestSigned, fun j within => within.1.1⟩ ⟨i, member⟩
  obtain ⟨last, most, high⟩ := Int.exists_greatest_of_bdd (P := (· ∈ declaredMultiples ms m))
    ⟨Number.largestSigned, fun j within => within.1.2⟩ ⟨i, member⟩
  exact ⟨fun lo bound => ((ends first (.inl ⟨least, low⟩)).1 lo bound).trans (low i member),
    fun hi bound => (high i member).trans ((ends last (.inr ⟨most, high⟩)).2 hi bound)⟩

structure FractionalStep (ms : Members) (m : Binary64) : Prop where
  named : ∃ hasNull, declaredName ms = .ok (some "integer", hasNull)
  free : NameMap.get? ms "enum" = none
  step : Keyword.number? ms "multipleOf" = some m
  positive : m.IsPositive
  fractional : m.isIntegral = false

namespace FractionalStep

variable {ms : Members} {m : Binary64} (given : FractionalStep ms m)
include given

theorem integerStep_eq : integerStep ms = (some (m.oddPart.1 : Int), true) := by
  obtain ⟨finite, above⟩ := Binary64.isPositive_iff.mp given.positive
  have positive : Binary64.lt 0 m = true := by
    rw [Binary64.lt_iff Binary64.zero_finite finite, Binary64.toRat_zero]
    exact above
  have small : (m.oddPart.1 : Int) ≤ Number.largestSigned := by
    have places := (Binary64.oddPart_spec given.positive).2.1
    unfold Number.largestSigned
    omega
  simp [integerStep, Merge.positiveStep?, given.step, Option.filter, positive, given.fractional, small]

theorem multiple_iff (i : Int) : IsMultiple m i ↔ (m.oddPart.1 : Int) ∣ i := by
  obtain ⟨odd, -, value⟩ := Binary64.oddPart_spec given.positive
  obtain ⟨n, power⟩ : ∃ n : Nat, m.oddPart.2 = -n :=
    ⟨m.oddPart.2.natAbs, by have := Binary64.oddPart_exponent_neg given.positive given.fractional; omega⟩
  rw [← Binary64.exists_multiple_iff odd i n]
  apply exists_congr
  intro k
  rw [value, power, zpow_neg, zpow_natCast, ← mul_assoc, ← div_eq_mul_inv, eq_div_iff (by positivity)]

theorem integerRule_accepts : ∃ r, integerRule ms = .ok r ∧
    ∀ i, r.accepts i = true ↔ WithinRead ms i ∧ 0 ≤ i ∧ (m.oddPart.1 : Int) ∣ i := by
  rw [integerRule_eq, choicesOf_free given.free, given.integerStep_eq]
  refine ⟨_, rfl, fun i => ?_⟩
  have divides : (i % (m.oddPart.1 : Int) == 0) = true ↔ (m.oddPart.1 : Int) ∣ i := by
    rw [beq_iff_eq, Int.dvd_iff_emod_eq_zero]
  unfold WithinRead IntegerRule.accepts
  cases integerMinimum (Keyword.bound ms "minimum" "exclusiveMinimum") <;>
    cases integerMaximum (Keyword.bound ms "maximum" "exclusiveMaximum") <;>
      simp only [if_true, Option.all_some, Option.all_none, Bool.and_eq_true, decide_eq_true_eq, divides] <;> grind

end FractionalStep

/-- A positive double is an odd number times a power of two. Where a step is no integer, the odd parts tell the doubles
that are its multiples. An integer type with the step accepts, between the bounds that are read, the multiples from zero
on. It accepts all of those between the bounds that are declared if and only if the first and the last of them lie
between those that are read; so it is where doubles tell the bounds. -/
theorem fractional_steps_exact_iff (v : Json) :
    (∀ x : Binary64, x.IsPositive → x.oddPart.1 % 2 = 1 ∧ x.toRat = x.oddPart.1 * 2 ^ x.oddPart.2) ∧
    (∀ x y : Binary64, x.IsPositive → y.IsPositive → y.isIntegral = false →
      ((y.oddPart.2 ≤ x.oddPart.2 ∧ x.oddPart.1 % y.oddPart.1 = 0) ↔ ∃ k : Int, x.toRat / y.toRat = k) ∧
      (x.isMultipleOf y = true ↔ ∃ k : Int, x.toRat / y.toRat = k)) ∧
    ∀ s m, Resolved.resolve v = .ok s → FractionalStep s.keywords m →
      ∃ n r, ofSchema v = .ok (.integer n r) ∧
        (∀ i, Number.IsSigned i →
          ((integer n r).accepts (.ofInt i) = true ↔ WithinRead s.keywords i ∧ 0 ≤ i ∧ IsMultiple m i)) ∧
        ((∀ i, Number.IsSigned i → WithinDeclared s.keywords i →
            ((integer n r).accepts (.ofInt i) = true ↔ 0 ≤ i ∧ IsMultiple m i)) ↔
          ∀ i, IsLeast (declaredMultiples s.keywords m) i ∨ IsGreatest (declaredMultiples s.keywords m) i →
            WithinRead s.keywords i) ∧
        (Told s.keywords ["minimum", "exclusiveMinimum", "maximum", "exclusiveMaximum"] →
          ∀ i, Number.IsSigned i → WithinDeclared s.keywords i →
            ((integer n r).accepts (.ofInt i) = true ↔ 0 ≤ i ∧ IsMultiple m i)) := by
  refine ⟨?_, ?_, ?_⟩
  · intro x positive
    obtain ⟨odd, -, value⟩ := Binary64.oddPart_spec positive
    exact ⟨odd, value⟩
  · intro x y positive positive' fractional
    exact ⟨Binary64.oddParts_divide_iff positive positive', Binary64.isMultipleOf_iff positive positive' fractional⟩
  · intro s m resolved given
    obtain ⟨r, rule, accepts⟩ := given.integerRule_accepts
    obtain ⟨hasNull, named⟩ := given.named
    have taken (n : Bool) (i : Int) (signed : Number.IsSigned i) :
        (integer n r).accepts (.ofInt i) = true ↔ WithinRead s.keywords i ∧ 0 ≤ i ∧ IsMultiple m i := by
      rw [accepts_ofInt_iff, accepts, given.multiple_iff]
      exact and_iff_right signed.2
    refine ⟨s.nullable || hasNull, r, ?_, taken _, ⟨fun exact' i ends => ?_, fun ends i signed within => ?_⟩,
      fun told i signed within => ?_⟩
    · rw [ofSchema_eq, resolved]
      simp [ofKeywords, named, ofName, rule, Bind.bind, Except.bind, Pure.pure, Except.pure]
    · obtain ⟨signed, within, multiple⟩ : i ∈ declaredMultiples s.keywords m := ends.elim And.left And.left
      exact ((taken _ i signed).mp ((exact' i signed within).mpr multiple)).1
    · rw [taken _ i signed]
      exact and_iff_right_of_imp fun multiple => withinRead_of_ends ends i ⟨signed, within, multiple⟩
    · rw [taken _ i signed]
      exact and_iff_right (within.read signed told)

-- A step of two and a half, with room for integers below zero.
def halfSteps : Members :=
  [("maximum", .ofInt 12), ("minimum", .ofInt (-10)), ("multipleOf", .number (.float ⟨0x4004000000000000⟩)),
    ("type", .string "integer")]

-- The maximum lies between two doubles.
def lossySteps : Members :=
  [("maximum", .ofInt (2 ^ 53 + 1)), ("multipleOf", .number (.float ⟨0x3fe0000000000000⟩)), ("type", .string "integer")]

-- A number below the normal ones; three tenths, which is no multiple of a tenth; and the steps above.
theorem lossySteps_refused :
    ((⟨6⟩ : Binary64).IsPositive ∧ (⟨6⟩ : Binary64).oddPart = (3, -1073) ∧
      (⟨6⟩ : Binary64).toRat = (3 : Nat) * 2 ^ (-1073 : Int)) ∧
    (((⟨0x3fd3333333333333⟩ : Binary64).IsPositive ∧ (⟨0x3fb999999999999a⟩ : Binary64).IsPositive ∧
        (⟨0x3fb999999999999a⟩ : Binary64).isIntegral = false) ∧
      ¬∃ k : Int, (⟨0x3fd3333333333333⟩ : Binary64).toRat / (⟨0x3fb999999999999a⟩ : Binary64).toRat = k) ∧
    (∃ s, Resolved.resolve (.object halfSteps) = .ok s ∧ FractionalStep s.keywords ⟨0x4004000000000000⟩ ∧
      ∃ n r, ofSchema (.object halfSteps) = .ok (.integer n r) ∧ (integer n r).accepts (.ofInt 10) = true ∧
        (integer n r).accepts (.ofInt (-5)) = false ∧ (integer n r).accepts (.ofInt 6) = false) ∧
    ∃ s, Resolved.resolve (.object lossySteps) = .ok s ∧ FractionalStep s.keywords ⟨0x3fe0000000000000⟩ ∧
      (2 ^ 53 + 1) ∈ declaredMultiples s.keywords ⟨0x3fe0000000000000⟩ ∧
      ∃ n r, ofSchema (.object lossySteps) = .ok (.integer n r) ∧
        (integer n r).accepts (.ofInt (2 ^ 53 + 1)) = false := by
  obtain ⟨odd, quotient, accepts⟩ := fractional_steps_exact_iff (.object halfSteps)
  refine ⟨⟨by decide, by decide +kernel, (odd ⟨6⟩ (by decide)).2⟩, ⟨by decide +kernel, ?_⟩, ?_, ?_⟩
  · rw [← (quotient ⟨0x3fd3333333333333⟩ ⟨0x3fb999999999999a⟩ (by decide) (by decide) (by decide +kernel)).1]
    decide +kernel
  · have given : FractionalStep halfSteps ⟨0x4004000000000000⟩ :=
      ⟨⟨false, rfl⟩, rfl, rfl, by decide, by decide +kernel⟩
    have resolved : Resolved.resolve (.object halfSteps) = .ok ⟨halfSteps, false, []⟩ := Resolved.resolve_plain rfl rfl
    obtain ⟨n, r, built, tells, -⟩ := accepts _ _ resolved given
    have step : (⟨0x4004000000000000⟩ : Binary64).toRat = 5 / 2 := by decide +kernel
    have lower : integerMinimum (Keyword.bound halfSteps "minimum" "exclusiveMinimum") = some (-10) := by decide +kernel
    have upper : integerMaximum (Keyword.bound halfSteps "maximum" "exclusiveMaximum") = some 12 := by decide +kernel
    refine ⟨_, resolved, given, n, r, built, ?_, ?_, ?_⟩
    · apply (tells 10 (by decide)).mpr
      refine ⟨by simp [WithinRead, lower, upper], by decide, 4, ?_⟩
      norm_num [step]
    · apply Bool.eq_false_iff.mpr
      intro accepted
      have above := ((tells (-5) (by decide)).mp accepted).2.1
      omega
    · apply Bool.eq_false_iff.mpr
      intro accepted
      obtain ⟨-, -, k, same⟩ := (tells 6 (by decide)).mp accepted
      have whole : (12 : Rat) = k * 5 := by
        rw [step] at same
        push_cast at same
        linarith
      norm_cast at whole
      omega
  · have given : FractionalStep lossySteps ⟨0x3fe0000000000000⟩ :=
      ⟨⟨false, rfl⟩, rfl, rfl, by decide, by decide +kernel⟩
    have resolved : Resolved.resolve (.object lossySteps) = .ok ⟨lossySteps, false, []⟩ :=
      Resolved.resolve_plain rfl rfl
    obtain ⟨n, r, built, tells, -⟩ := (fractional_steps_exact_iff (.object lossySteps)).2.2 _ _ resolved given
    have step : (⟨0x3fe0000000000000⟩ : Binary64).toRat = 1 / 2 := by decide +kernel
    have upper : integerMaximum (Keyword.bound lossySteps "maximum" "exclusiveMaximum") = some (2 ^ 53) := by
      decide +kernel
    have declared : Keyword.declared? lossySteps "maximum" = some ((2 ^ 53 + 1 : Int) : Rat) := rfl
    have within : WithinDeclared lossySteps (2 ^ 53 + 1) := by
      refine ⟨⟨nofun, nofun, nofun⟩, ⟨fun x given => ?_, nofun, nofun⟩⟩
      rw [declared] at given
      cases given
      exact le_refl _
    refine ⟨_, resolved, given, ⟨by decide, within, by decide, 2 ^ 54 + 2, ?_⟩, n, r, built, ?_⟩
    · norm_num [step]
    · apply Bool.eq_false_iff.mpr
      intro accepted
      have below := ((tells (2 ^ 53 + 1) (by decide)).mp accepted).1.2 _ upper
      omega

end ValueType

end SchemaProbe
