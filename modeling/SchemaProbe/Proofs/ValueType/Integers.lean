import SchemaProbe.Proofs.Binary64.Integer
import SchemaProbe.Proofs.Case.Slots
import SchemaProbe.Proofs.ValueType.Choices
import SchemaProbe.Proofs.ValueType.Fill

set_option autoImplicit false

namespace SchemaProbe

def Number.IsSigned (i : Int) : Prop := smallestSigned ≤ i ∧ i ≤ largestSigned

instance (i : Int) : Decidable (Number.IsSigned i) := inferInstanceAs (Decidable (_ ∧ _))

theorem Number.isSigned_of_natAbs_lt {i : Int} (small : i.natAbs < 2 ^ 63) : IsSigned i := by
  unfold IsSigned smallestSigned largestSigned
  omega

section
variable {m i j : Int} (positive : 0 < m) (divides : m ∣ i)
include positive divides

theorem le_multipleBelow (below : i ≤ j) : i ≤ j / m * m := by
  obtain ⟨k, rfl⟩ := divides
  rw [Int.mul_comm m k] at below ⊢
  exact Int.mul_le_mul_of_nonneg_right ((Int.le_ediv_iff_mul_le positive).mpr below) (Int.le_of_lt positive)

theorem multipleAbove_le (above : j < i) : (j / m + 1) * m ≤ i := by
  obtain ⟨k, rfl⟩ := divides
  rw [Int.mul_comm m k] at above ⊢
  exact Int.mul_le_mul_of_nonneg_right (Int.add_one_le_of_lt ((Int.ediv_lt_iff_lt_mul positive).mpr above))
    (Int.le_of_lt positive)

end

structure Stretch where
  least : Int
  greatest : Int
  step : Int

namespace Stretch

def Holds (s : Stretch) (i : Int) : Prop := s.least ≤ i ∧ i ≤ s.greatest ∧ s.step ∣ i

-- The first multiple from the least integer on, and the last one up to the greatest.
def first (s : Stretch) : Int := -(-s.least / s.step * s.step)

def last (s : Stretch) : Int := s.greatest / s.step * s.step

-- Two stretches that hold nothing, or that begin and end alike and have the same step where there is one to take.
def Same (s t : Stretch) : Prop :=
  s.last < s.first ∧ t.last < t.first ∨
    s.first = t.first ∧ s.last = t.last ∧ (s.first = s.last ∨ s.step = t.step)

instance (s : Stretch) (i : Int) : Decidable (s.Holds i) := inferInstanceAs (Decidable (_ ∧ _ ∧ _))

instance (s t : Stretch) : Decidable (s.Same t) := inferInstanceAs (Decidable (_ ∨ _))

theorem holds_iff {s : Stretch} (positive : 0 < s.step) {i : Int} :
    s.Holds i ↔ s.first ≤ i ∧ i ≤ s.last ∧ s.step ∣ i := by
  unfold Holds first last
  constructor
  · rintro ⟨low, high, divides⟩
    have above := le_multipleBelow positive (Int.dvd_neg.mpr divides) (Int.neg_le_neg low)
    exact ⟨by omega, le_multipleBelow positive divides high, divides⟩
  · rintro ⟨low, high, divides⟩
    have above : -s.least / s.step * s.step ≤ -s.least := Int.ediv_mul_le _ (Int.ne_of_gt positive)
    have below : s.greatest / s.step * s.step ≤ s.greatest := Int.ediv_mul_le _ (Int.ne_of_gt positive)
    exact ⟨by omega, Int.le_trans high below, divides⟩

section
variable {s t : Stretch} (positive : 0 < s.step)

theorem dvd_first (s : Stretch) : s.step ∣ s.first := Int.dvd_neg.mpr (Int.dvd_mul_left _ _)

theorem dvd_last (s : Stretch) : s.step ∣ s.last := Int.dvd_mul_left _ _

include positive

theorem holds_first (some : s.first ≤ s.last) : s.Holds s.first :=
  (holds_iff positive).mpr ⟨Int.le_refl _, some, s.dvd_first⟩

theorem holds_last (some : s.first ≤ s.last) : s.Holds s.last :=
  (holds_iff positive).mpr ⟨some, Int.le_refl _, s.dvd_last⟩

theorem holds_second (two : s.first < s.last) : s.Holds (s.first + s.step) := by
  refine (holds_iff positive).mpr ⟨by omega, ?_, Int.dvd_add s.dvd_first (Int.dvd_refl _)⟩
  have apart := Int.le_of_dvd (Int.sub_pos.mpr two) (Int.dvd_sub s.dvd_last s.dvd_first)
  omega

theorem step_le_of_holds (all : ∀ i, s.Holds i → t.Holds i) (begins : s.first = t.first)
    (two : s.first < s.last) : t.step ≤ s.step := by
  obtain ⟨-, -, divides⟩ := all _ (holds_second positive two)
  rw [begins] at divides
  exact Int.le_of_dvd positive ((Int.dvd_add_right t.dvd_first).mp divides)

end

theorem same_iff {s t : Stretch} (positive : 0 < s.step) (positive' : 0 < t.step) :
    (∀ i, s.Holds i ↔ t.Holds i) ↔ s.Same t := by
  constructor
  · intro same
    have forth (i : Int) : s.Holds i → t.Holds i := (same i).mp
    have back (i : Int) : t.Holds i → s.Holds i := (same i).mpr
    have reach {u : Stretch} (step : 0 < u.step) {i : Int} (holds : u.Holds i) : u.first ≤ i ∧ i ≤ u.last :=
      ((holds_iff step).mp holds).imp_right And.left
    by_cases empty : s.last < s.first
    · refine .inl ⟨empty, Int.not_le.mp fun some => ?_⟩
      have within := reach positive (back _ (holds_first positive' some))
      omega
    · have first := reach positive' (forth _ (holds_first positive (Int.not_lt.mp empty)))
      have last := reach positive' (forth _ (holds_last positive (Int.not_lt.mp empty)))
      have first' := reach positive (back _ (holds_first positive' (by omega)))
      have last' := reach positive (back _ (holds_last positive' (by omega)))
      have begins : s.first = t.first := by omega
      have ends : s.last = t.last := by omega
      refine .inr ⟨begins, ends, ?_⟩
      rcases Int.lt_or_eq_of_le (Int.not_lt.mp empty) with two | single
      · have below := step_le_of_holds positive forth begins two
        have above := step_le_of_holds positive' back begins.symm (by omega)
        exact .inr (Int.le_antisymm above below)
      · exact .inl single
  · rintro (⟨empty, empty'⟩ | ⟨begins, ends, rest⟩) i <;> rw [holds_iff positive, holds_iff positive']
    · exact iff_of_false (fun holds => by omega) fun holds => by omega
    · rw [begins, ends]
      refine and_congr_right fun low => and_congr_right fun high => ?_
      rcases rest with single | same
      · have here : i = s.first := by omega
        exact iff_of_true (here ▸ s.dvd_first) (here ▸ begins ▸ t.dvd_first)
      · rw [same]

end Stretch

namespace IntegerRule

def stretch (r : IntegerRule) : Stretch where
  least := r.minimum.getD Number.smallestSigned
  greatest := r.maximum.getD Number.largestSigned
  step := r.multipleOf.getD 1

-- Rules are made of integers of 64 bits, with a positive step and with some choice where there are choices.
structure Proper (r : IntegerRule) : Prop where
  minimum : ∀ lo, r.minimum = some lo → Number.IsSigned lo
  maximum : ∀ hi, r.maximum = some hi → Number.IsSigned hi
  step : ∀ m, r.multipleOf = some m → 0 < m
  choices : ∀ is, r.choices = some is → is ≠ [] ∧ ∀ i ∈ is, Number.IsSigned i

theorem accepts_iff {r : IntegerRule} (free : r.choices = none) {i : Int} (signed : Number.IsSigned i) :
    r.accepts i = true ↔ r.stretch.Holds i := by
  simp only [accepts, free, Bool.and_eq_true, and_assoc]
  refine and_congr ?_ (and_congr ?_ ?_)
  · cases lo : r.minimum <;> simp [stretch, lo, signed.1]
  · cases hi : r.maximum <;> simp [stretch, hi, signed.2]
  · cases stepped : r.multipleOf with
    | none => simp [stretch, stepped]
    | some m =>
      rw [Option.all_some, beq_iff_eq, ← Int.dvd_iff_emod_eq_zero]
      simp [stretch, stepped]

theorem Proper.step_positive {r : IntegerRule} (proper : r.Proper) : 0 < r.stretch.step := by
  cases stepped : r.multipleOf with
  | none => simp [stretch, stepped]
  | some m => simpa [stretch, stepped] using proper.step m stepped

end IntegerRule

theorem ValueType.accepts_ofInt_iff {n : Bool} {r : IntegerRule} {i : Int} :
    (integer n r).accepts (.ofInt i) = true ↔ i ≤ Number.largestSigned ∧ r.accepts i = true := by
  have taken : (integer n r).accepts (.ofInt i) = (Json.ofInt i).int?.any r.accepts := rfl
  rw [taken, Option.any_eq_true]
  simp [int?_eq_some_iff, Json.ofInt]

namespace Sample

theorem clampSigned_of_isSigned {i : Int} (signed : Number.IsSigned i) : clampSigned i = i := by
  obtain ⟨low, high⟩ := signed
  unfold clampSigned
  omega

theorem clampSigned_isSigned (i : Int) : Number.IsSigned (clampSigned i) := by
  unfold clampSigned Number.IsSigned Number.smallestSigned Number.largestSigned
  omega

section
variable {r : IntegerRule} (free : r.choices = none)
include free

theorem zero_mem_integers : .ofInt 0 ∈ integers r := by
  simp [integers, free]

theorem minimum_mem_integers {lo : Int} (bound : r.minimum = some lo) : .ofInt lo ∈ integers r := by
  simp [integers, free, bound]

theorem maximum_mem_integers {hi : Int} (bound : r.maximum = some hi) : .ofInt hi ∈ integers r := by
  simp [integers, free, bound]

theorem multipleBelow_mem_integers {m hi : Int} (stepped : r.multipleOf = some m) (bound : r.maximum = some hi) :
    .ofInt (clampSigned (hi / m * m)) ∈ integers r := by
  simp [integers, free, bound, stepped]

theorem multipleAbove_mem_integers {m lo : Int} (stepped : r.multipleOf = some m) (bound : r.minimum = some lo) :
    .ofInt (clampSigned (clampSigned (lo / m + 1) * m)) ∈ integers r := by
  simp [integers, free, bound, stepped]

end

-- An integer of 64 bits that is proposed for a rule and accepted by it.
def Proposes (r : IntegerRule) (j : Int) : Prop :=
  Number.IsSigned j ∧ r.accepts j = true ∧ .ofInt j ∈ integers r

section
variable {r : IntegerRule} (proper : r.Proper) (free : r.choices = none) {i : Int} (signed : Number.IsSigned i)
  (accepted : r.accepts i = true)
include proper free signed accepted

theorem exists_proposed_below {hi : Int} (upper : r.maximum = some hi) : ∃ j, Proposes r j := by
  obtain ⟨low, high, divides⟩ := (IntegerRule.accepts_iff free signed).mp accepted
  have greatest : r.stretch.greatest = hi := by simp [IntegerRule.stretch, upper]
  have inside := proper.maximum hi upper
  have above : i ≤ r.stretch.last := le_multipleBelow proper.step_positive divides high
  have below : r.stretch.last ≤ hi := greatest ▸ Int.ediv_mul_le _ (Int.ne_of_gt proper.step_positive)
  have fits : Number.IsSigned r.stretch.last := ⟨Int.le_trans signed.1 above, Int.le_trans below inside.2⟩
  have admitted : r.stretch.Holds r.stretch.last :=
    ⟨Int.le_trans low above, Int.le_trans below (Int.le_of_eq greatest.symm), r.stretch.dvd_last⟩
  refine ⟨r.stretch.last, fits, (IntegerRule.accepts_iff free fits).mpr admitted, ?_⟩
  cases stepped : r.multipleOf with
  | none =>
    have last : r.stretch.last = hi := by simp [Stretch.last, IntegerRule.stretch, upper, stepped]
    exact last ▸ maximum_mem_integers free upper
  | some m =>
    have last : r.stretch.last = hi / m * m := by simp [Stretch.last, IntegerRule.stretch, upper, stepped]
    rw [last] at fits ⊢
    simpa only [clampSigned_of_isSigned fits] using multipleBelow_mem_integers free stepped upper

theorem exists_proposed_above (unbounded : r.maximum = none) {lo : Int} (lower : r.minimum = some lo)
    (positive : 0 < lo) : ∃ j, Proposes r j := by
  obtain ⟨low, -, divides⟩ := (IntegerRule.accepts_iff free signed).mp accepted
  have least : r.stretch.least = lo := by simp [IntegerRule.stretch, lower]
  have greatest : r.stretch.greatest = Number.largestSigned := by simp [IntegerRule.stretch, unbounded]
  have admits {j : Int} (fits : Number.IsSigned j) (above : lo ≤ j) (multiple : r.stretch.step ∣ j) :
      r.accepts j = true :=
    (IntegerRule.accepts_iff free fits).mpr ⟨least ▸ above, greatest ▸ fits.2, multiple⟩
  have inside := proper.minimum lo lower
  by_cases itself : r.stretch.step ∣ lo
  · exact ⟨lo, inside, admits inside (Int.le_refl lo) itself, minimum_mem_integers free lower⟩
  · cases stepped : r.multipleOf with
    | none => exact absurd (by simp [IntegerRule.stretch, stepped]) itself
    | some m =>
      have step : r.stretch.step = m := by simp [IntegerRule.stretch, stepped]
      rw [step] at divides itself admits
      have positiveStep := proper.step m stepped
      have apart : lo < i := lt_of_le_of_ne (least ▸ low) fun same => itself (same ▸ divides)
      have below : (lo / m + 1) * m ≤ i := multipleAbove_le positiveStep divides apart
      have above : lo < (lo / m + 1) * m := Int.lt_ediv_add_one_mul_self lo positiveStep
      have fits : Number.IsSigned ((lo / m + 1) * m) :=
        ⟨Int.le_trans inside.1 (Int.le_of_lt above), Int.le_trans below signed.2⟩
      -- The factor does not saturate either, as it is no greater than the multiple.
      have factor : Number.IsSigned (lo / m + 1) := by
        have nonneg : 0 ≤ lo / m := Int.ediv_nonneg (Int.le_of_lt positive) (Int.le_of_lt positiveStep)
        have small : lo / m + 1 ≤ (lo / m + 1) * m := le_mul_of_one_le_right (by omega) positiveStep
        have lowest : Number.smallestSigned ≤ 0 := by decide
        exact ⟨by omega, Int.le_trans small fits.2⟩
      refine ⟨(lo / m + 1) * m, fits, admits fits (Int.le_of_lt above) (Int.dvd_mul_left _ _), ?_⟩
      simpa only [clampSigned_of_isSigned factor, clampSigned_of_isSigned fits] using
        multipleAbove_mem_integers free stepped lower

end

-- Where a rule admits an integer of 64 bits at all, it admits one that is proposed.
theorem exists_proposed {r : IntegerRule} (proper : r.Proper) {i : Int} (signed : Number.IsSigned i)
    (accepted : r.accepts i = true) : ∃ j, Proposes r j := by
  cases free : r.choices with
  | some choices =>
    refine ⟨i, signed, accepted, ?_⟩
    rw [IntegerRule.accepts, free] at accepted
    rw [integers, free]
    exact List.mem_map_of_mem (List.contains_iff_mem.mp accepted)
  | none =>
    cases upper : r.maximum with
    | some hi => exact exists_proposed_below proper free signed accepted upper
    | none =>
      by_cases zero : r.stretch.least ≤ 0
      · have fits : Number.IsSigned 0 := by decide
        have greatest : r.stretch.greatest = Number.largestSigned := by simp [IntegerRule.stretch, upper]
        have admitted : r.stretch.Holds 0 := ⟨zero, greatest ▸ fits.2, Int.dvd_zero _⟩
        exact ⟨0, fits, (IntegerRule.accepts_iff free fits).mpr admitted, zero_mem_integers free⟩
      · cases lower : r.minimum with
        | none => exact absurd (by simp [IntegerRule.stretch, lower, Number.smallestSigned]) zero
        | some lo =>
          have positive : 0 < lo := by simpa [IntegerRule.stretch, lower] using zero
          exact exists_proposed_above proper free signed accepted upper lower positive

theorem smallest_le_of_mem_integers {r : IntegerRule} (proper : r.Proper) {v : Json} (member : v ∈ integers r) :
    ∃ i, v = .ofInt i ∧ Number.smallestSigned ≤ i := by
  have small : Number.smallestSigned ≤ 0 := by decide
  cases free : r.choices with
  | some choices =>
    rw [integers, free] at member
    obtain ⟨i, listed, rfl⟩ := List.mem_map.mp member
    exact ⟨i, rfl, ((proper.choices choices free).2 i listed).1⟩
  | none =>
    rw [integers, free] at member
    obtain ⟨i, listed, rfl⟩ := List.mem_map.mp member
    refine ⟨i, rfl, ?_⟩
    simp only [List.mem_append, Option.mem_toList] at listed
    rcases listed with (((constant | lower) | upper) | middle) | stepped
    · simp only [List.mem_cons, List.not_mem_nil, or_false] at constant
      omega
    · exact (proper.minimum i lower).1
    · exact (proper.maximum i upper).1
    · split at middle
      next => exact List.mem_singleton.mp middle ▸ (clampSigned_isSigned _).1
      next => cases middle
    · split at stepped
      next m step =>
        simp only [List.mem_append, List.mem_cons, List.mem_map] at stepped
        rcases stepped with (rfl | ⟨lo, -, rfl⟩) | ⟨hi, -, rfl⟩
        · have positive := proper.step i step
          omega
        · exact (clampSigned_isSigned _).1
        · exact (clampSigned_isSigned _).1
      next => cases stepped

theorem representatives_integer_ne_nil_iff {r : IntegerRule} (proper : r.Proper) (n : Bool) :
    representatives (.integer n r) ≠ [] ↔ ∃ i, Number.IsSigned i ∧ r.accepts i = true := by
  constructor
  · intro some
    obtain ⟨v, member⟩ := List.exists_mem_of_ne_nil _ some
    obtain ⟨accepted, proposed⟩ := accepted_of_mem_acceptedOnce member
    obtain ⟨i, rfl, low⟩ := smallest_le_of_mem_integers proper proposed
    obtain ⟨high, admitted⟩ := ValueType.accepts_ofInt_iff.mp accepted
    exact ⟨i, ⟨low, high⟩, admitted⟩
  · rintro ⟨i, signed, admitted⟩
    obtain ⟨j, signed', admitted', proposed⟩ := exists_proposed proper signed admitted
    exact acceptedOnce_ne_nil proposed (ValueType.accepts_ofInt_iff.mpr ⟨signed'.2, admitted'⟩)

theorem fill_integer_random {r : IntegerRule} (proper : r.Proper) (n : Bool) {i : Int} (signed : Number.IsSigned i)
    (accepted : r.accepts i = true) (s : RandomSource) : ∃ v s', fill (.integer n r) .random s = .ok (some v, s') ∧
      (ValueType.integer n r).accepts v = true := by
  have representable := (representatives_integer_ne_nil_iff proper n).mpr ⟨i, signed, accepted⟩
  obtain ⟨result, s', done⟩ := fill_succeeds (.integer n r) .random s
  obtain ⟨v, rfl⟩ := fill_random_yields_some representable s result s' done
  exact ⟨v, s', done, fill_random_accepted _ s _ s' done v rfl⟩

end Sample

namespace CasePlan

theorem unsatisfiable_eq_some {op : Operation} {settings : CaseSettings} {u : Unsatisfiable}
    (reported : (ofOperation op settings).unsatisfiable = some u) :
    ∃ p ∈ op.parameters, u = ⟨p.location, p.name⟩ ∧ p.required = true ∧ Sample.fixed p.type .minimal = none := by
  obtain ⟨⟨p, fixed⟩, found, rfl⟩ := Option.map_eq_some_iff.mp reported
  have impossible : Slot.isUnsatisfiable p fixed = true :=
    @List.find?_some _ (fun e : Parameter × Option Json => Slot.isUnsatisfiable e.1 e.2) _ _ found
  simp only [Slot.isUnsatisfiable, Bool.and_eq_true, Option.isNone_iff_eq_none] at impossible
  exact ⟨p, (List.of_mem_zip (List.mem_of_find?_eq_some found)).1, rfl, impossible.1.1, impossible.2⟩

end CasePlan

namespace ValueType

theorem clampToInt64_isSigned (x : Binary64) : Number.IsSigned (clampToInt64 x) := by
  have order : Number.smallestSigned ≤ Number.largestSigned ∧ Number.IsSigned 0 := by decide
  unfold clampToInt64 Binary64.toIntClamped
  split_ifs
  · exact order.2
  · exact ⟨Int.le_refl _, order.1⟩
  · exact ⟨order.1, Int.le_refl _⟩
  all_goals
    dsimp only [Number.IsSigned]
    omega

theorem integerStep_positive {ms : Members} {m : Int} {fractional : Bool}
    (stepped : integerStep ms = (some m, fractional)) : 0 < m := by
  unfold integerStep at stepped
  split at stepped
  next => cases stepped
  next x given =>
    have positive : Binary64.lt 0 x = true := (Option.filter_eq_some_iff.mp given).2
    split at stepped
    next integral =>
      obtain ⟨clamped, -⟩ := Prod.mk.inj stepped
      have denotes := Binary64.denotes_of_isIntegral integral
      have above := (Binary64.denotes_zero.lt_iff denotes).mp positive
      have largest : 0 < Number.largestSigned := by decide
      rw [clampToInt64, denotes.toIntClamped, Option.some.injEq] at clamped
      omega
    next =>
      obtain ⟨odd, -⟩ := Prod.mk.inj stepped
      have some := Binary64.oddPart_pos (Binary64.mantissa_ne_zero positive)
      split at odd
      next => cases odd; omega
      next => cases odd

theorem integerMinimum_isSigned {b : Option Binary64 × Bool} {lo : Int} (bound : integerMinimum b = some lo) :
    Number.IsSigned lo := by
  unfold integerMinimum at bound
  split at bound
  next => cases bound
  next => exact Option.some.inj bound ▸ clampToInt64_isSigned _

theorem integerMaximum_isSigned {b : Option Binary64 × Bool} {hi : Int} (bound : integerMaximum b = some hi) :
    Number.IsSigned hi := by
  unfold integerMaximum at bound
  split at bound
  next => cases bound
  next => exact Option.some.inj bound ▸ clampToInt64_isSigned _

theorem choicesOf_int_proper {ms : Members}
    (listed : ∀ i, .ofInt i ∈ Keyword.elements ms "enum" → Number.smallestSigned ≤ i) {is : List Int}
    (picked : choicesOf Json.int? .noIntegerChoice ms = .ok (some is)) : is ≠ [] ∧ ∀ i ∈ is, Number.IsSigned i := by
  unfold choicesOf at picked
  split at picked
  next => cases picked
  next vs chosen =>
    split at picked
    next => split at picked <;> cases picked
    next picks some =>
      cases picked
      refine ⟨some, fun i member => ?_⟩
      obtain ⟨v, within, read⟩ := List.mem_filterMap.mp member
      obtain ⟨rfl, high⟩ := int?_eq_some_iff.mp read
      obtain ⟨ws, found, rfl⟩ := Option.map_eq_some_iff.mp chosen
      refine ⟨listed i ?_, high⟩
      rw [Keyword.elements, found]
      exact (List.mem_filter.mp within).1

theorem integerRule_eq (ms : Members) :
    integerRule ms = (choicesOf Json.int? .noIntegerChoice ms).map fun choices => {
      minimum :=
        if (integerStep ms).2 then some (max ((integerMinimum (Keyword.bound ms "minimum" "exclusiveMinimum")).getD 0) 0)
        else integerMinimum (Keyword.bound ms "minimum" "exclusiveMinimum")
      maximum := integerMaximum (Keyword.bound ms "maximum" "exclusiveMaximum")
      multipleOf := (integerStep ms).1
      choices } := by
  unfold integerRule
  cases choicesOf Json.int? .noIntegerChoice ms <;> rfl

theorem integerRule_proper {ms : Members}
    (listed : ∀ i, .ofInt i ∈ Keyword.elements ms "enum" → Number.smallestSigned ≤ i) {r : IntegerRule}
    (built : integerRule ms = .ok r) : r.Proper := by
  rw [integerRule_eq] at built
  obtain ⟨choices, picked, rfl⟩ := map_eq_ok_iff.mp built
  have lower {lo : Int} := @integerMinimum_isSigned (Keyword.bound ms "minimum" "exclusiveMinimum") lo
  generalize integerMinimum (Keyword.bound ms "minimum" "exclusiveMinimum") = low at lower
  refine ⟨fun lo bound => ?_, fun hi bound => integerMaximum_isSigned bound,
    fun m stepped => integerStep_positive (Prod.ext stepped rfl), ?_⟩
  · dsimp only at bound
    split at bound
    next =>
      have order : Number.smallestSigned ≤ 0 ∧ 0 ≤ Number.largestSigned := by decide
      have fits : Number.IsSigned (low.getD 0) := by
        cases low with
        | none => exact order
        | some lo => exact lower rfl
      obtain ⟨least, most⟩ := fits
      cases bound
      exact ⟨by omega, by omega⟩
    next => exact lower bound
  · rintro is rfl
    exact choicesOf_int_proper listed picked

end ValueType

namespace Sample

/-- Integers are generated whenever there are any: a representative is found, and a random fill gives a value from
every source, if and only if the rule admits an integer of 64 bits. So where a parameter of an operation is reported
that cannot be generated, its rule admits none. -/
theorem integers_generated_iff {r : IntegerRule} (proper : r.Proper) (n : Bool) :
    (representatives (.integer n r) ≠ [] ↔ ∃ i, Number.IsSigned i ∧ r.accepts i = true) ∧
    ((∃ i, Number.IsSigned i ∧ r.accepts i = true) → ∀ s, ∃ v s',
      fill (.integer n r) .random s = .ok (some v, s') ∧ (ValueType.integer n r).accepts v = true) ∧
    (∀ op settings u, (CasePlan.ofOperation op settings).unsatisfiable = some u → ∃ p ∈ op.parameters,
      u = ⟨p.location, p.name⟩ ∧ p.required = true ∧
      (p.type = .integer n r → ∀ i, Number.IsSigned i → r.accepts i = false)) ∧
    ∀ ms, (∀ i, .ofInt i ∈ Keyword.elements ms "enum" → Number.smallestSigned ≤ i) →
      ∀ r', ValueType.integerRule ms = .ok r' → r'.Proper := by
  refine ⟨representatives_integer_ne_nil_iff proper n, fun ⟨i, signed, accepted⟩ =>
    fill_integer_random proper n signed accepted, fun op settings u reported => ?_, fun ms listed r' built =>
    ValueType.integerRule_proper listed built⟩
  obtain ⟨p, member, named, required, none⟩ := CasePlan.unsatisfiable_eq_some reported
  refine ⟨p, member, named, required, fun type i signed => Bool.eq_false_iff.mpr fun accepted => ?_⟩
  have found := (representatives_integer_ne_nil_iff proper n).mpr ⟨i, signed, accepted⟩
  rw [type] at none
  exact found (List.head?_eq_none_iff.mp none)

def lowSevens : IntegerRule := { maximum := some (Number.smallestSigned + 5), multipleOf := some 7 }

theorem lowSevens_generated : lowSevens.Proper ∧ representatives (.integer false lowSevens) ≠ [] ∧
    ∀ s, ∃ v s', fill (.integer false lowSevens) .random s = .ok (some v, s') ∧
      (ValueType.integer false lowSevens).accepts v = true := by
  have proper : lowSevens.Proper := by
    refine ⟨nofun, fun hi bound => ?_, fun m stepped => ?_, nofun⟩
    · cases bound
      decide
    · cases stepped
      decide
  have some : ∃ i, Number.IsSigned i ∧ lowSevens.accepts i = true :=
    ⟨Number.smallestSigned + 1, by decide, by decide⟩
  obtain ⟨found, generated, -⟩ := integers_generated_iff proper false
  exact ⟨proper, found.mpr some, generated some⟩

end Sample

end SchemaProbe
