import SchemaProbe.Proofs.Binary64.Value

set_option autoImplicit false

namespace SchemaProbe.Binary64

theorem divNearestEven_eq_or (num den : Nat) :
    divNearestEven num den = num / den ∨ divNearestEven num den = num / den + 1 := by
  unfold divNearestEven
  dsimp only
  split_ifs <;> omega

theorem divNearestEven_of_dvd {num den : Nat} (positive : 0 < den) (divides : den ∣ num) :
    divNearestEven num den = num / den := by
  simp [divNearestEven, Nat.mod_eq_zero_of_dvd divides, positive]

def excess (n : Nat) : Nat := n.log2 - 52

def nearestNat (n : Nat) : Nat := divNearestEven n (2 ^ excess n) * 2 ^ excess n

def nearest (i : Int) : Int := if i < 0 then -(nearestNat i.natAbs : Int) else nearestNat i.natAbs

theorem places_bounds {n : Nat} (large : 2 ^ 52 ≤ n) :
    2 ^ 52 ≤ divNearestEven n (2 ^ excess n) ∧ divNearestEven n (2 ^ excess n) ≤ 2 ^ 53 := by
  have positive : n ≠ 0 := by omega
  have log : 52 ≤ n.log2 := (Nat.le_log2 positive).mpr large
  have least : 2 ^ 52 * 2 ^ excess n ≤ n := by
    rw [← Nat.pow_add, excess, Nat.add_sub_cancel' log]
    exact Nat.log2_self_le positive
  have most : n < 2 ^ 53 * 2 ^ excess n := by
    have sum : 53 + excess n = n.log2 + 1 := by unfold excess; omega
    rw [← Nat.pow_add, sum]
    exact Nat.lt_log2_self
  have low : 2 ^ 52 ≤ n / 2 ^ excess n := (Nat.le_div_iff_mul_le (Nat.two_pow_pos _)).mpr least
  have high : n / 2 ^ excess n < 2 ^ 53 := (Nat.div_lt_iff_lt_mul (Nat.two_pow_pos _)).mpr most
  rcases divNearestEven_eq_or n (2 ^ excess n) with same | same <;> omega

theorem nearestNat_of_dvd {n : Nat} (divides : 2 ^ excess n ∣ n) : nearestNat n = n := by
  rw [nearestNat, divNearestEven_of_dvd (Nat.two_pow_pos _) divides, Nat.div_mul_cancel divides]

theorem nearestNat_of_le {n : Nat} (small : n ≤ 2 ^ 53) : nearestNat n = n := by
  refine nearestNat_of_dvd ?_
  rcases Nat.lt_or_eq_of_le small with less | rfl
  · rcases Nat.eq_zero_or_pos n with rfl | positive
    · exact Nat.dvd_zero _
    · have log : n.log2 < 53 := (Nat.log2_lt (Nat.ne_of_gt positive)).mpr less
      have none : excess n = 0 := by unfold excess; omega
      rw [none]
      exact Nat.one_dvd n
  · decide

theorem nearestNat_le (n : Nat) : nearestNat n ≤ 2 * n := by
  by_cases small : n ≤ 2 ^ 53
  · rw [nearestNat_of_le small]
    omega
  · have large : 2 ^ 52 ≤ n := by omega
    have log : 52 ≤ n.log2 := (Nat.le_log2 (by omega)).mpr large
    calc nearestNat n
      _ ≤ 2 ^ 53 * 2 ^ excess n := Nat.mul_le_mul_right _ (places_bounds large).2
      _ = 2 * 2 ^ n.log2 := by rw [← Nat.pow_add, ← Nat.pow_succ', excess]; congr 1; omega
      _ ≤ 2 * n := Nat.mul_le_mul_left 2 (Nat.log2_self_le (by omega))

theorem nearestNat_pos {n : Nat} (positive : 0 < n) : 0 < nearestNat n := by
  by_cases small : n ≤ 2 ^ 53
  · rwa [nearestNat_of_le small]
  · have places := (places_bounds (show 2 ^ 52 ≤ n by omega)).1
    exact Nat.mul_pos (by omega) (Nat.two_pow_pos _)

theorem nearestNat_nearestNat (n : Nat) : nearestNat (nearestNat n) = nearestNat n := by
  by_cases small : n ≤ 2 ^ 53
  · simp only [nearestNat_of_le small]
  · refine nearestNat_of_dvd ?_
    obtain ⟨low, high⟩ := places_bounds (show 2 ^ 52 ≤ n by omega)
    rw [nearestNat]
    generalize divNearestEven n (2 ^ excess n) = m at low high
    generalize excess n = k
    have positive : m * 2 ^ k ≠ 0 := Nat.mul_ne_zero (by omega) (Nat.two_pow_pos k).ne'
    rcases Nat.lt_or_eq_of_le high with less | rfl
    · have log : (m * 2 ^ k).log2 < 53 + k := by
        rw [Nat.log2_lt positive, Nat.pow_add]
        exact (Nat.mul_lt_mul_right (Nat.two_pow_pos k)).mpr less
      have divides : excess (m * 2 ^ k) ≤ k := by unfold excess; omega
      exact Nat.dvd_mul_left_of_dvd (Nat.pow_dvd_pow 2 divides) m
    · rw [← Nat.pow_add, excess, Nat.log2_two_pow]
      exact Nat.pow_dvd_pow 2 (by omega)

theorem lastPlace_nat {n : Nat} (positive : n ≠ 0) : lastPlace n 1 = (n.log2 : Int) - 52 := by
  have reached : 2 ^ n.log2 ≤ n := Nat.log2_self_le positive
  have one : Nat.log2 1 = 0 := by decide
  simp only [lastPlace, one, Int.natCast_zero, Int.sub_zero, Int.natCast_nonneg, if_true, Int.toNat_natCast, Nat.one_mul]
  rw [if_neg (Nat.not_lt.mpr reached)]
  omega

-- Magnitude bits of a natural number: a binade, and the places in it that make up the nearest number.
theorem nearestBits_nat {n : Nat} (positive : n ≠ 0) (finite : n < 2 ^ 1023) :
    ∃ k m, nearestBits n 1 = k * 2 ^ 52 + m ∧ 2 ^ 52 ≤ m ∧ m ≤ 2 ^ 53 ∧ k < 2045 ∧
      m * (2 : Rat) ^ ((k : Int) - 1074) = nearestNat n := by
  have log : n.log2 < 1023 := (Nat.log2_lt positive).mpr finite
  have binade : ((n.log2 : Int) - 52 + 1074).toNat = n.log2 + 1022 := by omega
  rw [nearestBits, if_neg positive, lastPlace_nat positive]
  dsimp only
  rw [binade]
  by_cases large : 2 ^ 52 ≤ n
  · have above : 52 ≤ n.log2 := (Nat.le_log2 positive).mpr large
    obtain ⟨low, high⟩ := places_bounds large
    have place : ((n.log2 : Int) - 52).toNat = excess n := by unfold excess; omega
    rw [if_pos (by omega), place, Nat.one_mul]
    refine ⟨n.log2 + 1022, _, Nat.min_eq_left (by omega), low, high, by omega, ?_⟩
    have power : ((n.log2 + 1022 : Nat) : Int) - 1074 = excess n := by unfold excess; omega
    rw [power, zpow_natCast, nearestNat]
    push_cast
    rfl
  · have below : n.log2 < 52 := (Nat.log2_lt positive).mpr (by omega)
    have place : (-((n.log2 : Int) - 52)).toNat = 52 - n.log2 := by omega
    rw [if_neg (by omega), place, divNearestEven_of_dvd Nat.one_pos (Nat.one_dvd _), Nat.div_one]
    have low : 2 ^ 52 ≤ n * 2 ^ (52 - n.log2) := by
      calc 2 ^ 52
        _ = 2 ^ n.log2 * 2 ^ (52 - n.log2) := by rw [← Nat.pow_add, Nat.add_sub_cancel' below.le]
        _ ≤ n * 2 ^ (52 - n.log2) := Nat.mul_le_mul_right _ (Nat.log2_self_le positive)
    have high : n * 2 ^ (52 - n.log2) < 2 ^ 53 := by
      calc n * 2 ^ (52 - n.log2)
        _ < 2 ^ (n.log2 + 1) * 2 ^ (52 - n.log2) := (Nat.mul_lt_mul_right (Nat.two_pow_pos _)).mpr Nat.lt_log2_self
        _ = 2 ^ 53 := by rw [← Nat.pow_add]; congr 1; omega
    refine ⟨n.log2 + 1022, _, Nat.min_eq_left (by omega), low, high.le, by omega, ?_⟩
    have power : ((n.log2 + 1022 : Nat) : Int) - 1074 = -((52 - n.log2 : Nat) : Int) := by omega
    rw [power, zpow_neg, zpow_natCast, nearestNat_of_le (by omega)]
    push_cast
    exact mul_inv_cancel_right₀ (pow_ne_zero _ two_ne_zero) _

theorem roundQuotient_nat {n : Nat} (finite : n < 2 ^ 1023) (negative : Bool) :
    (roundQuotient negative n 1).isFinite = true ∧
      (roundQuotient negative n 1).toRat = if negative then -(nearestNat n : Rat) else nearestNat n := by
  by_cases positive : n = 0
  · subst positive
    obtain ⟨whole, value⟩ : (roundQuotient negative 0 1).isFinite = true ∧ (roundQuotient negative 0 1).toRat = 0 :=
      zero_value negative
    refine ⟨whole, value.trans ?_⟩
    rw [nearestNat_of_le (by decide)]
    cases negative <;> rfl
  · obtain ⟨k, m, bits, normal, carried, below, value⟩ := nearestBits_nat positive finite
    rw [roundQuotient, bits, ← value]
    exact ofNatBits_binade normal carried below negative

theorem natAbs_nearest (i : Int) : (nearest i).natAbs = nearestNat i.natAbs := by
  unfold nearest
  split <;> omega

theorem natAbs_nearest_le (i : Int) : (nearest i).natAbs ≤ 2 * i.natAbs := natAbs_nearest i ▸ nearestNat_le _

theorem nearest_of_le {i : Int} (small : i.natAbs ≤ 2 ^ 53) : nearest i = i := by
  rw [nearest, nearestNat_of_le small]
  split <;> omega

theorem nearest_nearest (i : Int) : nearest (nearest i) = nearest i := by
  have same := natAbs_nearest i
  rw [nearest, same, nearestNat_nearestNat]
  unfold nearest at same ⊢
  split_ifs <;> omega

theorem nearest_pos {i : Int} (positive : 0 < i) : 0 < nearest i := by
  have some := nearestNat_pos (show 0 < i.natAbs by omega)
  rw [nearest, if_neg (by omega)]
  exact_mod_cast some

def Denotes (x : Binary64) (i : Int) : Prop := x.isFinite = true ∧ x.toRat = i

theorem denotes_ofInt {i : Int} (finite : i.natAbs < 2 ^ 1023) : (ofInt i).Denotes (nearest i) := by
  obtain ⟨whole, value⟩ := roundQuotient_nat finite (decide (i < 0))
  refine ⟨whole, value.trans ?_⟩
  by_cases negative : i < 0 <;> simp [nearest, negative]

theorem denotes_of_isIntegral {x : Binary64} (integral : x.isIntegral = true) : x.Denotes x.toRat.num := by
  obtain ⟨finite, whole⟩ := Bool.and_eq_true_iff.mp integral
  exact ⟨finite, ((Rat.den_eq_one_iff _).mp (beq_iff_eq.mp whole)).symm⟩

theorem denotes_zero : Denotes 0 0 := ⟨zero_finite, toRat_zero⟩

theorem denotes_one : Denotes 1 1 := by
  constructor <;> decide +kernel

theorem denotes_ofRat {i : Int} (finite : i.natAbs < 2 ^ 1023) (zeroSign : Bool) :
    (ofRat i zeroSign).Denotes (nearest i) := by
  rw [ofRat, Rat.num_intCast, Rat.den_intCast]
  split
  next none =>
    subst none
    exact zero_value zeroSign
  next => exact denotes_ofInt finite

section
variable {x : Binary64} (finite : x.isFinite = true)
include finite

theorem denotes_ceil (small : x.toRat.ceil.natAbs ≤ 2 ^ 53) : x.ceil.Denotes x.toRat.ceil := by
  have rounded := denotes_ofRat (i := x.toRat.ceil) (by omega) x.sign
  rw [nearest_of_le small] at rounded
  simpa [Binary64.ceil, toIntegral, finite] using rounded

theorem denotes_floor (small : x.toRat.floor.natAbs ≤ 2 ^ 53) : x.floor.Denotes x.toRat.floor := by
  have rounded := denotes_ofRat (i := x.toRat.floor) (by omega) x.sign
  rw [nearest_of_le small] at rounded
  simpa [Binary64.floor, toIntegral, finite] using rounded

end

namespace Denotes

variable {x y : Binary64} {i j : Int}

theorem isNaN (denotes : x.Denotes i) : x.isNaN = false := isNaN_of_isFinite denotes.1

theorem isInfinite (denotes : x.Denotes i) : x.isInfinite = false := isInfinite_of_isFinite denotes.1

theorem isIntegral (denotes : x.Denotes i) : x.isIntegral = true := by
  simp [Binary64.isIntegral, denotes.1, denotes.2]

theorem lt_iff (left : x.Denotes i) (right : y.Denotes j) : x.lt y = true ↔ i < j := by
  rw [Binary64.lt_iff left.1 right.1, left.2, right.2, Int.cast_lt]

theorem eq_iff (left : x.Denotes i) (right : y.Denotes j) : x.eq y = true ↔ i = j := by
  rw [Binary64.eq_iff left.1 right.1, left.2, right.2, Int.cast_inj]

theorem toIntClamped (denotes : x.Denotes i) (lo hi : Int) : x.toIntClamped lo hi = max lo (min hi i) := by
  simp [Binary64.toIntClamped, denotes.isNaN, denotes.isInfinite, denotes.2, Rat.floor_intCast, Rat.ceil_intCast]

variable (finite : i.natAbs < 2 ^ 1000)
include finite

theorem floor (denotes : x.Denotes i) : x.floor.Denotes (nearest i) := by
  simpa [Binary64.floor, toIntegral, denotes.1, denotes.2, Rat.floor_intCast] using denotes_ofRat (by omega) x.sign

theorem ceil (denotes : x.Denotes i) : x.ceil.Denotes (nearest i) := by
  simpa [Binary64.ceil, toIntegral, denotes.1, denotes.2, Rat.ceil_intCast] using denotes_ofRat (by omega) x.sign

theorem add_one (denotes : x.Denotes i) : (x + 1).Denotes (nearest (i + 1)) := by
  have one := denotes_one
  have sum : x + 1 = ofRat ((i + 1 : Int) : Rat) (x.sign && sign 1) := by
    change add x 1 = _
    simp [add, denotes.isNaN, denotes.isInfinite, one.isNaN, one.isInfinite, denotes.2, one.2]
  rw [sum]
  exact denotes_ofRat (by omega) _

theorem sub_one (denotes : x.Denotes i) : (x - 1).Denotes (nearest (i - 1)) := by
  have minusOne : Denotes (neg 1) (-1) := by
    constructor <;> decide +kernel
  have sum : x - 1 = ofRat ((i - 1 : Int) : Rat) (x.sign && sign (neg 1)) := by
    change add x (neg 1) = _
    simp [add, denotes.isNaN, denotes.isInfinite, minusOne.isNaN, minusOne.isInfinite, denotes.2, minusOne.2,
      sub_eq_add_neg]
  rw [sum]
  exact denotes_ofRat (by omega) _

end Denotes

end SchemaProbe.Binary64
