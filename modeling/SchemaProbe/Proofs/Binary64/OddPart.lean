import Mathlib.Algebra.Order.Field.Power
import Mathlib.RingTheory.Coprime.Lemmas
import Mathlib.Tactic.FieldSimp
import Mathlib.Tactic.Positivity
import SchemaProbe.Proofs.Binary64.Value

set_option autoImplicit false

namespace SchemaProbe.Binary64

theorem bits_fields (x : Binary64) :
    x.bits.toNat = x.sign.toNat * 2 ^ 63 + x.exponentField * 2 ^ 52 + x.fraction ∧
      x.exponentField < 2 ^ 11 ∧ x.fraction < 2 ^ 52 := by
  have word := x.bits.toNat_lt
  have top : x.sign.toNat = x.bits.toNat / 2 ^ 63 := by
    have bit : x.bits.toNat / 2 ^ 63 = 0 ∨ x.bits.toNat / 2 ^ 63 = 1 := by omega
    rcases bit with none | one
    · simp [sign, none]
    · simp [sign, one]
  simp only [top, exponentField, fraction]
  omega

theorem mantissa_lt (x : Binary64) : x.mantissa < 2 ^ 53 := by
  have below := x.bits_fields.2.2
  unfold mantissa
  split <;> omega

theorem mantissa_eq_zero_iff {x : Binary64} : x.mantissa = 0 ↔ x.exponentField = 0 ∧ x.fraction = 0 := by
  unfold mantissa
  split
  next lowest => simp [lowest]
  next normal => simp [normal]

theorem magnitude_pos_iff {x : Binary64} : 0 < x.magnitude ↔ x.mantissa ≠ 0 := by
  have power : (0 : Rat) < 2 ^ x.exponent := zpow_pos two_pos _
  rw [magnitude, scale_eq, mul_pos_iff_of_pos_right power, Nat.cast_pos, Nat.pos_iff_ne_zero]

def IsPositive (x : Binary64) : Prop := 0 < x.bits.toNat ∧ x.bits.toNat < 2047 * 2 ^ 52

instance (x : Binary64) : Decidable x.IsPositive := inferInstanceAs (Decidable (_ ∧ _))

theorem isPositive_iff_fields {x : Binary64} :
    x.IsPositive ↔ x.sign = false ∧ x.isFinite = true ∧ x.mantissa ≠ 0 := by
  obtain ⟨bits, field, fraction⟩ := x.bits_fields
  rw [IsPositive, isFinite, bne_iff_ne, Ne, Ne, mantissa_eq_zero_iff]
  cases signed : x.sign <;> simp [signed] at bits ⊢ <;> omega

theorem isPositive_iff {x : Binary64} : x.IsPositive ↔ x.isFinite = true ∧ 0 < x.toRat := by
  rw [isPositive_iff_fields, ← magnitude_pos_iff, toRat]
  have nonneg : 0 ≤ x.magnitude := by
    rw [magnitude, scale_eq]
    positivity
  cases x.sign <;> simp [nonneg]

theorem toRat_of_isPositive {x : Binary64} (positive : x.IsPositive) : x.toRat = x.magnitude := by
  simp [toRat, (isPositive_iff_fields.mp positive).1]

theorem strip_spec (n m : Nat) (e : Int) (some : m ≠ 0) (small : m < 2 ^ n) :
    (oddPart.strip m e n).1 % 2 = 1 ∧ (oddPart.strip m e n).1 ≤ m ∧
      (m : Rat) * 2 ^ e = (oddPart.strip m e n).1 * 2 ^ (oddPart.strip m e n).2 := by
  induction n generalizing m e with
  | zero => omega
  | succ n ih =>
    rw [oddPart.strip]
    split
    next even =>
      obtain ⟨half, rfl⟩ := Nat.dvd_of_mod_eq_zero even
      have value : ((2 * half : Nat) : Rat) * 2 ^ e = half * 2 ^ (e + 1) := by
        rw [zpow_add_one₀ two_ne_zero]
        push_cast
        ring
      obtain ⟨odd, less, same⟩ := ih half (e + 1) (by omega) (by omega)
      rw [Nat.mul_div_cancel_left half Nat.two_pos, value]
      exact ⟨odd, by omega, same⟩
    next odd => exact ⟨by omega, Nat.le_refl m, rfl⟩

section
variable {x : Binary64} (positive : x.IsPositive)
include positive

theorem oddPart_spec : x.oddPart.1 % 2 = 1 ∧ x.oddPart.1 < 2 ^ 53 ∧ x.toRat = x.oddPart.1 * 2 ^ x.oddPart.2 := by
  have some := (isPositive_iff_fields.mp positive).2.2
  obtain ⟨odd, less, same⟩ := strip_spec 53 x.mantissa x.exponent some x.mantissa_lt
  rw [toRat_of_isPositive positive, magnitude, scale_eq, oddPart, if_neg some]
  exact ⟨odd, Nat.lt_of_le_of_lt less x.mantissa_lt, same⟩

theorem oddPart_exponent_neg (fractional : x.isIntegral = false) : x.oddPart.2 < 0 := by
  by_contra nonneg
  obtain ⟨n, power⟩ := Int.eq_ofNat_of_zero_le (Int.not_lt.mp nonneg)
  have whole : x.toRat = ((x.oddPart.1 * 2 ^ n : Nat) : Rat) := by
    rw [(oddPart_spec positive).2.2, power]
    push_cast
    rfl
  have finite := (isPositive_iff.mp positive).1
  rw [isIntegral, finite, whole, Rat.den_natCast] at fractional
  cases fractional

end

section
variable {b : Nat} (odd : b % 2 = 1)
include odd

theorem dvd_mul_two_pow_iff (i : Int) (n : Nat) : (b : Int) ∣ i * 2 ^ n ↔ (b : Int) ∣ i := by
  have coprime : IsCoprime (b : Int) 2 := ⟨1, -(b / 2 : Int), by omega⟩
  have powers : IsCoprime (b : Int) (2 ^ n) := coprime.pow_right
  exact ⟨powers.dvd_of_dvd_mul_right, fun divides => Dvd.dvd.mul_right divides _⟩

theorem exists_multiple_iff (i : Int) (n : Nat) : (∃ k : Int, (i : Rat) * 2 ^ n = k * b) ↔ (b : Int) ∣ i := by
  rw [← dvd_mul_two_pow_iff odd i n, dvd_iff_exists_eq_mul_left]
  apply exists_congr
  intro k
  exact_mod_cast Iff.rfl

theorem quotient_integral_iff {a : Nat} (odd' : a % 2 = 1) (e f : Int) :
    (∃ k : Int, (a * 2 ^ e : Rat) / (b * 2 ^ f) = k) ↔ f ≤ e ∧ a % b = 0 := by
  have some : (b : Rat) ≠ 0 := by
    norm_cast
    omega
  have scaled (k : Int) : (a * 2 ^ e : Rat) / (b * 2 ^ f) = k ↔ (a : Rat) * 2 ^ (e - f) = k * b := by
    rw [zpow_sub₀ two_ne_zero, div_eq_iff (by positivity)]
    field_simp
  simp only [scaled]
  by_cases le : f ≤ e
  · obtain ⟨n, apart⟩ : ∃ n : Nat, e - f = n := ⟨(e - f).toNat, by omega⟩
    have multiple := exists_multiple_iff odd a n
    simp only [apart, zpow_natCast, le, true_and]
    rw [Int.natCast_dvd_natCast, Nat.dvd_iff_mod_eq_zero] at multiple
    exact multiple
  · -- The power of two that is left over would make `a` even.
    obtain ⟨n, apart⟩ : ∃ n : Nat, e - f = -(n + 1 : Nat) := ⟨(f - e - 1).toNat, by omega⟩
    simp only [le, false_and, iff_false, apart]
    rintro ⟨k, same⟩
    rw [zpow_neg, zpow_natCast, ← div_eq_mul_inv, div_eq_iff (by positivity)] at same
    have whole : (a : Int) = k * b * 2 ^ (n + 1) := by exact_mod_cast same
    have even : (2 : Int) ∣ a := ⟨k * b * 2 ^ n, by rw [whole]; ring⟩
    omega

end

theorem oddParts_divide_iff {x y : Binary64} (positive : x.IsPositive) (positive' : y.IsPositive) :
    (y.oddPart.2 ≤ x.oddPart.2 ∧ x.oddPart.1 % y.oddPart.1 = 0) ↔ ∃ k : Int, x.toRat / y.toRat = k := by
  obtain ⟨odd, -, value⟩ := oddPart_spec positive
  obtain ⟨odd', -, value'⟩ := oddPart_spec positive'
  rw [value, value', quotient_integral_iff odd' odd]

end SchemaProbe.Binary64
