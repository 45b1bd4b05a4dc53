import Mathlib.Algebra.Order.Field.Rat
import Mathlib.Data.Rat.Floor
import Mathlib.Tactic.Ring
import SchemaProbe.Binary64.Basic

set_option autoImplicit false

namespace SchemaProbe.Binary64

theorem isNaN_of_isFinite {x : Binary64} (finite : x.isFinite = true) : x.isNaN = false := by
  simp_all [isFinite, isNaN]

theorem isInfinite_of_isFinite {x : Binary64} (finite : x.isFinite = true) : x.isInfinite = false := by
  simp_all [isFinite, isInfinite]

section
variable {x y : Binary64} (left : x.isFinite = true) (right : y.isFinite = true)
include left right

theorem compare?_eq : x.compare? y =
    some (if x.toRat < y.toRat then .lt else if x.toRat = y.toRat then .eq else .gt) := by
  simp [compare?, isNaN_of_isFinite, isInfinite_of_isFinite, left, right]

theorem lt_iff : x.lt y = true ↔ x.toRat < y.toRat := by
  rw [lt, compare?_eq left right]
  split_ifs <;> simp_all

theorem le_iff : x.le y = true ↔ x.toRat ≤ y.toRat := by
  rw [le, compare?_eq left right, Rat.le_iff_lt_or_eq]
  split_ifs <;> simp_all

theorem eq_iff : x.eq y = true ↔ x.toRat = y.toRat := by
  rw [eq, compare?_eq left right]
  split_ifs with less <;> simp_all [ne_of_lt]

end

theorem scale_eq (m : Nat) (e : Int) : scale m e = m * (2 : Rat) ^ e := by
  unfold scale
  split
  next nonneg =>
    obtain ⟨k, rfl⟩ := Int.eq_ofNat_of_zero_le nonneg
    simp
  next negative =>
    obtain ⟨k, rfl⟩ : ∃ k : Nat, e = -k := ⟨(-e).toNat, by omega⟩
    simp [div_eq_mul_inv]

section
variable {b : Nat} (small : b < 2 ^ 63) (negative : Bool)
include small

theorem bits_ofNatBits : (ofNatBits negative b).bits.toNat = b + if negative then 2 ^ 63 else 0 := by
  have below : b < 2 ^ 64 := by omega
  cases negative with
  | false => simp [ofNatBits, Nat.mod_eq_of_lt below]
  | true =>
    have joined : b ||| 2 ^ 63 = b + 2 ^ 63 := by
      rw [Nat.or_comm, Nat.add_comm]
      exact (Nat.two_pow_add_eq_or_of_lt small 1).symm
    simpa [ofNatBits, Nat.mod_eq_of_lt below] using joined

theorem sign_ofNatBits : (ofNatBits negative b).sign = negative := by
  rw [sign, bits_ofNatBits small]
  cases negative <;> simp <;> omega

theorem exponentField_ofNatBits : (ofNatBits negative b).exponentField = b / 2 ^ 52 := by
  rw [exponentField, bits_ofNatBits small]
  cases negative <;> simp <;> omega

theorem fraction_ofNatBits : (ofNatBits negative b).fraction = b % 2 ^ 52 := by
  rw [fraction, bits_ofNatBits small]
  cases negative <;> simp
  omega

end

-- Magnitude bits count the places of `m` in binade `k`; a carry out of the mantissa leads to the next binade.
theorem ofNatBits_binade {k m : Nat} (normal : 2 ^ 52 ≤ m) (carried : m ≤ 2 ^ 53) (below : k < 2045) (negative : Bool) :
    (ofNatBits negative (k * 2 ^ 52 + m)).isFinite = true ∧
      (ofNatBits negative (k * 2 ^ 52 + m)).toRat =
        if negative then -(m * (2 : Rat) ^ ((k : Int) - 1074)) else m * (2 : Rat) ^ ((k : Int) - 1074) := by
  have small : k * 2 ^ 52 + m < 2 ^ 63 := by omega
  have field := exponentField_ofNatBits small negative
  have fraction := fraction_ofNatBits small negative
  have magnitude : (ofNatBits negative (k * 2 ^ 52 + m)).magnitude = m * (2 : Rat) ^ ((k : Int) - 1074) := by
    rw [Binary64.magnitude, scale_eq, mantissa, exponent, field, fraction]
    rcases Nat.lt_or_eq_of_le carried with less | rfl
    · have place : (k * 2 ^ 52 + m) / 2 ^ 52 = k + 1 := by omega
      have rest : (k * 2 ^ 52 + m) % 2 ^ 52 + 2 ^ 52 = m := by omega
      rw [place, if_neg (Nat.succ_ne_zero k), if_neg (Nat.succ_ne_zero k), rest]
      congr 2
      omega
    · have place : (k * 2 ^ 52 + 2 ^ 53) / 2 ^ 52 = k + 2 := by omega
      have rest : (k * 2 ^ 52 + 2 ^ 53) % 2 ^ 52 + 2 ^ 52 = 2 ^ 52 := by omega
      rw [place, if_neg (Nat.succ_ne_zero _), if_neg (Nat.succ_ne_zero _), rest]
      have next : ((k + 2 : Nat) : Int) - 1075 = (k : Int) - 1074 + 1 := by omega
      rw [next, zpow_add₀ two_ne_zero]
      push_cast
      ring
  refine ⟨?_, by rw [toRat, magnitude, sign_ofNatBits small]⟩
  rw [isFinite, field, bne_iff_ne]
  omega

theorem zero_value (negative : Bool) : (zero negative).isFinite = true ∧ (zero negative).toRat = 0 := by
  cases negative <;> decide +kernel

theorem zero_finite : isFinite 0 = true := by decide +kernel

theorem toRat_zero : toRat 0 = 0 := by decide +kernel

theorem mantissa_ne_zero {x : Binary64} (positive : Binary64.lt 0 x = true) : x.mantissa ≠ 0 := by
  intro none
  have lowest : x.exponentField = 0 := by
    unfold mantissa at none
    split at none
    next lowest => exact lowest
    next => omega
  have finite : x.isFinite = true := by simp [isFinite, lowest]
  have value : x.toRat = 0 := by simp [toRat, magnitude, none, scale_eq]
  rw [lt_iff zero_finite finite, toRat_zero, value] at positive
  exact Rat.lt_irrefl positive

theorem oddPart_pos {x : Binary64} (some : x.mantissa ≠ 0) : 0 < x.oddPart.1 := by
  have strip_pos (n : Nat) : ∀ m e, m ≠ 0 → 0 < (oddPart.strip m e n).1 := by
    induction n with
    | zero => exact fun m e some => Nat.pos_of_ne_zero some
    | succ n ih =>
      intro m e some
      unfold oddPart.strip
      split
      · exact ih _ _ (by omega)
      · exact Nat.pos_of_ne_zero some
  rw [oddPart, if_neg some]
  exact strip_pos _ _ _ some

end SchemaProbe.Binary64
