import Mathlib.Data.List.Basic
import SchemaProbe.Text.Digit

set_option autoImplicit false

namespace SchemaProbe.Text

theorem natOfDigits_toDigits (n : Nat) : natOfDigits (Nat.toDigits 10 n) = n := by
  have same : natOfDigits (Nat.toDigits 10 n) = Nat.ofDigitChars 10 (Nat.toDigits 10 n) 0 := by
    simp only [natOfDigits, digitValue, Nat.ofDigitChars, Nat.mul_comm]
  rw [same, Nat.ofDigitChars_ten_toDigits]

theorem toList_toString (n : Nat) : (toString n).toList = Nat.toDigits 10 n := by
  rw [Nat.toString_eq_ofList_toDigits, String.toList_ofList]

theorem isDigit_of_mem_toString {n : Nat} {c : Char} (member : c ∈ (toString n).toList) : c.isDigit = true := by
  rw [toList_toString] at member
  exact Nat.isDigit_of_mem_toDigits (by decide) (by decide) member

-- The first digit of a positive number is no zero.
theorem head?_toDigits_ne_zero {n : Nat} (positive : 0 < n) : (Nat.toDigits 10 n).head? ≠ some '0' := by
  induction n using Nat.strongRecOn with
  | _ n ih =>
    rw [Nat.toDigits_eq_if (by decide)]
    split
    next small =>
      rw [List.head?_cons, Ne, Option.some_inj, Nat.digitChar_eq_zero]
      omega
    next =>
      rw [List.head?_append_of_ne_nil _ Nat.toDigits_ne_nil]
      exact ih (n / 10) (by omega) (by omega)

theorem toList_toString_int (i : Int) :
    (toString i).toList = (if i < 0 then ['-'] else []) ++ Nat.toDigits 10 i.natAbs := by
  cases i with
  | ofNat n =>
    have natural : ¬ Int.ofNat n < 0 := by simp
    rw [if_neg natural]
    exact toList_toString n
  | negSucc n =>
    rw [if_pos (Int.negSucc_lt_zero n)]
    change ("-" ++ toString (n + 1)).toList = _
    rw [String.toList_append, toList_toString]
    rfl

theorem int?_toString (i : Int) : int? (toString i) = some i := by
  have digit {n : Nat} {c : Char} (member : c ∈ Nat.toDigits 10 n) : c.isDigit = true :=
    Nat.isDigit_of_mem_toDigits (by decide) (by decide) member
  have value (n : Nat) : ((Nat.toDigits 10 n).isEmpty || !(Nat.toDigits 10 n).all Char.isDigit) = false := by
    have digits : (Nat.toDigits 10 n).all Char.isDigit = true := List.all_eq_true.mpr fun c => digit
    simp [digits, Nat.toDigits_ne_nil]
  rw [int?, toList_toString_int]
  by_cases negative : i < 0
  · rw [if_pos negative]
    simp only [List.cons_append, List.nil_append, value, Bool.false_eq_true, if_false, natOfDigits_toDigits,
      Option.bind_eq_bind, Option.bind_some, Option.pure_def, Option.map_some, Option.some.injEq]
    omega
  · rw [if_neg negative, List.nil_append]
    -- A digit is no sign.
    split
    next ds signed => exact absurd (digit (signed ▸ List.mem_cons_self)) (by decide)
    next ds signed => exact absurd (digit (signed ▸ List.mem_cons_self)) (by decide)
    next =>
      simp only [value, Bool.false_eq_true, if_false, natOfDigits_toDigits, Option.map_some, Option.some.injEq,
        Int.ofNat_eq_natCast]
      omega

theorem length_padded {base width n : Nat} (wide : 1 < base) (positive : 0 < width) (fits : n < base ^ width) :
    (List.replicate (width - (Nat.toDigits base n).length) '0' ++ Nat.toDigits base n).length = width := by
  have short := (Nat.length_toDigits_le_iff wide positive).mpr fits
  rw [List.length_append, List.length_replicate]
  omega

theorem length_decimal {width n : Nat} (positive : 0 < width) (fits : n < 10 ^ width) :
    (decimal width n).toList.length = width := by
  rw [decimal, String.toList_ofList]
  exact length_padded (by decide) positive fits

theorem length_hex {width n : Nat} (positive : 0 < width) (fits : n < 16 ^ width) : (hex width n).toList.length = width := by
  rw [hex, String.toList_ofList]
  exact length_padded (by decide) positive fits

theorem isDigit_of_mem_decimal {width n : Nat} {c : Char} (member : c ∈ (decimal width n).toList) :
    c.isDigit = true := by
  rw [decimal, String.toList_ofList, List.mem_append, List.mem_replicate] at member
  rcases member with ⟨-, rfl⟩ | digit
  · decide
  · exact Nat.isDigit_of_mem_toDigits (by decide) (by decide) digit

theorem isHexDigit_of_mem_toDigits {n : Nat} {c : Char} (member : c ∈ Nat.toDigits 16 n) : isHexDigit c = true := by
  have each : ∀ d < 16, isHexDigit d.digitChar = true := by decide
  induction n using Nat.strongRecOn with
  | _ n ih =>
    rw [Nat.toDigits_eq_if (by decide)] at member
    split at member
    next small => exact List.mem_singleton.mp member ▸ each n small
    next large =>
      rcases List.mem_append.mp member with before | last
      · exact ih (n / 16) (by omega) before
      · exact List.mem_singleton.mp last ▸ each (n % 16) (Nat.mod_lt _ (by decide))

theorem isHexDigit_of_mem_hex {width n : Nat} {c : Char} (member : c ∈ (hex width n).toList) : isHexDigit c = true := by
  rw [hex, String.toList_ofList, List.mem_append, List.mem_replicate] at member
  rcases member with ⟨-, rfl⟩ | digit
  · decide
  · exact isHexDigit_of_mem_toDigits digit

end SchemaProbe.Text
