import Mathlib.Logic.Function.Basic
import SchemaProbe.Case.Plan

set_option autoImplicit false

namespace SchemaProbe

namespace Seed

theorem xor_cancel (k x : UInt64) : k ^^^ (k ^^^ x) = x := by
  rw [← UInt64.xor_assoc, UInt64.xor_self, UInt64.zero_xor]

-- The bits of a word, laid over those that stand `shift` places below them.
def foldDown (shift x : UInt64) : UInt64 := x ^^^ (x >>> shift)

-- Undoing it takes one shift more; a third one would leave nothing.
def foldBack (shift x : UInt64) : UInt64 := x ^^^ (x >>> shift) ^^^ (x >>> shift >>> shift)

section
variable {shift : UInt64} (small : shift.toNat < 64) (thrice : 64 ≤ shift.toNat + shift.toNat + shift.toNat)
include small thrice

theorem shiftRight_thrice (x : UInt64) : x >>> shift >>> shift >>> shift = 0 := by
  apply UInt64.toNat_inj.mp
  have bound : x.toNat < 2 ^ (shift.toNat + shift.toNat + shift.toNat) :=
    Nat.lt_of_lt_of_le x.toNat_lt (Nat.pow_le_pow_right Nat.two_pos thrice)
  simp only [UInt64.toNat_shiftRight, Nat.mod_eq_of_lt small, Nat.shiftRight_eq_div_pow, Nat.div_div_eq_div_mul,
    ← Nat.pow_add]
  exact Nat.div_eq_of_lt bound

theorem foldDown_bijective : Function.Bijective (foldDown shift) := by
  apply Function.bijective_iff_has_inverse.mpr
  refine ⟨foldBack shift, fun x => ?_, fun x => ?_⟩
  all_goals
    have none := shiftRight_thrice small thrice x
    simp only [foldBack, foldDown, UInt64.shiftRight_xor, none, UInt64.xor_zero, UInt64.xor_assoc]
  · simp only [UInt64.xor_self, UInt64.xor_zero]
  · rw [UInt64.xor_comm (x >>> shift >>> shift), UInt64.xor_assoc, xor_cancel, UInt64.xor_self, UInt64.xor_zero]

end

theorem add_bijective (k : UInt64) : Function.Bijective (· + k) := by
  apply Function.bijective_iff_has_inverse.mpr
  exact ⟨(· - k), fun x => UInt64.add_sub_cancel x k, fun x => UInt64.sub_add_cancel x k⟩

theorem mul_bijective {k inverse : UInt64} (unit : k * inverse = 1) : Function.Bijective (· * k) := by
  apply Function.bijective_iff_has_inverse.mpr
  refine ⟨(· * inverse), fun x => ?_, fun x => ?_⟩
  · simp [UInt64.mul_assoc, unit]
  · simp [UInt64.mul_assoc, UInt64.mul_comm inverse, unit]

theorem xor_bijective (k : UInt64) : Function.Bijective (k ^^^ ·) := by
  apply Function.bijective_iff_has_inverse.mpr
  exact ⟨(k ^^^ ·), xor_cancel k, xor_cancel k⟩

theorem mix_eq : mix = foldDown 31 ∘ (· * 0x94d049bb133111eb) ∘ foldDown 27 ∘ (· * 0xbf58476d1ce4e5b9) ∘
    foldDown 30 ∘ (· + 0x9e3779b97f4a7c15) := rfl

theorem mix_bijective : Function.Bijective mix := by
  have first : Function.Bijective (· * (0xbf58476d1ce4e5b9 : UInt64)) :=
    @mul_bijective _ 0x96de1b173f119089 (by decide)
  have second : Function.Bijective (· * (0x94d049bb133111eb : UInt64)) :=
    @mul_bijective _ 0x319642b2d24d8ec3 (by decide)
  have fold (shift : UInt64) (small : shift.toNat < 64)
      (thrice : 64 ≤ shift.toNat + shift.toNat + shift.toNat) : Function.Bijective (foldDown shift) :=
    foldDown_bijective small thrice
  rw [mix_eq]
  exact (fold 31 (by decide) (by decide)).comp <| second.comp <| (fold 27 (by decide) (by decide)).comp <|
    first.comp <| (fold 30 (by decide) (by decide)).comp <| add_bijective _

theorem ofCase_index_inj {base : UInt64} {i j : Nat} (below : i < 2 ^ 64) (below' : j < 2 ^ 64) :
    ofCase base i = ofCase base j ↔ i = j := by
  have word : UInt64.ofNat i = UInt64.ofNat j ↔ i = j := by
    rw [← UInt64.toNat_inj, UInt64.toNat_ofNat_of_lt' below, UInt64.toNat_ofNat_of_lt' below']
  rw [ofCase, ofCase, mix_bijective.injective.eq_iff, (xor_bijective base).injective.eq_iff,
    mix_bijective.injective.eq_iff, word]

theorem ofCase_base_inj {base base' : UInt64} {i : Nat} : ofCase base i = ofCase base' i ↔ base = base' := by
  rw [ofCase, ofCase, mix_bijective.injective.eq_iff, UInt64.xor_left_inj]

end Seed

namespace CasePlan

-- What the random source of a case is made from.
def caseSeed (plan : CasePlan) (index : Nat) : UInt64 := Seed.ofCase plan.baseSeed index

theorem case?_eq (plan : CasePlan) (index : Nat) :
    plan.case? index = (plan.slots[index]?).map fun slot =>
      ((plan.drawCase index slot).run (RandomSource.ofSeed (plan.caseSeed index))).map Prod.fst := rfl

/-- Mixing maps the words one to one. So any two cases of an operation have different seeds, and the seed of one case
is different in any two runs whose seeds are. -/
theorem case_seeds_distinct : Function.Bijective Seed.mix ∧
    (∀ op settings i j, i < 2 ^ 64 → j < 2 ^ 64 → i ≠ j →
      (ofOperation op settings).caseSeed i ≠ (ofOperation op settings).caseSeed j) ∧
    ∀ op settings settings' i, settings.seed ≠ settings'.seed →
      (ofOperation op settings).caseSeed i ≠ (ofOperation op settings').caseSeed i := by
  refine ⟨Seed.mix_bijective, ?_, ?_⟩
  · intro op settings i j below below' different same
    exact different ((Seed.ofCase_index_inj below below').mp same)
  · intro op settings settings' i different same
    have bases := Seed.ofCase_base_inj.mp same
    exact different ((Seed.xor_bijective (Seed.hashText op.label)).injective bases)

def ping : Operation where
  method := .get
  path := "/ping"
  operationId := none
  parameters := []
  responses := []
  unsupported := none

-- The first index and the last one that a word holds, and run seeds that differ in one bit.
theorem ping_seeds_distinct :
    ((0 < 2 ^ 64 ∧ 2 ^ 64 - 1 < 2 ^ 64 ∧ 0 ≠ 2 ^ 64 - 1) ∧
      (ofOperation ping {}).caseSeed 0 ≠ (ofOperation ping {}).caseSeed (2 ^ 64 - 1)) ∧
    (({ seed := 6 } : CaseSettings).seed ≠ ({ seed := 7 } : CaseSettings).seed ∧
      (ofOperation ping { seed := 6 }).caseSeed 1 ≠ (ofOperation ping { seed := 7 }).caseSeed 1) := by
  obtain ⟨-, cases, runs⟩ := case_seeds_distinct
  refine ⟨⟨by decide, ?_⟩, by decide, ?_⟩
  · exact cases ping {} 0 (2 ^ 64 - 1) (by decide) (by decide) (by decide)
  · exact runs ping { seed := 6 } { seed := 7 } 1 (by decide)

end CasePlan

end SchemaProbe
