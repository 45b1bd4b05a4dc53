import Mathlib.Data.Int.CardIntervalMod
import SchemaProbe.Proofs.Case.Slots
import SchemaProbe.Proofs.ValueType.Fill

set_option autoImplicit false

namespace SchemaProbe

namespace CasePlan

open Draw

theorem draw_succeeds {slot : Slot} {p : Parameter} (scales : slot.kind = .random → p.type.Scales) (i : Nat) :
    (draw slot i p).Succeeds := by
  cases slot with
  | minimal | full | pin => exact succeeds_pure _
  | random =>
    rw [draw_random]
    refine Succeeds.bind ?_ fun wanted => ?_
    · split
      · exact succeeds_pure true
      · exact coin_succeeds
    · split
      · exact (Sample.fill_succeeds (scales rfl) .random).bind fun _ => succeeds_pure _
      · exact succeeds_pure none

theorem drawValues_succeeds {slot : Slot} {ps : List (Parameter × Option Json)}
    (scale : slot.kind = .random → ∀ p, (p, none) ∈ ps → p.type.Scales) (i : Nat) :
    (drawValues slot i ps).Succeeds := by
  induction ps generalizing i with
  | nil => exact succeeds_pure []
  | cons first ps ih =>
    obtain ⟨p, fixed⟩ := first
    have later := ih (fun random q member => scale random q (List.mem_cons_of_mem _ member)) (i + 1)
    rw [drawValues_cons]
    refine Succeeds.bind ?_ fun v => later.bind fun values => succeeds_pure _
    cases fixed with
    | some v => exact succeeds_pure _
    | none => exact draw_succeeds (fun random => scale random p List.mem_cons_self) i

theorem draw_random_fails {p : Parameter} (required : p.required = true) {n : Bool} {r : NumberRule}
    (number : p.type = .number n r) (unscaled : ¬ r.Scales) (i : Nat) : (draw .random i p).Fails := by
  rw [draw_random, required, number, if_pos rfl, pure_bind, if_pos rfl]
  exact (Sample.fill_random_fails unscaled).bind _

theorem drawValues_fails {slot : Slot} {ps : List (Parameter × Option Json)} {p : Parameter} (member : (p, none) ∈ ps)
    (fails : ∀ i, (draw slot i p).Fails) (i : Nat) : (drawValues slot i ps).Fails := by
  induction ps generalizing i with
  | nil => cases member
  | cons first ps ih =>
    obtain ⟨q, fixed⟩ := first
    rw [drawValues_cons]
    rcases List.mem_cons.mp member with same | later
    · obtain ⟨rfl, rfl⟩ := Prod.mk.inj same
      exact (fails i).bind _
    · exact Fails.after _ fun v => (ih later (i + 1)).bind _

section
variable {op : Operation} {settings : CaseSettings}

def Randomizes (plan : CasePlan) : Prop := ∃ slot ∈ plan.slots.toList, slot.kind = .random

theorem exists_cases_of_scales (scale : (ofOperation op settings).Randomizes →
      ∀ p ∈ op.parameters, Slot.fixedValue settings p = none → p.type.Scales) :
    ∃ batch, (ofOperation op settings).cases = .ok batch := by
  refine exists_cases_iff.mpr fun i within => ?_
  have drawn : ((ofOperation op settings).drawCase i (ofOperation op settings).slots[i]).Succeeds := by
    refine word_succeeds.bind fun id => Succeeds.bind (drawValues_succeeds (fun random p paired => ?_) 0) fun values =>
      succeeds_pure _
    rw [ofOperation_operation, zip_fixed] at paired
    obtain ⟨q, member, same⟩ := List.mem_map.mp paired
    obtain ⟨rfl, generated⟩ := Prod.mk.inj same
    exact scale ⟨_, Array.getElem_mem_toList within, random⟩ q member generated
  obtain ⟨c, given, -⟩ := exists_case? (Array.getElem?_eq_getElem within) drawn (yields_true _)
  exact ⟨c, given⟩

theorem cases_of_not_scales {p : Parameter} (member : p ∈ op.parameters) (required : p.required = true)
    (generated : Slot.fixedValue settings p = none) {n : Bool} {r : NumberRule} (number : p.type = .number n r)
    (unscaled : ¬ r.Scales) (random : (ofOperation op settings).Randomizes) :
    (ofOperation op settings).cases = .error .rangeTooWide := by
  obtain ⟨slot, within, kind⟩ := random
  obtain ⟨i, here⟩ := List.mem_iff_getElem?.mp within
  rw [Array.getElem?_toList] at here
  have drawn : ((ofOperation op settings).drawCase i slot).Fails := by
    cases slot with
    | random =>
      refine Fails.after _ fun id => Fails.bind (drawValues_fails ?_ (draw_random_fails required number unscaled) 0) _
      rw [ofOperation_operation, zip_fixed]
      exact List.mem_map.mpr ⟨p, member, by rw [generated]⟩
    | minimal | full | pin => cases kind
  have failed : (ofOperation op settings).case? i = some (.error .rangeTooWide) := by
    rw [case?, here, Option.map_some, StateT.run, drawn]
    rfl
  cases all : (ofOperation op settings).cases with
  | error fault => cases fault; rfl
  | ok batch =>
    obtain ⟨c, given⟩ := exists_cases_iff.mp ⟨batch, all⟩ i (case?_isSome.mp (by simp [failed]))
    cases failed.symm.trans given

end

def aimed (batch : List TestCase) (key : StatusKey) : Nat := batch.countP (·.target == some key)

section
variable {op : Operation} {settings : CaseSettings} {batch : List TestCase}

theorem aimed_eq (distinct : op.statuses.Nodup) (drawn : (ofOperation op settings).cases = .ok batch) {k : Nat}
    (within : k < op.statuses.length) : aimed batch op.statuses[k] =
      (ofOperation op settings).size / op.statuses.length +
        if k < (ofOperation op settings).size % op.statuses.length then 1 else 0 := by
  obtain ⟨size, each⟩ := cases_eq_ok drawn
  have targets : batch.map (·.target) =
      (List.range batch.length).map fun i => op.statuses[i % op.statuses.length]? := by
    refine List.ext_getElem (by simp) fun i first second => ?_
    have here : i < batch.length := by simpa using first
    obtain ⟨-, -, target⟩ := case?_eq_some_ok (each i _ (List.getElem?_eq_getElem here))
    simpa using target
  have turn (i : Nat) : (op.statuses[i % op.statuses.length]? == some op.statuses[k]) = true ↔
      decide (i ≡ k [MOD op.statuses.length]) = true := by
    have place : i % op.statuses.length < op.statuses.length := Nat.mod_lt _ (by omega)
    rw [List.getElem?_eq_getElem place]
    simp [distinct.getElem_inj_iff, Nat.ModEq, Nat.mod_eq_of_lt within]
  calc aimed batch op.statuses[k]
    _ = (batch.map (·.target)).countP (· == some op.statuses[k]) := by rw [List.countP_map]; rfl
    _ = batch.length.count (· ≡ k [MOD op.statuses.length]) := by
      rw [targets, List.countP_map, Nat.count]
      exact List.countP_congr fun i _ => turn i
    _ = _ := by rw [Nat.count_modEq_card _ (by omega), Nat.mod_eq_of_lt within, size]

theorem statuses_le_size (possible : (ofOperation op settings).unsatisfiable = none) :
    max op.statuses.length 1 ≤ (ofOperation op settings).size := by
  have full := Slot.statuses_le_fullLength op (ofOperation op settings).fixed settings
  rw [size_ofOperation possible]
  cases settings.maxCases <;> simp <;> omega

theorem size_eq_zero_iff :
    (ofOperation op settings).size = 0 ↔ (ofOperation op settings).unsatisfiable.isSome = true := by
  cases possible : (ofOperation op settings).unsatisfiable with
  | some u => simp [size, ofOperation_slots, possible]
  | none =>
    have one := statuses_le_size possible
    simp only [Option.isSome_none, Bool.false_eq_true, iff_false]
    omega

end

/-- An operation has no cases if and only if some required parameter can be given no value. Otherwise it has one case
for each documented status at least, and a cap cuts no deeper. The cases are aimed at the statuses in turn and come one
after the other, then nothing more. Only a number that is to be drawn from too wide a range keeps them from coming.
That the statuses are distinct holds of every operation of a document, by `Document.read_statuses_nodup`. -/
theorem cases_cover_statuses (op : Operation) (distinct : op.statuses.Nodup) (settings : CaseSettings) :
    ((ofOperation op settings).size = 0 ↔ (ofOperation op settings).unsatisfiable.isSome = true) ∧
    ((ofOperation op settings).unsatisfiable = none →
      max op.statuses.length 1 ≤ (ofOperation op settings).size ∧
      (ofOperation op { settings with maxCases := none }).size =
        max ((Slot.leading op (ofOperation op settings).fixed).length + settings.randomCases) op.statuses.length ∧
      (ofOperation op settings).size =
        settings.maxCases.elim (ofOperation op { settings with maxCases := none }).size fun cap =>
          min (ofOperation op { settings with maxCases := none }).size (max (max cap op.statuses.length) 1)) ∧
    (∀ batch, (ofOperation op settings).cases = .ok batch →
      batch.length = (ofOperation op settings).size ∧
      (∀ further, (ofOperation op settings).answers 0 ((ofOperation op settings).size + further) =
        .ok (batch.map some ++ List.replicate further none)) ∧
      (∀ i c, batch[i]? = some c → c.index = min i (2 ^ 32 - 1)) ∧
      ((ofOperation op settings).unsatisfiable = none → ∀ key ∈ op.statuses, 1 ≤ aimed batch key) ∧
      ∀ key ∈ op.statuses, ∀ key' ∈ op.statuses, aimed batch key ≤ aimed batch key' + 1) ∧
    (((ofOperation op settings).Randomizes →
        ∀ p ∈ op.parameters, Slot.fixedValue settings p = none → p.type.Scales) →
      ∃ batch, (ofOperation op settings).cases = .ok batch) ∧
    ((ofOperation op settings).Randomizes → ∀ p ∈ op.parameters, p.required = true →
      Slot.fixedValue settings p = none → ∀ n r, p.type = .number n r → ¬ r.Scales →
      (ofOperation op settings).cases = .error .rangeTooWide) := by
  refine ⟨size_eq_zero_iff, fun possible => ⟨statuses_le_size possible, ?_⟩, fun batch drawn => ?_,
    exists_cases_of_scales, fun random p member required generated n r number unscaled =>
      cases_of_not_scales member required generated number unscaled random⟩
  · have uncapped : (ofOperation op { settings with maxCases := none }).size =
        Slot.fullLength op (ofOperation op settings).fixed settings := size_ofOperation possible
    refine ⟨?_, by rw [size_ofOperation possible, uncapped]⟩
    rw [uncapped, Slot.fullLength, Slot.randomCount]
    omega
  · obtain ⟨size, each⟩ := cases_eq_ok drawn
    refine ⟨size, fun further => ?_, fun i c here => (case?_eq_some_ok (each i c here)).2.1,
      fun possible key member => ?_, fun key member key' member' => ?_⟩
    · rw [← size]
      exact answers_cases (by simpa using each) (by omega) further
    · obtain ⟨k, within, rfl⟩ := List.mem_iff_getElem.mp member
      have turns : 1 ≤ (ofOperation op settings).size / op.statuses.length :=
        (Nat.one_le_div_iff (by omega)).mpr (Nat.le_trans (Nat.le_max_left _ _) (statuses_le_size possible))
      rw [aimed_eq distinct drawn within]
      omega
    · obtain ⟨k, within, rfl⟩ := List.mem_iff_getElem.mp member
      obtain ⟨k', within', rfl⟩ := List.mem_iff_getElem.mp member'
      rw [aimed_eq distinct drawn within, aimed_eq distinct drawn within']
      split <;> split <;> omega

def wideRule : NumberRule := { minimum := some ⟨0xffe1ccf385ebc8a0⟩, maximum := some ⟨0x7fe1ccf385ebc8a0⟩ }

theorem wideRule_not_scales : ¬ wideRule.Scales := fun scales =>
  absurd (scales ⟨rfl, by decide +kernel, by decide +kernel, by decide +kernel⟩) (by decide +kernel)

def spans : Operation where
  method := .get
  path := "/spans"
  operationId := none
  parameters := [{
    name := "size"
    location := .query
    required := true
    type := .number false wideRule
    schema := .null }]
  responses := [(.code 200, {}), (.code 404, {}), (.default, {})]
  unsupported := none

theorem spans_cases_cover_statuses : spans.statuses.Nodup ∧
    (∃ batch, (ofOperation spans { randomCases := 0 }).cases = .ok batch ∧ batch.length = 4 ∧
      (ofOperation spans { randomCases := 0 }).answers 0 (4 + 2) = .ok (batch.map some ++ [none, none]) ∧
      ∀ key ∈ spans.statuses, 1 ≤ aimed batch key) ∧
    (ofOperation spans { randomCases := 1 }).size = 5 ∧
    (ofOperation spans { randomCases := 1 }).cases = .error .rangeTooWide := by
  have distinct : spans.statuses.Nodup := by decide
  have four : (ofOperation spans { randomCases := 0 }).size = 4 := by decide +kernel
  have settled : ¬ (ofOperation spans { randomCases := 0 }).Randomizes := by
    unfold Randomizes
    decide +kernel
  have random : (ofOperation spans { randomCases := 1 }).Randomizes := by
    unfold Randomizes
    decide +kernel
  obtain ⟨-, -, whole, given, -⟩ := cases_cover_statuses spans distinct { randomCases := 0 }
  obtain ⟨batch, drawn⟩ := given fun random => absurd random settled
  obtain ⟨size, answers, -, aims, -⟩ := whole batch drawn
  rw [four] at size answers
  refine ⟨distinct, ⟨batch, drawn, size, answers 2, aims (by decide +kernel)⟩, by decide +kernel, ?_⟩
  obtain ⟨-, -, -, -, failing⟩ := cases_cover_statuses spans distinct { randomCases := 1 }
  exact failing random _ List.mem_cons_self rfl rfl _ _ rfl wideRule_not_scales

end CasePlan

end SchemaProbe
