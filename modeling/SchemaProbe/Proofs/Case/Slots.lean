import SchemaProbe.Proofs.Case.Batch

set_option autoImplicit false

namespace SchemaProbe

namespace Slot

section
variable (op : Operation) (fixed : List (Option Json)) (settings : CaseSettings)

def leading : List Slot :=
  let parameters := op.parameters.zip fixed
  [.minimal] ++ (if parameters.any fun (p, f) => hasOptional p f then [.full] else []) ++
    parameters.zipIdx.flatMap fun ((p, f), i) => pins i p f

theorem mem_leading_iff {op : Operation} {fixed : List (Option Json)} {slot : Slot} :
    slot ∈ leading op fixed ↔ slot = .minimal ∨
      (slot = .full ∧ ∃ p f, (p, f) ∈ op.parameters.zip fixed ∧ hasOptional p f = true) ∨
      ∃ i p f, (op.parameters.zip fixed)[i]? = some (p, f) ∧ slot ∈ pins i p f := by
  have full : slot ∈ (if (op.parameters.zip fixed).any (fun (p, f) => hasOptional p f) then [Slot.full] else []) ↔
      slot = .full ∧ ∃ p f, (p, f) ∈ op.parameters.zip fixed ∧ hasOptional p f = true := by
    rw [List.mem_ite_nil_right, List.mem_singleton, List.any_eq_true, and_comm, Prod.exists]
  have pinned : slot ∈ (op.parameters.zip fixed).zipIdx.flatMap (fun ((p, f), i) => pins i p f) ↔
      ∃ i p f, (op.parameters.zip fixed)[i]? = some (p, f) ∧ slot ∈ pins i p f := by
    rw [List.mem_flatMap]
    constructor
    · rintro ⟨⟨⟨p, f⟩, i⟩, place, member⟩
      exact ⟨i, p, f, List.mk_mem_zipIdx_iff_getElem?.mp place, member⟩
    · rintro ⟨i, p, f, place, member⟩
      exact ⟨((p, f), i), List.mk_mem_zipIdx_iff_getElem?.mpr place, member⟩
  rw [leading, List.mem_append, List.mem_append, List.mem_singleton, full, pinned, or_assoc]

theorem planned_eq : planned op fixed settings = leading op fixed ++ List.replicate settings.randomCases .random := rfl

def randomCount : Nat := max settings.randomCases (op.statuses.length - (leading op fixed).length)

theorem padded_planned : padded op.statuses.length (planned op fixed settings) =
    leading op fixed ++ List.replicate (randomCount op fixed settings) .random := by
  rw [padded, planned_eq, List.append_assoc, List.replicate_append_replicate, List.length_append, List.length_replicate]
  congr 2
  unfold randomCount
  omega

theorem ofOperation_of_uncapped (uncapped : settings.maxCases = none) :
    ofOperation op fixed settings = leading op fixed ++ List.replicate (randomCount op fixed settings) .random := by
  rw [ofOperation, padded_planned, capped, uncapped]

theorem ofOperation_of_capped {cap : Nat} (limited : settings.maxCases = some cap) :
    ofOperation op fixed settings = List.take (max (max cap op.statuses.length) 1)
      (leading op fixed ++ List.replicate (randomCount op fixed settings) .random) := by
  rw [ofOperation, padded_planned, capped, limited]

theorem ofOperation_prefix_leading {k : Nat} (enough : randomCount op fixed settings ≤ k) :
    ofOperation op fixed settings <+: leading op fixed ++ List.replicate k .random := by
  have whole : leading op fixed ++ List.replicate (randomCount op fixed settings) .random <+:
      leading op fixed ++ List.replicate k Slot.random := by
    rw [List.prefix_append_right_inj]
    exact ⟨List.replicate (k - randomCount op fixed settings) .random, by simp [enough]⟩
  cases limited : settings.maxCases with
  | none => rwa [ofOperation_of_uncapped op fixed settings limited]
  | some cap =>
    rw [ofOperation_of_capped op fixed settings limited]
    refine List.IsPrefix.trans ?_ whole
    exact List.take_prefix _ _

def fullLength : Nat := (leading op fixed).length + randomCount op fixed settings

theorem length_ofOperation : (ofOperation op fixed settings).length =
    settings.maxCases.elim (fullLength op fixed settings) fun cap =>
      min (fullLength op fixed settings) (max (max cap op.statuses.length) 1) := by
  cases limited : settings.maxCases with
  | none => simp [ofOperation_of_uncapped op fixed settings limited, fullLength]
  | some cap => simp [ofOperation_of_capped op fixed settings limited, fullLength, Nat.min_comm]

theorem statuses_le_fullLength : max op.statuses.length 1 ≤ fullLength op fixed settings := by
  have first : 1 ≤ (leading op fixed).length := by simp [leading]
  unfold fullLength randomCount
  omega

end

end Slot

namespace CasePlan

@[simp] theorem ofOperation_operation (op : Operation) (settings : CaseSettings) :
    (ofOperation op settings).operation = op := rfl

theorem ofOperation_slots (op : Operation) (settings : CaseSettings) :
    (ofOperation op settings).slots =
      if (ofOperation op settings).unsatisfiable.isSome then #[]
      else (Slot.ofOperation op (op.parameters.map (Slot.fixedValue settings)) settings).toArray := rfl

theorem zip_fixed (op : Operation) (settings : CaseSettings) :
    op.parameters.zip (ofOperation op settings).fixed =
      op.parameters.map fun p => (p, Slot.fixedValue settings p) := by
  change op.parameters.zip (op.parameters.map (Slot.fixedValue settings)) = _
  induction op.parameters with
  | nil => rfl
  | cons p ps ih => rw [List.map_cons, List.map_cons, List.zip_cons_cons, ih]

theorem case?_congr {plan plan' : CasePlan} (operation : plan.operation = plan'.operation)
    (fixed : plan.fixed = plan'.fixed) (seed : plan.baseSeed = plan'.baseSeed) {i : Nat}
    (slot : plan.slots[i]? = plan'.slots[i]?) : plan.case? i = plan'.case? i := by
  simp only [case?, drawCase, operation, fixed, seed, slot]

theorem draws_prefix_of_slots {plan plan' : CasePlan} (operation : plan.operation = plan'.operation)
    (fixed : plan.fixed = plan'.fixed) (seed : plan.baseSeed = plan'.baseSeed)
    (slots : plan.slots.toList <+: plan'.slots.toList) : plan.draws <+: plan'.draws := by
  rw [List.prefix_iff_getElem?]
  intro i within
  have planned : i < plan.slots.size := by rwa [length_draws] at within
  have same : plan'.slots[i]? = plan.slots[i]? := by
    have both := List.prefix_iff_getElem?.mp slots i planned
    simpa [Array.getElem?_eq_getElem planned] using both
  rw [getElem?_draws, ← case?_congr operation fixed seed same.symm, ← getElem?_draws, List.getElem?_eq_getElem within]

-- What the slots of an operation are a part of, cut somewhere.
def ample (op : Operation) (settings : CaseSettings) (k : Nat) : List Slot :=
  if (ofOperation op settings).unsatisfiable.isSome then []
  else Slot.leading op (ofOperation op settings).fixed ++ List.replicate k .random

theorem slots_prefix_ample (op : Operation) (settings : CaseSettings) {k : Nat}
    (enough : Slot.randomCount op (ofOperation op settings).fixed settings ≤ k) :
    (ofOperation op settings).slots.toList <+: ample op settings k := by
  rw [ofOperation_slots, ample]
  split
  next => exact List.prefix_rfl
  next => exact Slot.ofOperation_prefix_leading op _ settings enough

theorem size_ofOperation {op : Operation} {settings : CaseSettings}
    (possible : (ofOperation op settings).unsatisfiable = none) : (ofOperation op settings).size =
      settings.maxCases.elim (Slot.fullLength op (ofOperation op settings).fixed settings) fun cap =>
        min (Slot.fullLength op (ofOperation op settings).fixed settings) (max (max cap op.statuses.length) 1) := by
  rw [size, ofOperation_slots, possible]
  exact Slot.length_ofOperation op _ settings

structure SameDraws (s s' : CaseSettings) : Prop where
  seed : s.seed = s'.seed
  paths : ∀ name, s.pathTexts.lookup name = s'.pathTexts.lookup name

section
variable {s s' : CaseSettings} (same : SameDraws s s') (op : Operation)
include same

theorem SameDraws.fixed : (ofOperation op s).fixed = (ofOperation op s').fixed := by
  refine List.map_congr_left fun p _ => ?_
  rw [Slot.fixedValue, same.paths]
  rfl

theorem SameDraws.unsatisfiable : (ofOperation op s).unsatisfiable = (ofOperation op s').unsatisfiable := by
  have fixed : op.parameters.map (Slot.fixedValue s) = op.parameters.map (Slot.fixedValue s') := same.fixed op
  simp only [ofOperation, fixed]

theorem SameDraws.baseSeed : (ofOperation op s).baseSeed = (ofOperation op s').baseSeed := by
  simp only [ofOperation, same.seed]

theorem SameDraws.draws_prefix_of_slots
    (slots : (ofOperation op s).slots.toList <+: (ofOperation op s').slots.toList) :
    (ofOperation op s).draws <+: (ofOperation op s').draws :=
  CasePlan.draws_prefix_of_slots rfl (same.fixed op) (same.baseSeed op) slots

theorem SameDraws.ample (k : Nat) : ample op s k = ample op s' k := by
  rw [CasePlan.ample, CasePlan.ample, same.unsatisfiable op, same.fixed op]

theorem SameDraws.slots_prefix_of_size_le (shorter : (ofOperation op s).size ≤ (ofOperation op s').size) :
    (ofOperation op s).slots.toList <+: (ofOperation op s').slots.toList := by
  have first := slots_prefix_ample op s (Nat.le_max_left _ (Slot.randomCount op (ofOperation op s').fixed s'))
  have second := slots_prefix_ample op s' (Nat.le_max_right (Slot.randomCount op (ofOperation op s).fixed s) _)
  rw [← same.ample] at second
  exact List.prefix_of_prefix_length_le first second shorter

theorem SameDraws.size_le (random : s.randomCases ≤ s'.randomCases)
    (cap : ∀ cap', s'.maxCases = some cap' → ∃ cap ≤ cap', s.maxCases = some cap) :
    (ofOperation op s).size ≤ (ofOperation op s').size := by
  cases possible : (ofOperation op s).unsatisfiable with
  | some u => simp [size, ofOperation_slots, possible]
  | none =>
    have longer : Slot.fullLength op (ofOperation op s).fixed s ≤ Slot.fullLength op (ofOperation op s).fixed s' := by
      unfold Slot.fullLength Slot.randomCount
      omega
    rw [size_ofOperation possible, size_ofOperation (same.unsatisfiable op ▸ possible), ← same.fixed op]
    cases limited' : s'.maxCases with
    | none =>
      cases limited : s.maxCases with
      | none => exact longer
      | some _ => exact Nat.le_trans (Nat.min_le_left _ _) longer
    | some cap' =>
      obtain ⟨cap, below, limited⟩ := cap cap' limited'
      simp only [limited, Option.elim_some]
      omega

end

/-- Two plans of an operation whose settings differ at most in the numbers of cases asked for give the same cases as
long as both have any; fewer random cases or a lower cap only cut the sequence short. -/
theorem draws_comparable (op : Operation) {s s' : CaseSettings} (seed : s.seed = s'.seed)
    (paths : ∀ name, s.pathTexts.lookup name = s'.pathTexts.lookup name) :
    ((ofOperation op s).draws <+: (ofOperation op s').draws ∨ (ofOperation op s').draws <+: (ofOperation op s).draws) ∧
    (∀ i c c', (ofOperation op s).case? i = some (.ok c) → (ofOperation op s').case? i = some (.ok c') → c = c') ∧
    (s.randomCases ≤ s'.randomCases → (∀ cap', s'.maxCases = some cap' → ∃ cap ≤ cap', s.maxCases = some cap) →
      (ofOperation op s).draws <+: (ofOperation op s').draws) := by
  have same : SameDraws s s' := ⟨seed, paths⟩
  have same' : SameDraws s' s := ⟨seed.symm, fun name => (paths name).symm⟩
  have comparable : (ofOperation op s).draws <+: (ofOperation op s').draws ∨
      (ofOperation op s').draws <+: (ofOperation op s).draws := by
    rcases Nat.le_total (ofOperation op s).size (ofOperation op s').size with shorter | longer
    · exact .inl (same.draws_prefix_of_slots op (same.slots_prefix_of_size_le op shorter))
    · exact .inr (same'.draws_prefix_of_slots op (same'.slots_prefix_of_size_le op longer))
  have kept {draws draws' : List (Except DrawFault TestCase)} (cut : draws <+: draws') {i : Nat}
      {x : Except DrawFault TestCase} (here : draws[i]? = some x) : draws'[i]? = some x := by
    obtain ⟨further, rfl⟩ := cut
    rwa [List.getElem?_append_left (List.getElem?_eq_some_iff.mp here).1]
  refine ⟨comparable, fun i c c' here here' => ?_, fun random cap => ?_⟩
  · rw [← getElem?_draws] at here here'
    rcases comparable with shorter | longer
    · cases (kept shorter here).symm.trans here'
      rfl
    · cases (kept longer here').symm.trans here
      rfl
  · exact same.draws_prefix_of_slots op (same.slots_prefix_of_size_le op (same.size_le op random cap))

def pages : Operation where
  method := .get
  path := "/pages"
  operationId := none
  parameters := [{
    name := "size"
    location := .query
    required := false
    type := .integer false { minimum := some 1, maximum := some 9 }
    schema := .null }]
  responses := [(.code 200, {}), (.code 404, {}), (.default, {})]
  unsupported := none

theorem pages_draws_comparable :
    (ofOperation pages { seed := 7, maxCases := some 1, randomCases := 0 }).size = 3 ∧
    (ofOperation pages { seed := 7, randomCases := 9 }).size = 13 ∧
    (ofOperation pages { seed := 7, maxCases := some 1, randomCases := 0 }).draws <+:
      (ofOperation pages { seed := 7, randomCases := 9 }).draws :=
  ⟨by decide +kernel, by decide +kernel,
    (@draws_comparable pages { seed := 7, maxCases := some 1, randomCases := 0 } { seed := 7, randomCases := 9 }
      rfl fun _ => rfl).2.2 (by decide) fun _ uncapped => nomatch uncapped⟩

end CasePlan

end SchemaProbe
