import SchemaProbe.Proofs.Run.Plan

set_option autoImplicit false

namespace SchemaProbe

theorem Check.judge_check (op : Operation) (r : Reply) (c : Check) : (judge op r c).check = c := by
  unfold judge
  split <;> rfl

namespace Probe

variable {p : Probe}

theorem casePlan_of_mem_cases {cases : List TestCase} (drawn : p.cases = .ok cases) {c : TestCase} (member : c ∈ cases) :
    c.operation ∈ p.api.operations ∧ ∃ plan, p.casePlan c.operation = .ok plan := by
  obtain ⟨lists, all, rfl⟩ := map_eq_ok_iff.mp drawn
  obtain ⟨batch, listed, within⟩ := List.mem_flatten.mp member
  obtain ⟨plan, planned, batched⟩ := exists_of_mem_mapM all listed
  obtain ⟨i, here⟩ := List.mem_iff_getElem?.mp within
  have own : c.operation = plan.operation :=
    (CasePlan.case?_eq_some_ok ((CasePlan.cases_eq_ok batched).2 i c here)).1
  obtain ⟨op, stands, given⟩ := List.mem_filterMap.mp planned
  have ready : p.casePlan op = .ok plan := toOption_eq_some_iff.mp given
  rw [own, casePlan_eq_ok ready]
  exact ⟨stands, plan, ready⟩

theorem outcomeOf_judged {checks : List Check} {op : Operation} {cutShort : Bool} {answer : Except SendFault Reply}
    (checked : (outcomeOf checks op cutShort answer).isChecked = true) :
    (outcomeOf checks op cutShort answer).results.map (·.check) = checks := by
  cases answer with
  | ok reply => simp [outcomeOf, Outcome.results, Function.comp_def, Check.judge_check]
  | error fault =>
    rw [outcomeOf] at checked
    split at checked <;> cases checked

theorem recordOf_judged {service : Service} {c : TestCase} {now : Nat}
    {answer : Request → Nat → Except SendFault Reply}
    (checked : (p.recordOf service c now answer).outcome.isChecked = true) :
    (p.recordOf service c now answer).outcome.results.map (·.check) = p.settings.checks := by
  rw [recordOf, service.prepare_eq_ok] at checked ⊢
  simp only [outcome] at checked ⊢
  split at checked
  next => cases checked
  next => exact outcomeOf_judged checked

theorem recordOf_operation (service : Service) (c : TestCase) (now : Nat)
    (answer : Request → Nat → Except SendFault Reply) : (p.recordOf service c now answer).operation = c.operation.label := by
  rw [recordOf, service.prepare_eq_ok]

theorem exists_of_mem_caseRecords {service : Service} {w : Surroundings} {cases : List TestCase} {r : CaseRecord}
    (member : r ∈ p.caseRecords service w cases) :
    ∃ c ∈ cases, ∃ i, r = p.recordOf service c (w.started i) (w.answer i) := by
  obtain ⟨⟨c, i⟩, stands, rfl⟩ := List.mem_map.mp member
  exact ⟨c, List.fst_mem_of_mem_zipIdx stands, i, rfl⟩

end Probe

end SchemaProbe
