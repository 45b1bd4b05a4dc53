import Mathlib.Algebra.BigOperators.Group.List.Basic
import SchemaProbe.Proofs.Report.Tallies
import SchemaProbe.Proofs.Report.Verdict

set_option autoImplicit false

namespace SchemaProbe

namespace Outcome

theorem failures_length (o : Outcome) : o.failures.length = o.results.countP fun r => !r.passed :=
  List.countP_eq_length_filter.symm

end Outcome

namespace RunReport

structure Coherent (r : RunReport) : Prop where
  distinct : r.operations.Nodup
  listed : ∀ c ∈ r.cases, c.operation ∈ r.operations
  checked : ∀ c ∈ r.cases, ∀ result ∈ c.outcome.results, result.check ∈ r.checks
  skipped : ∀ s ∈ r.skipped, s.operation ∈ r.operations ∧ ∀ c ∈ r.cases, c.operation ≠ s.operation

-- The tallies of all operations.
def tallies (r : RunReport) : List Tally := r.operationSummaries.flatMap (·.tallies)

structure Conserved (r : RunReport) : Prop where
  outcomes : r.summary.passed + r.summary.failed + r.summary.errors + r.summary.inconclusive = r.summary.cases
  cases : (r.operationSummaries.map (·.cases)).sum = r.summary.cases
  failures : (r.tallies.map (·.failed)).sum = r.failures.length
  passes : (r.tallies.map (·.passed)).sum = (r.cases.flatMap (·.outcome.results)).countP (·.passed)
  failing : r.summary.failed = r.cases.countP fun c => !(failuresOf c).isEmpty
  skipped : ∀ s ∈ r.skipped, (∃ o ∈ r.operationSummaries, o.operation = s.operation) ∧
    ∀ o ∈ r.operationSummaries, o.operation = s.operation → o.cases = 0 ∧ o.errors = []

theorem outcomes_conserved (r : RunReport) :
    r.summary.passed + r.summary.failed + r.summary.errors + r.summary.inconclusive = r.summary.cases := by
  simp only [summary]
  induction r.cases with
  | nil => rfl
  | cons c cases ih =>
    simp only [List.countP_cons, List.length_cons]
    -- Each outcome counts just once.
    have once : (if c.outcome.isPassed then 1 else 0) + (if c.outcome.isFailed then 1 else 0) +
        (if c.outcome.error?.isSome then 1 else 0) + (if c.outcome.isInconclusive then 1 else 0) = 1 := by
      cases c.outcome with
      | checked reply results =>
        by_cases fine : (Outcome.checked reply results).failures.isEmpty <;>
          simp [Outcome.isPassed, Outcome.isFailed, Outcome.isChecked, Outcome.error?, Outcome.isInconclusive, fine]
      | failed | inconclusive => rfl
    omega

theorem failuresOf_length (c : CaseRecord) :
    (failuresOf c).length = c.outcome.results.countP fun result => !result.passed := by
  rw [← Outcome.failures_length]
  have same := congrArg List.length (failuresOf_severity c)
  simpa using same

theorem failing_conserved (r : RunReport) :
    r.summary.failed = r.cases.countP fun c => !(failuresOf c).isEmpty := by
  refine List.countP_congr fun c _ => ?_
  cases outcome : c.outcome with
  | checked reply results => simp [failuresOf, outcome, Outcome.isFailed, Outcome.isChecked]
  | failed | inconclusive => simp [failuresOf, outcome, Outcome.isFailed, Outcome.isChecked]

-- What is summed up for each operation apart comes to the sum over all cases.
theorem sum_by_operation {labels : List String} (distinct : labels.Nodup) {cases : List CaseRecord}
    (listed : ∀ c ∈ cases, c.operation ∈ labels) (weight : CaseRecord → Nat) :
    (labels.map fun label => ((cases.filter fun c => c.operation == label).map weight).sum).sum =
      (cases.map weight).sum := by
  induction cases with
  | nil => simp
  | cons c cases ih =>
    have own : (labels.map fun label => if c.operation = label then weight c else 0).sum = weight c := by
      rw [List.sum_map_eq_nsmul_single c.operation _ fun label other _ => if_neg (Ne.symm other),
        distinct.count, if_pos (listed c List.mem_cons_self), if_pos rfl, one_nsmul]
    have split (label : String) : (((c :: cases).filter fun c => c.operation == label).map weight).sum =
        (if c.operation = label then weight c else 0) +
          ((cases.filter fun c => c.operation == label).map weight).sum := by
      by_cases here : c.operation = label <;> simp [here]
    simp only [split, List.sum_map_add, own, ih fun c member => listed c (List.mem_cons_of_mem _ member),
      List.map_cons, List.sum_cons]

theorem cases_conserved {r : RunReport} (coherent : r.Coherent) :
    (r.operationSummaries.map (·.cases)).sum = r.summary.cases := by
  have total := sum_by_operation coherent.distinct coherent.listed fun _ => 1
  simpa [operationSummaries, Function.comp_def, operationSummary, casesOf, summary] using total

theorem operationSummary_sum {count : Tally → Nat} {counted : CheckResult → Bool} (counts : Tally.Counts count counted)
    {r : RunReport} (checked : ∀ c ∈ r.cases, ∀ result ∈ c.outcome.results, result.check ∈ r.checks) (label : String) :
    ((r.operationSummary label).tallies.map count).sum =
      ((r.casesOf label).map fun c => c.outcome.results.countP counted).sum := by
  have listed : ∀ o ∈ (r.casesOf label).map (·.outcome), ∀ result ∈ o.results,
      result.check ∈ (r.checks.map fun c => ({ check := c } : Tally)).map (·.check) := by
    intro o member result within
    obtain ⟨c, own, rfl⟩ := List.mem_map.mp member
    simpa using checked c (List.mem_filter.mp own).1 result within
  have folded := counts.foldl_addCase listed
  have fresh : ((r.checks.map fun c => ({ check := c } : Tally)).map count).sum = 0 := by
    simp [Function.comp_def, counts.start]
  have missed (ts : List Tally) : (ts.map Tally.miss).map count = ts.map count := by
    simp [Function.comp_def, counts.miss]
  rw [fresh, Nat.zero_add, List.map_map] at folded
  rw [← Function.comp_def (fun o : Outcome => o.results.countP counted), ← folded, operationSummary]
  dsimp only
  split
  · rw [missed]
  · rfl

theorem tallies_sum {count : Tally → Nat} {counted : CheckResult → Bool} (counts : Tally.Counts count counted)
    {r : RunReport} (coherent : r.Coherent) :
    (r.tallies.map count).sum = (r.cases.map fun c => c.outcome.results.countP counted).sum := by
  rw [← sum_by_operation coherent.distinct coherent.listed, tallies, operationSummaries, List.flatMap_map,
    List.map_flatMap, List.flatMap_def, List.sum_flatten, List.map_map]
  simp only [Function.comp_def, operationSummary_sum counts coherent.checked, casesOf]

theorem skipped_conserved {r : RunReport} (coherent : r.Coherent) {s : Skipped} (member : s ∈ r.skipped) :
    (∃ o ∈ r.operationSummaries, o.operation = s.operation) ∧
      ∀ o ∈ r.operationSummaries, o.operation = s.operation → o.cases = 0 ∧ o.errors = [] := by
  obtain ⟨listed, none⟩ := coherent.skipped s member
  refine ⟨⟨_, List.mem_map_of_mem listed, rfl⟩, fun o stands same => ?_⟩
  obtain ⟨label, -, rfl⟩ := List.mem_map.mp stands
  have label_eq : label = s.operation := same
  have empty : r.casesOf label = [] := by
    rw [casesOf, List.filter_eq_nil_iff]
    intro c within
    simpa [label_eq] using none c within
  simp [operationSummary, empty]

theorem Coherent.conserved {r : RunReport} (coherent : r.Coherent) : r.Conserved where
  outcomes := r.outcomes_conserved
  cases := cases_conserved coherent
  failures := by
    rw [tallies_sum Tally.failed_counts coherent, RunReport.failures, List.length_flatMap]
    simp only [failuresOf_length]
  passes := by
    rw [tallies_sum Tally.passed_counts coherent, List.countP_flatMap]
    rfl
  failing := r.failing_conserved
  skipped _ member := skipped_conserved coherent member

end RunReport

end SchemaProbe
