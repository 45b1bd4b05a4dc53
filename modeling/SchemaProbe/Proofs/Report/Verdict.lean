import SchemaProbe.Report.Verdict

set_option autoImplicit false

namespace SchemaProbe

namespace Severity

theorem foldl_worse (first : Severity) (rest : List Severity) :
    rest.foldl worse first =
      if critical ∈ first :: rest then critical else if error ∈ first :: rest then error else warning := by
  -- The fold keeps the worst one seen.
  induction rest generalizing first with
  | nil => cases first <;> simp
  | cons second rest ih =>
    rw [List.foldl_cons, ih]
    cases first <;> cases second <;> simp [worse, rank]

theorem worst?_eq (severities : List Severity) :
    worst? severities =
      if critical ∈ severities then some critical
      else if error ∈ severities then some error
      else if warning ∈ severities then some warning
      else none := by
  cases severities with
  | nil => simp [worst?]
  | cons first rest =>
    rw [worst?, foldl_worse]
    by_cases someCritical : critical ∈ first :: rest
    · simp [someCritical]
    · by_cases someError : error ∈ first :: rest
      · simp [someCritical, someError]
      · have someWarning : warning ∈ first :: rest := by
          cases first <;> simp_all
        simp only [someCritical, someError, someWarning, if_false, if_true]

theorem worst?_perm {severities severities' : List Severity} (same : severities.Perm severities') :
    worst? severities = worst? severities' := by
  simp [worst?_eq, same.mem_iff]

end Severity

namespace Outcome

theorem isChecked_of_mem_results {o : Outcome} {result : CheckResult} (member : result ∈ o.results) :
    o.isChecked = true := by
  cases o <;> simp_all [results, isChecked]

theorem isPassed_or_isFailed (o : Outcome) : (o.isPassed || o.isFailed) = o.isChecked := by
  cases o <;> simp [isPassed, isFailed, isChecked]

end Outcome

namespace RunReport

-- A reply came.
def SomeChecked (r : RunReport) : Prop := ∃ c ∈ r.cases, c.outcome.isChecked = true

def SomeFailed (r : RunReport) : Prop := ∃ c ∈ r.cases, ∃ result ∈ c.outcome.results, result.passed = false

def SomeServerError (r : RunReport) : Prop :=
  ∃ c ∈ r.cases, ∃ result ∈ c.outcome.results, result.check = .noServerError ∧ result.passed = false

def SomeError (r : RunReport) : Prop := ∃ c ∈ r.cases, c.outcome.error?.isSome = true

def SomeUnsettled (r : RunReport) : Prop := (∃ c ∈ r.cases, c.outcome.isInconclusive = true) ∨ r.skipped ≠ []

instance (r : RunReport) : Decidable r.SomeChecked := inferInstanceAs (Decidable (∃ c ∈ r.cases, _))

instance (r : RunReport) : Decidable r.SomeFailed := inferInstanceAs (Decidable (∃ c ∈ r.cases, ∃ x ∈ _, _))

instance (r : RunReport) : Decidable r.SomeServerError := inferInstanceAs (Decidable (∃ c ∈ r.cases, ∃ x ∈ _, _))

instance (r : RunReport) : Decidable r.SomeError := inferInstanceAs (Decidable (∃ c ∈ r.cases, _))

instance (r : RunReport) : Decidable r.SomeUnsettled := inferInstanceAs (Decidable ((∃ c ∈ r.cases, _) ∨ _))

def expectedCode (r : RunReport) (strict : Bool) : Nat :=
  if ¬ r.SomeChecked then 3
  else if r.SomeServerError then 2
  else if r.SomeFailed then 1
  else if r.SomeError then 3
  else if r.SomeUnsettled then if strict then 1 else 0
  else 0

theorem checked_pos_iff (r : RunReport) : r.summary.passed + r.summary.failed ≠ 0 ↔ r.SomeChecked := by
  have split : r.summary.passed + r.summary.failed ≠ 0 ↔
      ∃ c ∈ r.cases, (c.outcome.isPassed || c.outcome.isFailed) = true := by
    simp only [summary, ne_eq, Nat.add_eq_zero_iff, List.countP_eq_zero, Bool.or_eq_true]
    grind
  simpa only [SomeChecked, Outcome.isPassed_or_isFailed] using split

theorem errors_pos_iff (r : RunReport) : 0 < r.summary.errors ↔ r.SomeError := by
  simp [summary, SomeError, List.countP_pos_iff]

theorem unsettled_pos_iff (r : RunReport) :
    0 < r.summary.inconclusive + r.summary.skippedOperations ↔ r.SomeUnsettled := by
  have skipped : r.skipped ≠ [] ↔ 0 < r.skipped.length := List.length_pos_iff.symm
  rw [SomeUnsettled, skipped]
  simp only [summary, ← List.countP_pos_iff (p := fun c : CaseRecord => c.outcome.isInconclusive)]
  omega

theorem failuresOf_severity (c : CaseRecord) :
    (failuresOf c).map (·.severity) = c.outcome.failures.map (·.check.severity) := by
  cases outcome : c.outcome with
  | checked reply results => simp [failuresOf, outcome, Function.comp_def]
  | _ => simp [failuresOf, outcome, Outcome.failures, Outcome.results]

theorem mem_severities {r : RunReport} {severity : Severity} :
    severity ∈ r.failures.map (·.severity) ↔
      ∃ c ∈ r.cases, ∃ result ∈ c.outcome.results, result.passed = false ∧ result.check.severity = severity := by
  rw [failures, List.map_flatMap]
  simp only [failuresOf_severity, List.mem_flatMap, List.mem_map, Outcome.failures, List.mem_filter]
  simp [and_assoc]

theorem critical_iff (r : RunReport) : .critical ∈ r.failures.map (·.severity) ↔ r.SomeServerError := by
  have only (check : Check) : check.severity = .critical ↔ check = .noServerError := by
    cases check <;> simp [Check.severity]
  simp [mem_severities, SomeServerError, only, and_comm]

theorem not_warning (r : RunReport) : .warning ∉ r.failures.map (·.severity) := by
  have never (check : Check) : check.severity ≠ .warning := by
    cases check <;> simp [Check.severity]
  simp [mem_severities, never]

theorem failed_iff (r : RunReport) :
    .critical ∈ r.failures.map (·.severity) ∨ .error ∈ r.failures.map (·.severity) ↔ r.SomeFailed := by
  have either (check : Check) : check.severity = .critical ∨ check.severity = .error := by
    cases check <;> simp [Check.severity]
  simp only [mem_severities, SomeFailed]
  grind

theorem SomeFailed.checked {r : RunReport} (failed : r.SomeFailed) : r.SomeChecked := by
  obtain ⟨c, member, result, within, -⟩ := failed
  exact ⟨c, member, Outcome.isChecked_of_mem_results within⟩

theorem SomeServerError.failed {r : RunReport} (broken : r.SomeServerError) : r.SomeFailed := by
  obtain ⟨c, member, result, within, -, failed⟩ := broken
  exact ⟨c, member, result, within, failed⟩

theorem worstCode_eq (r : RunReport) (strict : Bool) :
    ((Severity.worst? (r.failures.map (·.severity))).map (Severity.exitCode strict)).getD 0 =
      if r.SomeServerError then 2 else if r.SomeFailed then 1 else 0 := by
  have failed := r.failed_iff
  -- No check is as mild as a warning, so that the mode does not matter here.
  rw [Severity.worst?_eq]
  simp only [r.critical_iff, r.not_warning, if_false] at failed ⊢
  by_cases broken : r.SomeServerError
  · simp [broken, Severity.exitCode]
  · simp only [broken, false_or, if_false] at failed ⊢
    by_cases some : r.SomeFailed <;> simp [failed, some, Severity.exitCode]

theorem verdict_exitCode (r : RunReport) (strict : Bool) : (r.verdict strict).exitCode = r.expectedCode strict := by
  have checked := r.checked_pos_iff
  unfold verdict expectedCode
  by_cases none : r.summary.passed + r.summary.failed = 0
  · have nothing : ¬ r.SomeChecked := fun some => checked.mpr some none
    simp [none, nothing, Verdict.withoutResult, Verdict.toolError]
  · have some : r.SomeChecked := checked.mp none
    simp only [none, some, if_false, not_true_eq_false, Verdict.exitCodeOf, worstCode_eq, errors_pos_iff,
      unsettled_pos_iff, Verdict.toolError, Severity.exitCode]
    by_cases broken : r.SomeServerError
    · simp [broken]
    · by_cases failed : r.SomeFailed <;> simp [broken, failed]

theorem verdict_passed_iff (r : RunReport) (strict : Bool) :
    (r.verdict strict).status = "PASS" ↔ (r.verdict strict).exitCode = 0 := by
  have passed : (r.verdict strict).passed = true ↔ (r.verdict strict).exitCode = 0 := by
    unfold verdict
    by_cases none : r.summary.passed + r.summary.failed = 0
    · simp [none, Verdict.withoutResult, Verdict.toolError]
    · simp only [none, if_false, beq_iff_eq]
  rw [← passed, Verdict.status]
  by_cases fine : (r.verdict strict).passed = true <;> simp [fine]

theorem of_expectedCode_eq_zero {r : RunReport} {strict : Bool} (fine : r.expectedCode strict = 0) :
    r.SomeChecked ∧ ¬ r.SomeFailed ∧ ¬ r.SomeError := by
  unfold expectedCode at fine
  by_cases checked : r.SomeChecked
  · by_cases broken : r.SomeServerError
    · simp [checked, broken] at fine
    · by_cases failed : r.SomeFailed
      · simp [checked, broken, failed] at fine
      · by_cases lost : r.SomeError
        · simp [checked, broken, failed, lost] at fine
        · exact ⟨checked, failed, lost⟩
  · simp [checked] at fine

theorem summary_perm {r : RunReport} {cases : List CaseRecord} (same : cases.Perm r.cases) :
    ({ r with cases } : RunReport).summary = r.summary := by
  simp [summary, same.countP_eq, same.length_eq]

theorem severities_perm {r : RunReport} {cases : List CaseRecord} (same : cases.Perm r.cases) :
    (({ r with cases } : RunReport).failures.map (·.severity)).Perm (r.failures.map (·.severity)) :=
  (same.flatMap_right failuresOf).map _

-- The failures count by their number and by the number of the critical ones.
theorem reasonOf_perm (s : RunSummary) {failures failures' : List Severity} (same : failures.Perm failures')
    (inconclusive : Nat) : Verdict.reasonOf s failures inconclusive = Verdict.reasonOf s failures' inconclusive := by
  have empty : failures.isEmpty = failures'.isEmpty := same.isEmpty_eq
  simp only [Verdict.reasonOf, Verdict.failureText, empty, same.length_eq, same.count_eq]

theorem verdict_perm {r : RunReport} {cases : List CaseRecord} (same : cases.Perm r.cases) (strict : Bool) :
    ({ r with cases } : RunReport).verdict strict = r.verdict strict := by
  simp only [verdict, summary_perm same, Verdict.exitCodeOf, Severity.worst?_perm (severities_perm same),
    reasonOf_perm _ (severities_perm same)]

theorem verdict_correct (r : RunReport) (strict : Bool) :
    (r.verdict strict).exitCode = r.expectedCode strict ∧
      ((r.verdict strict).status = "PASS" ↔ (r.verdict strict).exitCode = 0) ∧
      ((r.verdict strict).status = "PASS" → r.SomeChecked ∧ ¬ r.SomeFailed ∧ ¬ r.SomeError) ∧
      ∀ cases : List CaseRecord, cases.Perm r.cases → ({ r with cases } : RunReport).verdict strict = r.verdict strict := by
  have code := r.verdict_exitCode strict
  have passed := r.verdict_passed_iff strict
  refine ⟨code, passed, fun fine => ?_, fun cases same => verdict_perm same strict⟩
  exact of_expectedCode_eq_zero (code ▸ passed.mp fine)

end RunReport

end SchemaProbe
