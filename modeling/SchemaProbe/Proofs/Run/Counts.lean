import SchemaProbe.Proofs.Report.Accounts
import SchemaProbe.Proofs.Report.Conservation
import SchemaProbe.Proofs.Run.Records
import SchemaProbe.Run.Settings

set_option autoImplicit false

namespace SchemaProbe

theorem RunSettings.checks_of_ofConfig? {config : Config} {drawn : UInt64} {settings : RunSettings}
    (settled : ofConfig? config drawn = some settings) : settings.checks = config.checks := by
  obtain ⟨requestTimeout, -, settled⟩ := Option.bind_eq_some_iff.mp settled
  split at settled <;>
    · obtain ⟨runTimeout, -, made⟩ := Option.bind_eq_some_iff.mp settled
      cases made
      rfl

namespace Probe

variable {p : Probe} {service : Service} {cases : List TestCase} {report : RunReport}

theorem Finishes.exists_report (finishes : p.Finishes report) :
    ∃ service w cases, p.cases = .ok cases ∧ report = p.report service w cases := by
  obtain ⟨w, run⟩ := finishes_iff_run.mp finishes
  obtain ⟨-, service, cases, -, drawn, same⟩ := run_eq_ok_iff.mp run
  exact ⟨service, w, cases, drawn, same⟩

theorem report_judged (service : Service) (w : Surroundings) (cases : List TestCase) :
    (p.report service w cases).Judged := by
  intro r member checked
  obtain ⟨c, -, i, rfl⟩ := exists_of_mem_caseRecords member
  exact recordOf_judged checked

theorem report_listed (drawn : p.cases = .ok cases) (w : Surroundings) :
    ∀ r ∈ (p.report service w cases).cases, r.operation ∈ (p.report service w cases).operations := by
  intro r member
  obtain ⟨c, within, i, rfl⟩ := exists_of_mem_caseRecords member
  rw [recordOf_operation]
  exact List.mem_map_of_mem (casePlan_of_mem_cases drawn within).1

theorem report_skipped (labels : (p.api.operations.map Operation.label).Nodup) (drawn : p.cases = .ok cases)
    (w : Surroundings) {s : Skipped} (member : s ∈ (p.report service w cases).skipped) :
    s.operation ∈ (p.report service w cases).operations ∧
      ∀ r ∈ (p.report service w cases).cases, r.operation ≠ s.operation := by
  obtain ⟨op, stands, given⟩ := List.mem_filterMap.mp member
  cases planned : p.casePlan op with
  | ok plan => simp [planned] at given
  | error reason =>
    simp only [planned, Option.some.injEq] at given
    subst given
    refine ⟨List.mem_map_of_mem stands, fun r within same => ?_⟩
    obtain ⟨c, drawnCase, i, rfl⟩ := exists_of_mem_caseRecords within
    rw [recordOf_operation] at same
    obtain ⟨listed, plan, ready⟩ := casePlan_of_mem_cases drawn drawnCase
    rw [List.inj_on_of_nodup_map labels listed stands same, planned] at ready
    cases ready

theorem report_coherent (labels : (p.api.operations.map Operation.label).Nodup) (drawn : p.cases = .ok cases)
    (w : Surroundings) : (p.report service w cases).Coherent where
  distinct := labels
  listed := report_listed drawn w
  checked r member result within := by
    rw [← report_judged service w cases r member (Outcome.isChecked_of_mem_results within)]
    exact List.mem_map_of_mem within
  skipped _ member := report_skipped labels drawn w member

theorem counts_conserved {doc : Json} (document : doc.Ordered) (read : Document.read doc = .ok p.api)
    (finishes : p.Finishes report) : report.Conserved := by
  obtain ⟨service, w, cases, drawn, rfl⟩ := finishes.exists_report
  exact (report_coherent (Document.read_labels_nodup document read) drawn w).conserved

def mixed : Surroundings where
  horizon := 0
  started _ := 0
  answer i _ _ := match i with
    | 0 => .ok { status := 200, headers := [], body := "", elapsedMicros := 0 }
    | 1 => .ok { status := 500, headers := [], body := "", elapsedMicros := 0 }
    | 2 => .error (.timeout "")
    | _ => .error (.connection "")
  finished := 0

def onItems (checks : List Check) (api : Api) : Probe :=
  { baseUrl := "http://127.0.0.1:1", location := "items.json", api, settings := { checks } }

theorem items_counts_conserved : ∃ (p : Probe) (report : RunReport), Document.read Document.items = .ok p.api ∧
    p.run mixed = .ok report ∧ report.Conserved ∧ report.summary.passed = 1 ∧ report.summary.failed = 1 ∧
      report.summary.errors = 2 ∧ report.failures.length = 2 := by
  have checked : ((Document.read Document.items).toOption.any fun api =>
      ((onItems Check.all api).run mixed).toOption.any fun r => decide (r.summary.passed = 1 ∧
        r.summary.failed = 1 ∧ r.summary.errors = 2 ∧ r.failures.length = 2)) = true := by decide +kernel
  obtain ⟨api, read, checked⟩ := (Option.any_eq_true _ _).mp checked
  obtain ⟨report, run, counts⟩ := (Option.any_eq_true _ _).mp checked
  rw [toOption_eq_some_iff] at read run
  have conserved : report.Conserved :=
    counts_conserved (p := onItems Check.all api) Document.items_ordered read (finishes_iff_run.mpr ⟨mixed, run⟩)
  exact ⟨onItems Check.all api, report, read, run, conserved, of_decide_eq_true counts⟩

/-- Each tally of a run counts every case of its operation, unless some reply came and some check is configured twice:
then the first tally of the check counts each reply as often as the check is configured, and the others never. -/
theorem tallies_account_iff {config : Config} {drawn : UInt64}
    (settled : RunSettings.ofConfig? config drawn = some p.settings) (finishes : p.Finishes report) :
    (report.Accounted ↔ config.checks.Nodup ∨ ∀ c ∈ report.cases, c.outcome.isChecked = false) ∧
      ∀ label i t, (report.operationSummary label).tallies[i]? = some t → config.checks[i]? = some t.check ∧
        t.passed + t.failed + t.inconclusive =
          Tally.turns config.checks i t.check * (report.casesOf label).countP (·.outcome.isChecked) +
            (report.casesOf label).countP (!·.outcome.isChecked) +
              if (report.operationSummary label).skipped.isSome then 1 else 0 := by
  obtain ⟨service, w, cases, drawn, rfl⟩ := finishes.exists_report
  rw [← RunSettings.checks_of_ofConfig? settled]
  have judged := report_judged (p := p) service w cases
  exact ⟨RunReport.accounted_iff (report_listed drawn w) judged, fun label i t stands =>
    RunReport.total_of_getElem? judged stands⟩

def doubled : Config := { checks := [.status, .status], seed := some 1 }

theorem doubled_not_accounted : ∃ (p : Probe) (report : RunReport), doubled.validate = .ok () ∧
    RunSettings.ofConfig? doubled 0 = some p.settings ∧ Document.read Document.items = .ok p.api ∧
      p.run mixed = .ok report ∧ ¬ report.Accounted := by
  have checked : ((Document.read Document.items).toOption.any fun api => (RunSettings.ofConfig? doubled 0).any
      fun settings => (run { onItems [] api with settings } mixed).toOption.any fun r =>
        decide (¬ (doubled.checks.Nodup ∨ ∀ c ∈ r.cases, c.outcome.isChecked = false))) = true := by decide +kernel
  obtain ⟨api, read, checked⟩ := (Option.any_eq_true _ _).mp checked
  obtain ⟨settings, settled, checked⟩ := (Option.any_eq_true _ _).mp checked
  obtain ⟨report, run, neither⟩ := (Option.any_eq_true _ _).mp checked
  rw [toOption_eq_some_iff] at read run
  have account := tallies_account_iff (p := { onItems [] api with settings }) settled (finishes_iff_run.mpr ⟨mixed, run⟩)
  exact ⟨{ onItems [] api with settings }, report, by decide +kernel, settled, read, run,
    fun all => of_decide_eq_true neither (account.1.mp all)⟩

end Probe

end SchemaProbe
