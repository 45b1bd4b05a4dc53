import SchemaProbe.Proofs.Case.Batch
import SchemaProbe.Proofs.Document.Labels
import SchemaProbe.Proofs.Document.Load
import SchemaProbe.Proofs.Run.Pool
import SchemaProbe.Proofs.Run.Prepare
import SchemaProbe.Report.Summary
import SchemaProbe.Run.Plan
import SchemaProbe.Run.Prepare

set_option autoImplicit false

namespace SchemaProbe

structure CaseHead where
  id : String
  operation : String
  index : UInt32
  target : Option String
  request : RequestRecord

def CaseRecord.head (r : CaseRecord) : CaseHead :=
  { id := r.id, operation := r.operation, index := r.index, target := r.target, request := r.request }

def Service.head (service : Service) (c : TestCase) : CaseHead :=
  { id := c.id
    operation := c.operation.label
    index := c.index.toUInt32
    target := c.target.map StatusKey.text
    request := (service.request c).record }

namespace Probe

theorem caseRecords_heads (p : Probe) (service : Service) (w : Surroundings) (cases : List TestCase) :
    (p.caseRecords service w cases).map CaseRecord.head = cases.map service.head := by
  have each (c : TestCase) (i : Nat) : (p.caseRecord service w i c).head = service.head c := by
    rw [caseRecord, recordOf, service.prepare_eq_ok]
    rfl
  simp only [caseRecords, List.map_map, Function.comp_def, each]
  rw [← Function.comp_def service.head Prod.fst, ← List.map_map, List.zipIdx_map_fst]

structure Batch (p : Probe) (op : Operation) (batch : List TestCase) : Prop where
  size : batch.length = (OperationPlan.ofOperation p op).cases
  each : ∀ i c, batch[i]? = some c → c.operation = op ∧ c.index = i ∧
    ∃ plan, p.casePlan op = .ok plan ∧ plan.case? i = some (.ok c)

theorem casePlan_eq_ok {p : Probe} {op : Operation} {plan : CasePlan} (planned : p.casePlan op = .ok plan) :
    plan.operation = op := by
  unfold casePlan at planned
  split at planned
  · cases planned
  · simp only at planned
    split at planned
    · cases planned
    · cases planned
      rfl

theorem mem_casePlans {p : Probe} {op : Operation} (member : op ∈ p.api.operations) {plan : CasePlan}
    (planned : p.casePlan op = .ok plan) : plan ∈ p.casePlans :=
  List.mem_filterMap.mpr ⟨op, member, by simp [planned, Except.toOption]⟩

theorem batch_of_error {p : Probe} {op : Operation} {reason : String} (planned : p.casePlan op = .error reason) :
    p.Batch op [] where
  size := by simp [OperationPlan.ofOperation, planned, Except.toOption]
  each := by simp

theorem batch_of_ok {p : Probe} {op : Operation} {plan : CasePlan} (planned : p.casePlan op = .ok plan)
    (few : plan.size ≤ OperationPlan.largestCount) {batch : List TestCase} (drawn : plan.cases = .ok batch) :
    p.Batch op batch := by
  obtain ⟨size, each⟩ := CasePlan.cases_eq_ok drawn
  refine ⟨?_, fun i c here => ?_⟩
  · simp [OperationPlan.ofOperation, planned, Except.toOption, size, Nat.min_eq_left few]
  · obtain ⟨own, index, -⟩ := CasePlan.case?_eq_some_ok (each i c here)
    have within : i < plan.size := size ▸ (List.getElem?_eq_some_iff.mp here).1
    have exact' : c.index = i := by
      simp only [OperationPlan.largestCount] at few
      omega
    exact ⟨own.trans (casePlan_eq_ok planned), exact', plan, planned, each i c here⟩

theorem batches_of_mapM {p : Probe} {ops : List Operation}
    (few : ∀ op ∈ ops, ∀ plan, p.casePlan op = .ok plan → plan.size ≤ OperationPlan.largestCount)
    {drawn : List (List TestCase)}
    (all : (ops.filterMap fun op => (p.casePlan op).toOption).mapM CasePlan.cases = .ok drawn) :
    ∃ batches, List.Forall₂ p.Batch ops batches ∧ drawn.flatten = batches.flatten := by
  -- An operation without a plan gets an empty batch, which adds nothing.
  induction ops generalizing drawn with
  | nil =>
    cases all
    exact ⟨[], .nil, rfl⟩
  | cons op ops ih =>
    have later := @ih fun op member => few op (List.mem_cons_of_mem _ member)
    cases planned : p.casePlan op with
    | error reason =>
      rw [List.filterMap_cons_none (by simp [planned, Except.toOption])] at all
      obtain ⟨batches, each, same⟩ := later all
      exact ⟨[] :: batches, .cons (batch_of_error planned) each, same⟩
    | ok plan =>
      simp only [List.filterMap_cons, planned, Except.toOption, List.mapM_cons, bind_eq_ok_iff, pure_eq_ok_iff] at all
      obtain ⟨batch, first, rest, others, rfl⟩ := all
      obtain ⟨batches, each, same⟩ := later others
      have own := batch_of_ok planned (few op List.mem_cons_self plan planned) first
      exact ⟨batch :: batches, .cons own each, by simp [same]⟩

theorem cases_eq_ok {p : Probe} (few : ∀ plan ∈ p.casePlans, plan.size ≤ OperationPlan.largestCount)
    {cases : List TestCase} (drawn : p.cases = .ok cases) :
    ∃ batches, List.Forall₂ p.Batch p.api.operations batches ∧ cases = batches.flatten := by
  obtain ⟨lists, all, rfl⟩ := map_eq_ok_iff.mp drawn
  exact batches_of_mapM (fun op member plan planned => few plan (mem_casePlans member planned)) all

theorem Batch.operation {p : Probe} {op : Operation} {batch : List TestCase} (own : p.Batch op batch) {c : TestCase}
    (member : c ∈ batch) : c.operation = op := by
  obtain ⟨i, here⟩ := List.mem_iff_getElem?.mp member
  exact (own.each i c here).1

theorem Batch.indices {p : Probe} {op : Operation} {batch : List TestCase} (own : p.Batch op batch) :
    batch.map TestCase.index = List.range batch.length := by
  refine List.ext_getElem? fun i => ?_
  cases here : batch[i]? with
  | none => simp_all
  | some c =>
    have within := (List.getElem?_eq_some_iff.mp here).1
    rw [List.getElem?_map, here, List.getElem?_range within, Option.map_some, (own.each i c here).2.1]

theorem cases_le (p : Probe) (op : Operation) : (OperationPlan.ofOperation p op).cases ≤ OperationPlan.largestCount := by
  unfold OperationPlan.ofOperation
  cases p.casePlan op with
  | error reason => simp [Except.toOption]
  | ok plan => exact Nat.min_le_right _ _

theorem Batch.numbers {p : Probe} {op : Operation} {batch : List TestCase} (own : p.Batch op batch) :
    batch.map (fun c => c.index.toUInt32.toNat) = List.range (OperationPlan.ofOperation p op).cases := by
  rw [← own.size, ← own.indices]
  refine List.map_congr_left fun c member => ?_
  obtain ⟨i, here⟩ := List.mem_iff_getElem?.mp member
  have within := (List.getElem?_eq_some_iff.mp here).1
  have few := cases_le p op
  rw [← own.size, OperationPlan.largestCount] at few
  rw [(own.each i c here).2.1]
  exact UInt32.toNat_ofNat_of_lt' (by simp only [UInt32.size]; omega)

theorem operation_of_mem_batches {p : Probe} {ops : List Operation} {batches : List (List TestCase)}
    (each : List.Forall₂ p.Batch ops batches) {c : TestCase} (member : c ∈ batches.flatten) : c.operation ∈ ops := by
  induction each with
  | nil => simp at member
  | cons own _ ih =>
    rcases List.mem_append.mp member with here | later
    · rw [own.operation here]
      exact List.mem_cons_self
    · exact List.mem_cons_of_mem _ (ih later)

theorem Batch.filter_self {p : Probe} {op : Operation} {batch : List TestCase} (own : p.Batch op batch) :
    (batch.filter fun c => c.operation.label == op.label) = batch := by
  rw [List.filter_eq_self]
  intro c member
  rw [own.operation member]
  exact beq_self_eq_true _

theorem Batch.filter_other {p : Probe} {op : Operation} {batch : List TestCase} (own : p.Batch op batch)
    {label : String} (different : op.label ≠ label) : (batch.filter fun c => c.operation.label == label) = [] := by
  rw [List.filter_eq_nil_iff]
  intro c member
  rwa [own.operation member, beq_iff_eq]

theorem filter_batches {p : Probe} {ops : List Operation} {batches : List (List TestCase)}
    (each : List.Forall₂ p.Batch ops batches) (labels : (ops.map Operation.label).Nodup) {op : Operation}
    (member : op ∈ ops) :
    p.Batch op (batches.flatten.filter fun c => c.operation.label == op.label) := by
  -- The label is that of the first operation or of a later one, and either keeps its own batch only.
  induction each with
  | nil => simp at member
  | @cons first batch ops batches own rest ih =>
    obtain ⟨different, labels⟩ := List.nodup_cons.mp labels
    rw [List.flatten_cons, List.filter_append]
    rcases List.mem_cons.mp member with rfl | later
    · have others : (batches.flatten.filter fun c => c.operation.label == op.label) = [] := by
        rw [List.filter_eq_nil_iff]
        intro c within same
        exact different (beq_iff_eq.mp same ▸ List.mem_map_of_mem (operation_of_mem_batches rest within))
      rwa [own.filter_self, others, List.append_nil]
    · have apart : first.label ≠ op.label := fun same => different (same ▸ List.mem_map_of_mem later)
      rw [own.filter_other apart, List.nil_append]
      exact ih labels later

theorem length_batches {p : Probe} {ops : List Operation} {batches : List (List TestCase)}
    (each : List.Forall₂ p.Batch ops batches) :
    (ops.map (OperationPlan.ofOperation p)).foldr (fun o total => o.cases + total) 0 = batches.flatten.length := by
  induction each with
  | nil => rfl
  | cons own _ ih => simp [own.size, ← ih]

theorem skipped_eq (p : Probe) :
    p.skipped = (p.api.operations.map (OperationPlan.ofOperation p)).filterMap fun e =>
      e.skipped.map fun reason => ⟨e.operation, reason⟩ := by
  rw [skipped, List.filterMap_map]
  congr 1
  funext op
  simp only [Function.comp_apply, OperationPlan.ofOperation]
  cases p.casePlan op <;> rfl

theorem mem_skipped_iff {p : Probe} (labels : (p.api.operations.map Operation.label).Nodup) {op : Operation}
    (member : op ∈ p.api.operations) {reason : String} :
    ⟨op.label, reason⟩ ∈ p.skipped ↔ (OperationPlan.ofOperation p op).skipped = some reason := by
  rw [skipped_eq, List.mem_filterMap]
  constructor
  · rintro ⟨e, listed, same⟩
    obtain ⟨op', member', rfl⟩ := List.mem_map.mp listed
    obtain ⟨reason', told, same⟩ := Option.map_eq_some_iff.mp same
    obtain ⟨label, rfl⟩ := Skipped.mk.inj same
    rwa [List.inj_on_of_nodup_map labels member member' label.symm]
  · intro told
    exact ⟨_, List.mem_map_of_mem member, by rw [told]; rfl⟩

theorem cases_of_skipped {p : Probe} {op : Operation}
    (skipped : (OperationPlan.ofOperation p op).skipped.isSome = true) : (OperationPlan.ofOperation p op).cases = 0 := by
  simp only [OperationPlan.ofOperation] at skipped ⊢
  cases planned : p.casePlan op with
  | error reason => rfl
  | ok plan => simp [planned] at skipped

structure Predicts (p : Probe) (service : Service) (plan : RunPlan) (report : RunReport) : Prop where
  operations : report.operations = plan.operations.map OperationPlan.operation
  cases : ∃ batches, List.Forall₂ p.Batch p.api.operations batches ∧
    report.cases.map CaseRecord.head = batches.flatten.map service.head
  indices : ∀ e ∈ plan.operations, (report.casesOf e.operation).map (fun r => r.index.toNat) = List.range e.cases
  counts : ∀ e ∈ plan.operations, (report.casesOf e.operation).length = e.cases
  skipped : report.skipped = plan.operations.filterMap fun e => e.skipped.map fun reason => ⟨e.operation, reason⟩
  reasons : ∀ e ∈ plan.operations, ∀ reason, ⟨e.operation, reason⟩ ∈ report.skipped ↔ e.skipped = some reason
  empty : ∀ e ∈ plan.operations, e.skipped.isSome = true → e.cases = 0
  total : plan.totalCases = report.cases.length

theorem casesOf_heads {service : Service} {report : RunReport} {cases : List TestCase}
    (heads : report.cases.map CaseRecord.head = cases.map service.head) (label : String) :
    (report.casesOf label).map CaseRecord.head =
      (cases.filter fun c => c.operation.label == label).map service.head := by
  have left := List.filter_map (f := CaseRecord.head) (p := fun h : CaseHead => h.operation == label) (l := report.cases)
  have right := List.filter_map (f := service.head) (p := fun h : CaseHead => h.operation == label) (l := cases)
  rw [heads, right] at left
  exact left.symm

theorem predicts_of_heads {p : Probe} (labels : (p.api.operations.map Operation.label).Nodup) {service : Service}
    {batches : List (List TestCase)} (each : List.Forall₂ p.Batch p.api.operations batches) {finished : Nat}
    {records : List CaseRecord} (heads : records.map CaseRecord.head = batches.flatten.map service.head)
    (config : Config) (found : Bool) :
    p.Predicts service (p.plan config found) (p.reportOf finished records) := by
  have indices : ∀ e ∈ (p.plan config found).operations,
      ((p.reportOf finished records).casesOf e.operation).map (fun r => r.index.toNat) = List.range e.cases := by
    intro e listed
    obtain ⟨op, member, rfl⟩ := List.mem_map.mp listed
    have own := filter_batches each labels member
    have reported : (p.reportOf finished records).cases.map CaseRecord.head = batches.flatten.map service.head := heads
    have same := congrArg (List.map fun h => h.index.toNat) (casesOf_heads reported op.label)
    rw [List.map_map, List.map_map] at same
    exact same.trans own.numbers
  refine ⟨?_, ⟨batches, each, heads⟩, indices, fun e listed => ?_, skipped_eq p, ?_, ?_, ?_⟩
  · simp [plan, reportOf, OperationPlan.ofOperation, Function.comp_def]
  · simpa using congrArg List.length (indices e listed)
  · intro e listed
    obtain ⟨op, member, rfl⟩ := List.mem_map.mp listed
    exact fun reason => mem_skipped_iff labels member
  · intro e listed
    obtain ⟨op, member, rfl⟩ := List.mem_map.mp listed
    exact cases_of_skipped
  · have length := congrArg List.length heads
    simp only [List.length_map] at length
    simp [plan, reportOf, length, ← length_batches each]

-- The same cases are sent to the same place. Workers, timeouts and checks may differ.
structure SendsAlike (p q : Probe) : Prop where
  baseUrl : q.baseUrl = p.baseUrl
  api : q.api = p.api
  headers : q.settings.headers = p.settings.headers
  cases : q.settings.cases = p.settings.cases

theorem SendsAlike.cases_eq {p q : Probe} (alike : p.SendsAlike q) : q.cases = p.cases := by
  have plans : q.casePlan = p.casePlan := by
    funext op
    simp only [casePlan, alike.cases]
  simp only [Probe.cases, casePlans, plans, alike.api]

theorem Finishes.heads {p : Probe} {service : Service}
    (opened : Service.open p.baseUrl p.settings.headers = .ok service) {cases : List TestCase}
    (drawn : p.cases = .ok cases) {report : RunReport} (finishes : p.Finishes report) :
    report.cases.map CaseRecord.head = cases.map service.head ∧
      ∃ finished records, report = p.reportOf finished records := by
  obtain ⟨w, run⟩ := finishes_iff_run.mp finishes
  obtain ⟨-, service', cases', opened', drawn', rfl⟩ := run_eq_ok_iff.mp run
  rw [opened] at opened'
  rw [drawn] at drawn'
  cases opened'
  cases drawn'
  exact ⟨p.caseRecords_heads service w cases, w.finished, _, rfl⟩

/-- A run on a document reports if the clock can tell the end of its time, and otherwise ends before anything is sent.
Whatever it reports is what its plan tells, and two runs that send alike differ in the outcomes only. -/
theorem plan_predicts_run {doc : Json} (document : doc.Ordered) {p : Probe} (read : Document.read doc = .ok p.api)
    {service : Service} (opened : Service.open p.baseUrl p.settings.headers = .ok service) {cases : List TestCase}
    (drawn : p.cases = .ok cases) (few : ∀ plan ∈ p.casePlans, plan.size ≤ OperationPlan.largestCount)
    (config : Config) (found : Bool) :
    (∀ w : Surroundings, if w.tells p.settings then ∃ report, p.run w = .ok report ∧ p.Finishes report
      else p.run w = .error .deadline) ∧
      (∀ report, p.Finishes report → p.Predicts service (p.plan config found) report) ∧
      ∀ q, p.SendsAlike q → ∀ report report', p.Finishes report → q.Finishes report' →
        report'.cases.map CaseRecord.head = report.cases.map CaseRecord.head := by
  have labels := Document.read_labels_nodup document read
  obtain ⟨batches, each, all⟩ := cases_eq_ok few drawn
  refine ⟨fun w => ?_, fun report finishes => ?_, fun q alike report report' finishes finishes' => ?_⟩
  · have run := run_of_drawn opened drawn w
    split
    next told =>
      rw [if_pos told] at run
      exact ⟨_, run, finishes_iff_run.mpr ⟨w, run⟩⟩
    next untold => rw [run, if_neg untold]
  · obtain ⟨heads, finished, records, rfl⟩ := finishes.heads opened drawn
    exact predicts_of_heads labels each (all ▸ heads) config found
  · have opened' : Service.open q.baseUrl q.settings.headers = .ok service := by rw [alike.baseUrl, alike.headers, opened]
    rw [(finishes.heads opened drawn).1, (finishes'.heads opened' (alike.cases_eq.trans drawn)).1]

-- Ten million million million seconds for the whole run.
def endless : Config where
  runTimeout := some ⟨0x43e158e460913d00⟩
  seed := some 1

-- The settings pass, but no clock that starts near zero and counts seconds as signed words tells the end of the run.
theorem endless_not_run : ∃ (p : Probe) (service : Service) (cases : List TestCase), endless.validate = .ok () ∧
    RunSettings.ofConfig? endless 0 = some p.settings ∧ Document.read Document.items = .ok p.api ∧
      Service.open p.baseUrl p.settings.headers = .ok service ∧ p.cases = .ok cases ∧ cases.length = 4 ∧
      p.run .offline = .error .deadline ∧
      ∀ config found (w : Surroundings), w.tells p.settings = true →
        ∃ report, p.run w = .ok report ∧ p.Predicts service (p.plan config found) report := by
  let probe (api : Api) (settings : RunSettings) : Probe :=
    { baseUrl := "http://127.0.0.1:1", location := "items.json", api, settings }
  have checked : ((Document.read Document.items).toOption.any fun api => (RunSettings.ofConfig? endless 0).any
      fun settings => (probe api settings).cases.toOption.any (·.length == 4) &&
        ((probe api settings).casePlans.all fun plan => decide (plan.size ≤ OperationPlan.largestCount)) &&
        (Service.open "http://127.0.0.1:1" settings.headers).toOption.isSome &&
        !Surroundings.offline.tells settings) = true := by decide +kernel
  obtain ⟨api, read, checked⟩ := (Option.any_eq_true _ _).mp checked
  obtain ⟨settings, settled, checked⟩ := (Option.any_eq_true _ _).mp checked
  simp only [Bool.and_eq_true, Bool.not_eq_true'] at checked
  obtain ⟨⟨⟨four, few⟩, reached⟩, late⟩ := checked
  obtain ⟨cases, drawn, four⟩ := (Option.any_eq_true _ _).mp four
  obtain ⟨service, opened⟩ := Option.isSome_iff_exists.mp reached
  rw [toOption_eq_some_iff] at read drawn opened
  have predicted := plan_predicts_run Document.items_ordered (p := probe api settings) read opened drawn
    fun plan member => of_decide_eq_true (List.all_eq_true.mp few plan member)
  refine ⟨probe api settings, service, cases, by decide +kernel, settled, read, opened, drawn, beq_iff_eq.mp four, ?_,
    fun config found w told => ?_⟩
  · have ends := (predicted endless true).1 .offline
    rwa [if_neg (by simp [probe, late])] at ends
  · obtain ⟨runs, predicts, -⟩ := predicted config found
    have ends := runs w
    rw [if_pos told] at ends
    obtain ⟨report, run, finishes⟩ := ends
    exact ⟨report, run, predicts report finishes⟩

end Probe

end SchemaProbe
