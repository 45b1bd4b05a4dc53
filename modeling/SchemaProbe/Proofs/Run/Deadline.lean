import SchemaProbe.Proofs.Document.Load
import SchemaProbe.Proofs.Report.Verdict
import SchemaProbe.Proofs.Run.Course

set_option autoImplicit false

namespace SchemaProbe

namespace Probe

theorem patience?_eq_none_iff {s : RunSettings} {now : Nat} :
    patience? s now = none ↔ ∃ limit, s.runTimeout = some limit ∧ limit ≤ now := by
  unfold patience?
  cases s.runTimeout with
  | none => simp
  | some limit => simp [Nat.sub_eq_zero_iff_le]

theorem patience?_eq_some_iff {s : RunSettings} {now span : Nat} {cutShort : Bool} :
    patience? s now = some (span, cutShort) ↔
      (s.runTimeout = none ∧ span = s.requestTimeout ∧ cutShort = false) ∨
      ∃ limit, s.runTimeout = some limit ∧ now < limit ∧ span = min (limit - now) s.requestTimeout ∧
        cutShort = decide (limit - now < s.requestTimeout) := by
  unfold patience?
  cases s.runTimeout with
  | none => simp [eq_comm]
  | some limit =>
    by_cases late : limit - now = 0
    · simp [late]
      omega
    · simp [late, eq_comm]
      omega

theorem outcomeOf_isInconclusive {checks : List Check} {op : Operation} {cutShort : Bool}
    {answer : Except SendFault Reply} :
    (outcomeOf checks op cutShort answer).isInconclusive = true ↔
      cutShort = true ∧ ∃ reason, answer = .error (.timeout reason) := by
  cases answer with
  | ok reply => simp [outcomeOf, Outcome.isInconclusive]
  | error fault => cases fault <;> cases cutShort <;> simp [outcomeOf, SendFault.isTimeout, Outcome.isInconclusive]

end Probe

namespace Progress

variable {p : Probe} {service : Service} {c : TestCase} {task : Progress} {log : List (Request × Nat)}
  {record : CaseRecord}

theorem Ended.outcome_left {now : Nat} (ended : (left now).Ended p service c record)
    (silent : p.sending? service c now = none) : record.outcome.isInconclusive = true := by
  rw [p.sending?_eq, Option.map_eq_none_iff] at silent
  rw [ended fun _ _ => .error (.transport ""), p.recordOf_eq]
  simp [Probe.outcome, silent, Outcome.isInconclusive]

theorem Ended.outcome_answered {now : Nat} {answer : Except SendFault Reply}
    (ended : (answered now answer).Ended p service c record) {request : Request} {span : Nat}
    (sends : p.sending? service c now = some (request, span)) :
    ∃ cutShort, Probe.patience? p.settings now = some (span, cutShort) ∧
      record.outcome = Probe.outcomeOf p.settings.checks c.operation cutShort answer := by
  rw [p.sending?_eq] at sends
  obtain ⟨⟨span, cutShort⟩, here, same⟩ := Option.map_eq_some_iff.mp sends
  obtain ⟨-, rfl⟩ := Prod.mk.inj same
  refine ⟨cutShort, here, ?_⟩
  rw [show record = _ from ended, p.recordOf_eq]
  simp only [Probe.outcome, here]

-- The end of the run came before the case started, or while its request was out.
def CutOff (s : RunSettings) (log : List (Request × Nat)) : Progress → Prop
  | left now => ∃ limit, s.runTimeout = some limit ∧ limit ≤ now ∧ log = []
  | answered now answer => ∃ limit reason request, s.runTimeout = some limit ∧ now < limit ∧
      limit - now < s.requestTimeout ∧ log = [(request, limit - now)] ∧ answer = .error (.timeout reason)
  | _ => False

theorem Fits.isInconclusive_iff (fits : task.Fits p service c log) (ended : task.Ended p service c record) :
    record.outcome.isInconclusive = true ↔ task.CutOff p.settings log := by
  cases task with
  | waiting | sent => cases ended
  | left now =>
    obtain ⟨silent, rfl⟩ := fits
    have given := ended.outcome_left silent
    rw [p.sending?_eq, Option.map_eq_none_iff, Probe.patience?_eq_none_iff] at silent
    simpa [CutOff, given] using silent
  | answered now answer =>
    obtain ⟨⟨request, span⟩, sends, rfl⟩ := fits
    obtain ⟨cutShort, patience, outcome⟩ := ended.outcome_answered sends
    rw [outcome, Probe.outcomeOf_isInconclusive]
    rcases Probe.patience?_eq_some_iff.mp patience with ⟨unlimited, rfl, rfl⟩ | ⟨limit, limited, before, rfl, rfl⟩
    · simp [CutOff, unlimited]
    · rw [decide_eq_true_eq]
      constructor
      · rintro ⟨short, reason, timedOut⟩
        have clipped : min (limit - now) p.settings.requestTimeout = limit - now := Nat.min_eq_left (Nat.le_of_lt short)
        exact ⟨limit, reason, request, limited, before, short, by rw [clipped], timedOut⟩
      · rintro ⟨limit', reason, request', limited', -, short, -, timedOut⟩
        obtain rfl := Option.some.inj (limited.symm.trans limited')
        exact ⟨short, reason, timedOut⟩

theorem CutOff.limited {s : RunSettings} (cutOff : task.CutOff s log) : s.runTimeout ≠ none := by
  cases task with
  | waiting | sent => cases cutOff
  | left =>
    obtain ⟨limit, limited, -⟩ := cutOff
    simp [limited]
  | answered =>
    obtain ⟨limit, reason, request, limited, -⟩ := cutOff
    simp [limited]

theorem Fits.outcome_of_timeout {now : Nat} {reason : String}
    (fits : (answered now (.error (.timeout reason))).Fits p service c log)
    (ended : (answered now (.error (.timeout reason))).Ended p service c record) {request : Request}
    (whole : (request, p.settings.requestTimeout) ∈ log) :
    record.outcome = .failed (SendFault.timeout reason).message := by
  obtain ⟨e, sends, rfl⟩ := fits
  obtain rfl := List.mem_singleton.mp whole
  obtain ⟨cutShort, patience, outcome⟩ := ended.outcome_answered sends
  have full : cutShort = false := by
    rcases Probe.patience?_eq_some_iff.mp patience with ⟨-, -, rfl⟩ | ⟨limit, -, -, span, rfl⟩
    · rfl
    · rw [decide_eq_false_iff_not]
      omega
  rw [outcome, full, Probe.outcomeOf]
  simp

end Progress

namespace Probe

variable {p : Probe} {s : Course} {report : RunReport}

structure KeepsDeadline (p : Probe) (s : Course) (report : RunReport) : Prop where
  once : (s.sent.map Prod.fst).Nodup
  unlimited : p.settings.runTimeout = none → ∀ r ∈ report.cases, r.outcome.isInconclusive = false
  inconclusive : ∀ (i : Nat) r, report.cases[i]? = some r → ∃ task, s.tasks[i]? = some task ∧
    (r.outcome.isInconclusive = true ↔ task.CutOff p.settings (Course.logOf s.sent i))
  failed : ∀ (i : Nat) r now reason request, report.cases[i]? = some r →
    s.tasks[i]? = some (.answered now (.error (.timeout reason))) → (i, request, p.settings.requestTimeout) ∈ s.sent →
      r.outcome = .failed (SendFault.timeout reason).message
  inTime : report.timedOut = false → ∀ r ∈ report.cases, r.outcome.isInconclusive = false
  without : p.settings.runTimeout = some 0 → s.sent = [] ∧ (∀ r ∈ report.cases, r.outcome.isInconclusive = true) ∧
    ∀ strict, (report.verdict strict).exitCode = 3

-- Each record is that of a case whose work has ended.
theorem Concludes.exists_ended (concludes : p.Concludes s report) :
    ∃ service cases, Course.Invariant p service cases s ∧ ∀ (i : Nat) r, report.cases[i]? = some r →
      ∃ c task, s.tasks[i]? = some task ∧ task.Fits p service c (Course.logOf s.sent i) ∧ task.Ended p service c r := by
  obtain ⟨service, cases, records, finished, -, -, reached, size, ended, rfl⟩ := concludes
  have fine := reached.fits
  refine ⟨service, cases, fine, fun i r kept => ?_⟩
  have within : i < cases.length := size ▸ (List.getElem?_eq_some_iff.mp kept).1
  have planned := List.getElem?_eq_getElem within
  obtain ⟨task, stands, done⟩ := ended i _ r planned kept
  exact ⟨cases[i], task, stands, fine.fits i _ task planned stands, done⟩

theorem sending?_of_no_time (none : p.settings.runTimeout = some 0) (service : Service) (c : TestCase) (now : Nat) :
    p.sending? service c now = Option.none := by
  rw [sending?_eq, Option.map_eq_none_iff, patience?_eq_none_iff]
  exact ⟨0, none, Nat.zero_le now⟩

theorem Concludes.inTime (concludes : p.Concludes s report) (fine : report.timedOut = false) :
    ∀ r ∈ report.cases, r.outcome.isInconclusive = false := by
  obtain ⟨service, cases, records, finished, -, -, -, -, -, rfl⟩ := concludes
  have both : (p.settings.runTimeout.any (· ≤ finished) || records.any (·.outcome.isInconclusive)) = false := fine
  rw [Bool.or_eq_false_iff, List.any_eq_false] at both
  exact fun r member => Bool.eq_false_iff.mpr (both.2 r member)

theorem Concludes.without (concludes : p.Concludes s report) (none : p.settings.runTimeout = some 0) :
    s.sent = [] ∧ (∀ r ∈ report.cases, r.outcome.isInconclusive = true) ∧
      ∀ strict, (report.verdict strict).exitCode = 3 := by
  obtain ⟨service, cases, fine, each⟩ := concludes.exists_ended
  have given : ∀ r ∈ report.cases, r.outcome.isInconclusive = true := by
    intro r member
    obtain ⟨i, kept⟩ := List.mem_iff_getElem?.mp member
    obtain ⟨c, task, -, fits, ended⟩ := each i r kept
    cases task with
    | waiting | sent => cases ended
    | answered now answer =>
      obtain ⟨e, sends, -⟩ := fits
      rw [sending?_of_no_time none] at sends
      cases sends
    | left now => exact ended.outcome_left fits.1
  refine ⟨?_, given, fun strict => ?_⟩
  · by_contra some
    obtain ⟨⟨i, e⟩, rest, sent⟩ := List.exists_cons_of_ne_nil some
    have member : (i, e) ∈ s.sent := sent ▸ List.mem_cons_self
    have within := fine.numbered _ member
    have fits := fine.fits i _ _ (List.getElem?_eq_getElem within)
      (List.getElem?_eq_getElem (fine.size.symm ▸ within : i < s.tasks.length))
    obtain ⟨now, sends⟩ := fits.exists_sending (Course.mem_logOf.mpr member)
    rw [sending?_of_no_time none] at sends
    cases sends
  · have nothing : ¬ report.SomeChecked := by
      rintro ⟨r, member, checked⟩
      have settled := given r member
      cases outcome : r.outcome <;> simp_all [Outcome.isChecked, Outcome.isInconclusive]
    rw [RunReport.verdict_exitCode, RunReport.expectedCode, if_pos nothing]

theorem Concludes.keepsDeadline (concludes : p.Concludes s report) : p.KeepsDeadline s report := by
  obtain ⟨service, cases, fine, each⟩ := concludes.exists_ended
  refine ⟨fine.once, fun unlimited r member => ?_, fun i r kept => ?_, ?_, concludes.inTime, concludes.without⟩
  · obtain ⟨i, kept⟩ := List.mem_iff_getElem?.mp member
    obtain ⟨c, task, -, fits, ended⟩ := each i r kept
    exact Bool.eq_false_iff.mpr fun given => ((fits.isInconclusive_iff ended).mp given).limited unlimited
  · obtain ⟨c, task, stands, fits, ended⟩ := each i r kept
    exact ⟨task, stands, fits.isInconclusive_iff ended⟩
  · intro i r now reason request kept stands whole
    obtain ⟨c, task, stands', fits, ended⟩ := each i r kept
    obtain rfl := Option.some.inj (stands.symm.trans stands')
    exact fits.outcome_of_timeout ended (Course.mem_logOf.mpr whole)

/-- A run whose cases can be drawn comes to a report wherever the clock can tell the end of its time, by a course that
sends what the run sends; and whatever course it takes, its report is that of a run, and it keeps to its time. -/
theorem deadline_kept {service : Service} (opened : Service.open p.baseUrl p.settings.headers = .ok service)
    {cases : List TestCase} (drawn : p.cases = .ok cases) :
    (∀ w : Surroundings, if w.tells p.settings then
        ∃ s report, p.run w = .ok report ∧ p.Concludes s report ∧ s.sent = p.sends service w cases
      else p.run w = .error .deadline) ∧
      ∀ s report, p.Concludes s report → (∃ w, p.run w = .ok report) ∧ p.KeepsDeadline s report := by
  refine ⟨fun w => ?_, fun s report concludes => ⟨concludes.exists_run, concludes.keepsDeadline⟩⟩
  obtain ⟨s, concludes, sent⟩ := exists_concludes opened drawn w
  have run := run_of_drawn opened drawn w
  split
  next told =>
    rw [if_pos told] at run
    exact ⟨s, _, run, concludes, sent⟩
  next untold => rw [run, if_neg untold]

theorem items_deadline_kept : ∃ (p : Probe) (cases : List TestCase), Document.read Document.items = .ok p.api ∧
    p.settings.runTimeout = some 0 ∧ p.cases = .ok cases ∧ cases.length = 4 ∧
      ∀ w, ∃ s report, p.run w = .ok report ∧ p.Concludes s report ∧ p.KeepsDeadline s report := by
  let probe (api : Api) : Probe :=
    { baseUrl := "http://127.0.0.1:1", location := "items.json", api, settings := { runTimeout := some 0 } }
  have checked : ((Document.read Document.items).toOption.any fun api =>
      (probe api).cases.toOption.any (·.length == 4)) = true := by decide +kernel
  have reached : (Service.open "http://127.0.0.1:1" []).toOption.isSome = true := by decide +kernel
  obtain ⟨api, read, checked⟩ := (Option.any_eq_true _ _).mp checked
  obtain ⟨cases, drawn, four⟩ := (Option.any_eq_true _ _).mp checked
  obtain ⟨service, opened⟩ := Option.isSome_iff_exists.mp reached
  rw [toOption_eq_some_iff] at read drawn opened
  have kept := deadline_kept (p := probe api) opened drawn
  refine ⟨probe api, cases, read, rfl, drawn, beq_iff_eq.mp four, fun w => ?_⟩
  have ends := kept.1 w
  rw [if_pos (show w.tells (probe api).settings = true from decide_eq_true (Nat.zero_le w.horizon))] at ends
  obtain ⟨s, report, run, concludes, -⟩ := ends
  exact ⟨s, report, run, concludes, (kept.2 s report concludes).2⟩

end Probe

end SchemaProbe
