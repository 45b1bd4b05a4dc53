import Mathlib.Data.List.Induction
import Mathlib.Logic.Relation
import Mathlib.Tactic.Choose
import SchemaProbe.Proofs.Except
import SchemaProbe.Run.Basic

set_option autoImplicit false

namespace SchemaProbe

inductive Work where
  | waiting
  | running (now : Nat)
  | done (record : CaseRecord)

def Work.isRunning : Work → Bool
  | running _ => true
  | _ => false

namespace Pool

-- A worker takes a case that waits, if it is not one too many, or gets an answer for the one that it has.
inductive Step (p : Probe) (service : Service) (cases : List TestCase) : List Work → List Work → Prop where
  | begin {tasks : List Work} {i : Nat} (now : Nat) (free : tasks[i]? = some .waiting)
      (room : p.settings.concurrency = 0 ∨ tasks.countP Work.isRunning < p.settings.concurrency) :
      Step p service cases tasks (tasks.set i (.running now))
  | finish {tasks : List Work} {i now : Nat} {c : TestCase} (answer : Request → Nat → Except SendFault Reply)
      (planned : cases[i]? = some c) (busy : tasks[i]? = some (.running now)) :
      Step p service cases tasks (tasks.set i (.done (p.recordOf service c now answer)))

def start (cases : List TestCase) : List Work := List.replicate cases.length .waiting

def Reaches (p : Probe) (service : Service) (cases : List TestCase) (tasks : List Work) : Prop :=
  Relation.ReflTransGen (Step p service cases) (start cases) tasks

def Recorded (p : Probe) (service : Service) (c : TestCase) (record : CaseRecord) : Prop :=
  ∃ now answer, record = p.recordOf service c now answer

structure Invariant (p : Probe) (service : Service) (cases : List TestCase) (tasks : List Work) : Prop where
  size : tasks.length = cases.length
  recorded : ∀ (i : Nat) c record, cases[i]? = some c → tasks[i]? = some (Work.done record) → Recorded p service c record

section
variable {p : Probe} {service : Service} {cases : List TestCase} {tasks tasks' : List Work}

theorem start_invariant : Invariant p service cases (start cases) := by
  refine ⟨List.length_replicate, fun i c record planned done => ?_⟩
  simp [start, List.getElem?_replicate] at done

theorem Step.invariant (step : Step p service cases tasks tasks') (before : Invariant p service cases tasks) :
    Invariant p service cases tasks' := by
  obtain ⟨size, recorded⟩ := before
  cases step with
  | @begin i now free room =>
    refine ⟨by simpa using size, fun j c record planned done => ?_⟩
    rw [List.getElem?_set] at done
    split at done
    · simp at done
    · exact recorded j c record planned done
  | @finish i now c answer planned busy =>
    refine ⟨by simpa using size, fun j c' record planned' done => ?_⟩
    rw [List.getElem?_set] at done
    split at done
    next same =>
      subst same
      rw [planned] at planned'
      cases planned'
      simp only [Option.ite_none_right_eq_some, Option.some.injEq, Work.done.injEq] at done
      exact ⟨now, answer, done.2.symm⟩
    next => exact recorded j c' record planned' done

theorem Reaches.invariant (reached : Reaches p service cases tasks) : Invariant p service cases tasks := by
  induction reached with
  | refl => exact start_invariant
  | tail _ step before => exact step.invariant before

-- Records that are each come to at some reading of the clock are those of some surroundings.
theorem exists_surroundings {records : List CaseRecord} (size : records.length = cases.length)
    (recorded : ∀ (i : Nat) c record, cases[i]? = some c → records[i]? = some record → Recorded p service c record)
    (finished : Nat) : ∃ w : Surroundings, w.tells p.settings = true ∧ w.finished = finished ∧
      records = p.caseRecords service w cases := by
  have each : ∀ i : Nat, ∃ now answer, ∀ c record, cases[i]? = some c → records[i]? = some record →
      record = p.recordOf service c now answer := by
    intro i
    by_cases within : i < cases.length
    · have planned := List.getElem?_eq_getElem within
      have kept := List.getElem?_eq_getElem (size.symm ▸ within : i < records.length)
      obtain ⟨now, answer, same⟩ := recorded i _ _ planned kept
      refine ⟨now, answer, fun c record here done => ?_⟩
      rw [planned] at here
      rw [kept] at done
      cases here
      cases done
      exact same
    · refine ⟨0, fun _ _ => .error (.transport ""), fun c record here => ?_⟩
      rw [List.getElem?_eq_none (by omega)] at here
      simp at here
  -- Each case has its own number, so that one clock and one service serve them all.
  choose started answer same using each
  refine ⟨⟨p.settings.runTimeout.getD 0, started, answer, finished⟩, ?_, rfl, List.ext_getElem? fun i => ?_⟩
  · cases limited : p.settings.runTimeout <;> simp [Surroundings.tells, limited]
  rw [Probe.caseRecords, List.getElem?_map, List.getElem?_zipIdx]
  by_cases within : i < cases.length
  · have planned := List.getElem?_eq_getElem within
    have kept := List.getElem?_eq_getElem (size.symm ▸ within : i < records.length)
    rw [planned, kept, same i _ _ planned kept]
    simp [Probe.caseRecord]
  · rw [List.getElem?_eq_none (by omega), List.getElem?_eq_none (by omega)]
    rfl

theorem Reaches.caseRecords {records : List CaseRecord} (reached : Reaches p service cases (records.map .done))
    (finished : Nat) : ∃ w : Surroundings, w.tells p.settings = true ∧ w.finished = finished ∧
      records = p.caseRecords service w cases := by
  obtain ⟨size, recorded⟩ := reached.invariant
  refine exists_surroundings (by simpa using size) (fun i c record planned kept => ?_) finished
  exact recorded i c record planned (by rw [List.getElem?_map, kept]; rfl)

theorem caseRecords_concat (w : Surroundings) (before : List TestCase) (c : TestCase) :
    p.caseRecords service w (before ++ [c]) =
      p.caseRecords service w before ++ [p.recordOf service c (w.started before.length) (w.answer before.length)] := by
  simp [Probe.caseRecords, List.zipIdx_append, Probe.caseRecord]

theorem Reaches.next {w : Surroundings} {before after : List TestCase} {c : TestCase}
    (all : cases = before ++ c :: after)
    (reached : Reaches p service cases
      ((p.caseRecords service w before).map .done ++ List.replicate (after.length + 1) .waiting)) :
    Reaches p service cases
      ((p.caseRecords service w (before ++ [c])).map .done ++ List.replicate after.length .waiting) := by
  have size : ((p.caseRecords service w before).map Work.done).length = before.length := by
    simp [Probe.caseRecords]
  have idle : ((p.caseRecords service w before).map Work.done).countP Work.isRunning = 0 := by
    simp [List.countP_eq_zero, Work.isRunning]
  rw [caseRecords_concat, List.map_append, List.append_assoc]
  rw [List.replicate_succ] at reached
  generalize (p.caseRecords service w before).map Work.done = finished at *
  have free : (finished ++ .waiting :: List.replicate after.length .waiting)[before.length]? = some Work.waiting := by
    simp [← size]
  have alone : (finished ++ Work.waiting :: List.replicate after.length Work.waiting).countP Work.isRunning = 0 := by
    simp [idle, List.countP_replicate, Work.isRunning]
  -- Nothing else runs, so that there is room whatever the number of workers.
  have begun := reached.tail (.begin (w.started before.length) free (by omega))
  rw [← size, List.set_append_right _ _ (Nat.le_refl _), Nat.sub_self, List.set_cons_zero] at begun
  have busy : (finished ++ .running (w.started finished.length) :: List.replicate after.length .waiting)[before.length]? =
      some (Work.running (w.started finished.length)) := by
    simp [← size]
  have ended := begun.tail (.finish (w.answer before.length) (c := c) (by simp [all]) busy)
  rw [← size, List.set_append_right _ _ (Nat.le_refl _), Nat.sub_self, List.set_cons_zero] at ended
  simpa [← size, Reaches] using ended

theorem reaches_caseRecords (w : Surroundings) {before after : List TestCase} (all : cases = before ++ after) :
    Reaches p service cases
      ((p.caseRecords service w before).map .done ++ List.replicate after.length .waiting) := by
  induction before using List.reverseRecOn generalizing after with
  | nil =>
    subst all
    exact Relation.ReflTransGen.refl
  | append_singleton before c ih =>
    have all' : cases = before ++ c :: after := by simpa using all
    exact (ih all').next all'

end

end Pool

namespace Probe

-- A report that a pool of workers can come to.
def Finishes (p : Probe) (report : RunReport) : Prop :=
  ∃ service cases records finished,
    Service.open p.baseUrl p.settings.headers = .ok service ∧ p.cases = .ok cases ∧
      Pool.Reaches p service cases (records.map .done) ∧ report = p.reportOf finished records

theorem run_eq_ok_iff {p : Probe} {w : Surroundings} {report : RunReport} :
    p.run w = .ok report ↔ w.tells p.settings = true ∧
      ∃ service cases, Service.open p.baseUrl p.settings.headers = .ok service ∧ p.cases = .ok cases ∧
        report = p.report service w cases := by
  unfold run
  by_cases told : w.tells p.settings = true
  · simp only [told, if_true, true_and, bind_eq_ok_iff, mapError_eq_ok_iff, pure_eq_ok_iff]
    constructor
    · rintro ⟨service, opened, cases, drawn, rfl⟩
      exact ⟨service, cases, opened, drawn, rfl⟩
    · rintro ⟨service, cases, opened, drawn, rfl⟩
      exact ⟨service, opened, cases, drawn, rfl⟩
  · simp [told]

theorem run_eq_deadline {p : Probe} {w : Surroundings} (untold : w.tells p.settings = false) :
    p.run w = .error .deadline := by
  simp [run, untold]

theorem run_of_drawn {p : Probe} {service : Service}
    (opened : Service.open p.baseUrl p.settings.headers = .ok service) {cases : List TestCase}
    (drawn : p.cases = .ok cases) (w : Surroundings) :
    p.run w = if w.tells p.settings then .ok (p.report service w cases) else .error .deadline := by
  cases told : w.tells p.settings with
  | false => exact run_eq_deadline told
  | true => exact run_eq_ok_iff.mpr ⟨told, service, cases, opened, drawn, rfl⟩

theorem finishes_iff_run {p : Probe} {report : RunReport} : p.Finishes report ↔ ∃ w, p.run w = .ok report := by
  simp only [run_eq_ok_iff]
  constructor
  · rintro ⟨service, cases, records, finished, opened, drawn, reached, rfl⟩
    obtain ⟨w, told, rfl, rfl⟩ := reached.caseRecords finished
    exact ⟨w, told, service, cases, opened, drawn, rfl⟩
  · rintro ⟨w, -, service, cases, opened, drawn, rfl⟩
    have reached : Pool.Reaches p service cases ((p.caseRecords service w cases).map .done) := by
      have all : cases = cases ++ [] := (List.append_nil cases).symm
      simpa using Pool.reaches_caseRecords w all
    exact ⟨service, cases, _, w.finished, opened, drawn, reached, rfl⟩

end Probe

end SchemaProbe
