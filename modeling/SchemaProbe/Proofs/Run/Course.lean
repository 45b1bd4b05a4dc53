import SchemaProbe.Proofs.Run.Pool
import SchemaProbe.Proofs.Run.Prepare

set_option autoImplicit false

namespace SchemaProbe

inductive Progress where
  | waiting
  | sent (now : Nat)
  | answered (now : Nat) (answer : Except SendFault Reply)
  -- Ended without being sent.
  | left (now : Nat)

structure Course where
  tasks : List Progress
  -- In the order of sending: the number of the case, the request and how long it may take.
  sent : List (Nat × Request × Nat)

namespace Probe

def sending? (p : Probe) (service : Service) (c : TestCase) (now : Nat) : Option (Request × Nat) :=
  (service.prepare c).toOption.bind fun request => (patience? p.settings now).map fun (span, _) => (request, span)

theorem sending?_eq (p : Probe) (service : Service) (c : TestCase) (now : Nat) :
    p.sending? service c now = (patience? p.settings now).map fun (span, _) => (service.request c, span) := by
  rw [sending?, service.prepare_eq_ok]
  rfl

theorem recordOf_eq (p : Probe) (service : Service) (c : TestCase) (now : Nat)
    (answer : Request → Nat → Except SendFault Reply) :
    p.recordOf service c now answer =
      { id := c.id
        operation := c.operation.label
        index := c.index.toUInt32
        target := c.target.map StatusKey.text
        request := (service.request c).record
        outcome := p.outcome c now (answer (service.request c)) } := by
  rw [recordOf, service.prepare_eq_ok]

-- Of the answers to a case only that to its own request counts, and none where nothing is sent.
theorem recordOf_of_sent {p : Probe} {service : Service} {c : TestCase} {now : Nat} {request : Request} {span : Nat}
    (sends : p.sending? service c now = some (request, span)) (answer : Request → Nat → Except SendFault Reply) :
    p.recordOf service c now answer = p.recordOf service c now fun _ _ => answer request span := by
  rw [sending?_eq] at sends
  obtain ⟨⟨span, cutShort⟩, here, same⟩ := Option.map_eq_some_iff.mp sends
  obtain ⟨rfl, rfl⟩ := Prod.mk.inj same
  simp only [recordOf_eq, outcome, here]

theorem recordOf_of_left {p : Probe} {service : Service} {c : TestCase} {now : Nat}
    (silent : p.sending? service c now = none) (answer answer' : Request → Nat → Except SendFault Reply) :
    p.recordOf service c now answer = p.recordOf service c now answer' := by
  rw [sending?_eq, Option.map_eq_none_iff] at silent
  simp only [recordOf_eq, outcome, silent]

def ending (p : Probe) (service : Service) (w : Surroundings) (i : Nat) (c : TestCase) : Progress :=
  match p.sending? service c (w.started i) with
  | some (request, span) => .answered (w.started i) (w.answer i request span)
  | none => .left (w.started i)

theorem sends_eq (p : Probe) (service : Service) (w : Surroundings) (cases : List TestCase) :
    p.sends service w cases =
      cases.zipIdx.filterMap fun (c, i) => (p.sending? service c (w.started i)).map (i, ·) := by
  simp only [sends, sending?, Option.map_bind, Option.map_map, Function.comp_def]

end Probe

namespace Progress

def Ended (p : Probe) (service : Service) (c : TestCase) : Progress → CaseRecord → Prop
  | answered now answer, record => record = p.recordOf service c now fun _ _ => answer
  | left now, record => ∀ answer, record = p.recordOf service c now answer
  | _, _ => False

def Fits (p : Probe) (service : Service) (c : TestCase) (log : List (Request × Nat)) : Progress → Prop
  | waiting => log = []
  | sent now | answered now _ => ∃ e, p.sending? service c now = some e ∧ log = [e]
  | left now => p.sending? service c now = none ∧ log = []

theorem Fits.length_le {p : Probe} {service : Service} {c : TestCase} {log : List (Request × Nat)} {task : Progress}
    (fits : task.Fits p service c log) : log.length ≤ 1 := by
  cases task with
  | waiting => simp [show log = [] from fits]
  | sent | answered =>
    obtain ⟨e, -, rfl⟩ := fits
    simp
  | left => simp [fits.2]

theorem Fits.exists_sending {p : Probe} {service : Service} {c : TestCase} {log : List (Request × Nat)} {task : Progress}
    (fits : task.Fits p service c log) {e : Request × Nat} (member : e ∈ log) :
    ∃ now, p.sending? service c now = some e := by
  cases task with
  | waiting => simp [show log = [] from fits] at member
  | sent now | answered now _ =>
    obtain ⟨e', sends, rfl⟩ := fits
    obtain rfl := List.mem_singleton.mp member
    exact ⟨now, sends⟩
  | left => simp [fits.2] at member

end Progress

theorem Probe.ending_ended {p : Probe} {service : Service} {c : TestCase} (w : Surroundings) (i : Nat) :
    (p.ending service w i c).Ended p service c (p.caseRecord service w i c) := by
  unfold ending
  split
  next request span sends => exact recordOf_of_sent sends (w.answer i)
  next silent => exact fun answer => recordOf_of_left silent _ answer

namespace Course

-- The clock may read anything, and the service answer anything.
inductive Step (p : Probe) (service : Service) (cases : List TestCase) : Course → Course → Prop where
  | send {s : Course} {i : Nat} {c : TestCase} {request : Request} {span : Nat} (now : Nat)
      (planned : cases[i]? = some c) (free : s.tasks[i]? = some .waiting)
      (sends : p.sending? service c now = some (request, span)) :
      Step p service cases s { tasks := s.tasks.set i (.sent now), sent := s.sent ++ [(i, request, span)] }
  | leave {s : Course} {i : Nat} {c : TestCase} (now : Nat) (planned : cases[i]? = some c)
      (free : s.tasks[i]? = some .waiting) (silent : p.sending? service c now = none) :
      Step p service cases s { s with tasks := s.tasks.set i (.left now) }
  | hear {s : Course} {i now : Nat} (answer : Except SendFault Reply) (busy : s.tasks[i]? = some (.sent now)) :
      Step p service cases s { s with tasks := s.tasks.set i (.answered now answer) }

def start (cases : List TestCase) : Course := { tasks := List.replicate cases.length .waiting, sent := [] }

def Reaches (p : Probe) (service : Service) (cases : List TestCase) (s : Course) : Prop :=
  Relation.ReflTransGen (Step p service cases) (start cases) s

-- What was sent for the case of a number.
def logOf (sent : List (Nat × Request × Nat)) (i : Nat) : List (Request × Nat) :=
  (sent.filter (·.1 == i)).map Prod.snd

theorem mem_logOf {sent : List (Nat × Request × Nat)} {i : Nat} {e : Request × Nat} :
    e ∈ logOf sent i ↔ (i, e) ∈ sent := by
  simp [logOf]

structure Invariant (p : Probe) (service : Service) (cases : List TestCase) (s : Course) : Prop where
  size : s.tasks.length = cases.length
  fits : ∀ (i : Nat) c task, cases[i]? = some c → s.tasks[i]? = some task → task.Fits p service c (logOf s.sent i)
  numbered : ∀ e ∈ s.sent, e.1 < cases.length

section
variable {p : Probe} {service : Service} {cases : List TestCase} {s s' : Course}

theorem start_fits : Invariant p service cases (start cases) where
  size := List.length_replicate
  fits i c task planned here := by
    rw [start, List.getElem?_replicate] at here
    split at here
    · cases here
      rfl
    · cases here
  numbered := by simp [start]

theorem getElem?_set_eq_some {tasks : List Progress} {i j : Nat} {new task : Progress}
    (here : (tasks.set i new)[j]? = some task) : (j = i ∧ task = new) ∨ (j ≠ i ∧ tasks[j]? = some task) := by
  rw [List.getElem?_set] at here
  split at here
  next same =>
    split at here
    · exact .inl ⟨same.symm, (Option.some.inj here).symm⟩
    · cases here
  next other => exact .inr ⟨Ne.symm other, here⟩

-- The other cases are left as they are.
theorem Invariant.set (fine : Invariant p service cases s) {i : Nat} {new : Progress}
    {sent : List (Nat × Request × Nat)} (others : ∀ j, j ≠ i → logOf sent j = logOf s.sent j)
    (fits : ∀ c, cases[i]? = some c → new.Fits p service c (logOf sent i))
    (numbered : ∀ e ∈ sent, e.1 < cases.length) :
    Invariant p service cases { tasks := s.tasks.set i new, sent } where
  size := by simpa using fine.size
  fits j c task planned here := by
    rcases getElem?_set_eq_some here with ⟨rfl, rfl⟩ | ⟨other, here⟩
    · exact fits c planned
    · rw [others j other]
      exact fine.fits j c task planned here
  numbered := numbered

theorem Step.fits (step : Step p service cases s s') (before : Invariant p service cases s) :
    Invariant p service cases s' := by
  cases step with
  | @send i c request span now planned free sends =>
    have log (j : Nat) : logOf (s.sent ++ [(i, request, span)]) j =
        logOf s.sent j ++ if i = j then [(request, span)] else [] := by
      by_cases same : i = j <;> simp [logOf, same]
    have silent : logOf s.sent i = [] := before.fits i c _ planned free
    refine before.set (fun j other => by simp [log, Ne.symm other]) (fun c' planned' => ?_) fun e member => ?_
    · obtain rfl := Option.some.inj (planned.symm.trans planned')
      exact ⟨_, sends, by simp [log, silent]⟩
    · rcases List.mem_append.mp member with earlier | last
      · exact before.numbered e earlier
      · obtain rfl := List.mem_singleton.mp last
        exact (List.getElem?_eq_some_iff.mp planned).1
  | @leave i c now planned free silent =>
    refine before.set (fun _ _ => rfl) (fun c' planned' => ?_) before.numbered
    obtain rfl := Option.some.inj (planned.symm.trans planned')
    exact ⟨silent, before.fits i c _ planned free⟩
  | @hear i now answer busy =>
    refine before.set (fun _ _ => rfl) (fun c planned => ?_) before.numbered
    have sent : (Progress.sent now).Fits p service c (logOf s.sent i) := before.fits i c _ planned busy
    exact sent

theorem Reaches.fits (reached : Reaches p service cases s) : Invariant p service cases s := by
  induction reached with
  | refl => exact start_fits
  | tail _ step before => exact step.fits before

theorem Invariant.once (fine : Invariant p service cases s) : (s.sent.map Prod.fst).Nodup := by
  rw [List.nodup_iff_count_le_one]
  intro i
  have counted : (s.sent.map Prod.fst).count i = (logOf s.sent i).length := by
    rw [List.count, List.countP_map, List.countP_eq_length_filter, logOf, List.length_map]
    rfl
  rw [counted]
  by_cases within : i < cases.length
  · have fits := fine.fits i _ _ (List.getElem?_eq_getElem within)
      (List.getElem?_eq_getElem (fine.size.symm ▸ within : i < s.tasks.length))
    exact fits.length_le
  · have none : s.sent.filter (·.1 == i) = [] := by
      rw [List.filter_eq_nil_iff]
      intro e member same
      exact within (beq_iff_eq.mp same ▸ fine.numbered e member)
    simp [logOf, none]

theorem Reaches.next (reached : Reaches p service cases s) (w : Surroundings) {k : Nat} {c : TestCase}
    (planned : cases[k]? = some c) (free : s.tasks[k]? = some .waiting) :
    Reaches p service cases
      { tasks := s.tasks.set k (p.ending service w k c)
        sent := s.sent ++ ((p.sending? service c (w.started k)).map (k, ·)).toList } := by
  unfold Probe.ending
  split
  next request span sends =>
    have within : k < s.tasks.length := (List.getElem?_eq_some_iff.mp free).1
    have sent := reached.tail (.send (w.started k) planned free sends)
    have answered := sent.tail (.hear (w.answer k request span) (List.getElem?_set_self within))
    simpa [Reaches, List.set_set, sends] using answered
  next silent => simpa [Reaches, silent] using reached.tail (.leave (w.started k) planned free silent)

def after (p : Probe) (service : Service) (w : Surroundings) (cases : List TestCase) (k : Nat) : Course where
  tasks := (cases.zipIdx.take k).map (fun (c, i) => p.ending service w i c) ++
    List.replicate (cases.length - k) .waiting
  sent := (cases.zipIdx.take k).filterMap fun (c, i) => (p.sending? service c (w.started i)).map (i, ·)

theorem after_succ (p : Probe) (service : Service) (w : Surroundings) {k : Nat} {c : TestCase}
    (planned : cases[k]? = some c) :
    (after p service w cases k).tasks[k]? = some .waiting ∧
      after p service w cases (k + 1) =
        { tasks := (after p service w cases k).tasks.set k (p.ending service w k c)
          sent := (after p service w cases k).sent ++ ((p.sending? service c (w.started k)).map (k, ·)).toList } := by
  obtain ⟨within, -⟩ := List.getElem?_eq_some_iff.mp planned
  have length : ((cases.zipIdx.take k).map fun (c, i) => p.ending service w i c).length = k := by
    simp [Nat.le_of_lt within]
  have rest : List.replicate (cases.length - k) Progress.waiting =
      .waiting :: List.replicate (cases.length - (k + 1)) .waiting := by
    rw [← List.replicate_succ]
    congr 1
    omega
  have next : cases.zipIdx.take (k + 1) = cases.zipIdx.take k ++ [(c, k)] := by
    rw [List.take_add_one, List.getElem?_zipIdx, planned]
    simp
  simp only [after, rest, next]
  refine ⟨?_, ?_⟩
  · rw [List.getElem?_append_right (Nat.le_of_eq length), length]
    simp
  · rw [List.set_append_right _ _ (Nat.le_of_eq length), length]
    cases sends : p.sending? service c (w.started k) <;> simp [sends]

theorem reaches_after (p : Probe) (service : Service) (w : Surroundings) {k : Nat} (within : k ≤ cases.length) :
    Reaches p service cases (after p service w cases k) := by
  induction k with
  | zero => exact (show after p service w cases 0 = start cases by simp [after, start]) ▸ .refl
  | succ k ih =>
    have planned : cases[k]? = some cases[k] := List.getElem?_eq_getElem within
    obtain ⟨free, done⟩ := after_succ p service w planned
    exact done ▸ (ih (Nat.le_of_lt within)).next w planned free

end

end Course

namespace Probe

def Concludes (p : Probe) (s : Course) (report : RunReport) : Prop :=
  ∃ service cases records finished, Service.open p.baseUrl p.settings.headers = .ok service ∧ p.cases = .ok cases ∧
    Course.Reaches p service cases s ∧ records.length = cases.length ∧
    (∀ (i : Nat) c record, cases[i]? = some c → records[i]? = some record →
      ∃ task, s.tasks[i]? = some task ∧ task.Ended p service c record) ∧
    report = p.reportOf finished records

variable {p : Probe} {report : RunReport}

theorem exists_concludes {service : Service} (opened : Service.open p.baseUrl p.settings.headers = .ok service)
    {cases : List TestCase} (drawn : p.cases = .ok cases) (w : Surroundings) :
    ∃ s, p.Concludes s (p.report service w cases) ∧ s.sent = p.sends service w cases := by
  have whole : cases.zipIdx.take cases.length = cases.zipIdx := List.take_of_length_le (by simp)
  refine ⟨Course.after p service w cases cases.length, ⟨service, cases, _, w.finished, opened, drawn,
    Course.reaches_after p service w (Nat.le_refl _), by simp [caseRecords], ?_, rfl⟩, ?_⟩
  · intro i c record planned kept
    have own : p.caseRecord service w i c = record := by simpa [caseRecords, planned] using kept
    exact ⟨p.ending service w i c, by simp [Course.after, whole, planned], own ▸ ending_ended w i⟩
  · rw [Course.after, whole, sends_eq]

theorem Concludes.exists_run {s : Course} (concludes : p.Concludes s report) : ∃ w, p.run w = .ok report := by
  obtain ⟨service, cases, records, finished, opened, drawn, -, size, ended, rfl⟩ := concludes
  have recorded : ∀ (i : Nat) c record, cases[i]? = some c → records[i]? = some record →
      Pool.Recorded p service c record := by
    intro i c record planned kept
    obtain ⟨task, -, same⟩ := ended i c record planned kept
    cases task with
    | waiting | sent => cases same
    | answered now answer => exact ⟨now, _, same⟩
    | left now => exact ⟨now, fun _ _ => .error (.transport ""), same _⟩
  obtain ⟨w, told, rfl, rfl⟩ := Pool.exists_surroundings size recorded finished
  exact ⟨w, run_eq_ok_iff.mpr ⟨told, service, cases, opened, drawn, rfl⟩⟩

end Probe

end SchemaProbe
