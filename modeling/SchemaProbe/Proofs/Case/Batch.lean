import SchemaProbe.Case.Plan
import SchemaProbe.Proofs.Draw
import SchemaProbe.Proofs.Except

set_option autoImplicit false

namespace SchemaProbe.CasePlan

theorem draw_random (i : Nat) (p : Parameter) :
    draw .random i p = (if p.required then pure true else Draw.coin) >>= fun wanted =>
      if wanted then Sample.fill p.type .random >>= fun v => pure (v.orElse fun _ => Slot.minimalValue p)
      else pure none := by
  rw [draw]
  cases p.required <;> exact congrArg (_ >>= ·) (Draw.turned _ _)

theorem drawValues_cons (slot : Slot) (i : Nat) (p : Parameter) (fixed : Option Json)
    (rest : List (Parameter × Option Json)) :
    drawValues slot i ((p, fixed) :: rest) = (match fixed with
      | some v => pure (some v)
      | none => draw slot i p : Draw (Option Json)) >>= fun v =>
        drawValues slot (i + 1) rest >>= fun values => pure (match v with
          | some v => ⟨p.name, p.location, v⟩ :: values
          | none => values) := by
  cases fixed <;> rfl

theorem drawCase_yields (plan : CasePlan) (i : Nat) (slot : Slot) :
    (plan.drawCase i slot).Yields fun c => c.operation = plan.operation ∧ c.index = min i (2 ^ 32 - 1) ∧
      c.target = plan.operation.statuses[i % plan.operation.statuses.length]? :=
  Draw.Yields.after fun _ => Draw.Yields.after fun _ => Draw.yields_pure ⟨rfl, rfl, rfl⟩

theorem exists_slot_of_case? {plan : CasePlan} {i : Nat} {c : TestCase} (drawn : plan.case? i = some (.ok c)) :
    ∃ slot, plan.slots[i]? = some slot ∧ ∀ P : TestCase → Prop, (plan.drawCase i slot).Yields P → P c := by
  obtain ⟨slot, stands, done⟩ := Option.map_eq_some_iff.mp drawn
  obtain ⟨⟨c, rest⟩, run, rfl⟩ := map_eq_ok_iff.mp done
  exact ⟨slot, stands, fun P yields => yields _ c rest run⟩

theorem case?_eq_some_ok {plan : CasePlan} {i : Nat} {c : TestCase} (drawn : plan.case? i = some (.ok c)) :
    c.operation = plan.operation ∧ c.index = min i (2 ^ 32 - 1) ∧
      c.target = plan.operation.statuses[i % plan.operation.statuses.length]? := by
  obtain ⟨slot, -, given⟩ := exists_slot_of_case? drawn
  exact given _ (plan.drawCase_yields i slot)

theorem exists_case? {plan : CasePlan} {i : Nat} {slot : Slot} (stands : plan.slots[i]? = some slot)
    {P : TestCase → Prop} (succeeds : (plan.drawCase i slot).Succeeds) (yields : (plan.drawCase i slot).Yields P) :
    ∃ c, plan.case? i = some (.ok c) ∧ P c := by
  obtain ⟨c, rest, done⟩ := succeeds (RandomSource.ofSeed (Seed.ofCase plan.baseSeed i))
  refine ⟨c, ?_, yields _ c rest done⟩
  rw [case?, stands, Option.map_some, StateT.run, done]
  rfl

theorem case?_isSome {plan : CasePlan} {i : Nat} : (plan.case? i).isSome = true ↔ i < plan.size := by
  simp [case?, size]

-- Where something stands at each of the first indices, nothing is filtered out.
theorem getElem?_filterMap_range {α : Type} {f : Nat → Option α} {n : Nat} (each : ∀ i < n, (f i).isSome = true) :
    ((List.range n).filterMap f).length = n ∧ ∀ i < n, ((List.range n).filterMap f)[i]? = f i := by
  induction n with
  | zero => simp
  | succ n ih =>
    obtain ⟨length, before⟩ := ih fun i within => each i (by omega)
    obtain ⟨last, stands⟩ := Option.isSome_iff_exists.mp (each n (by omega))
    rw [List.range_succ, List.filterMap_append]
    refine ⟨by simp [length, stands], fun i within => ?_⟩
    by_cases earlier : i < n
    · rw [List.getElem?_append_left (by omega), before i earlier]
    · have same : i = n := by omega
      rw [List.getElem?_append_right (by omega)]
      simp [same, length, stands]

def draws (plan : CasePlan) : List (Except DrawFault TestCase) := (List.range plan.size).filterMap plan.case?

theorem length_draws (plan : CasePlan) : plan.draws.length = plan.size :=
  (getElem?_filterMap_range fun _ => case?_isSome.mpr).1

theorem getElem?_draws (plan : CasePlan) (i : Nat) : plan.draws[i]? = plan.case? i := by
  by_cases within : i < plan.size
  · exact (getElem?_filterMap_range fun _ => case?_isSome.mpr).2 i within
  · rw [List.getElem?_eq_none (by rw [length_draws]; omega)]
    exact (Option.not_isSome_iff_eq_none.mp fun some => within (case?_isSome.mp some)).symm

theorem cases_eq_ok {plan : CasePlan} {batch : List TestCase} (drawn : plan.cases = .ok batch) :
    batch.length = plan.size ∧ ∀ i c, batch[i]? = some c → plan.case? i = some (.ok c) := by
  have all : List.Forall₂ (fun x c => x = .ok c) plan.draws batch := mapM_eq_ok_iff.mp drawn
  have size : batch.length = plan.size := all.length_eq.symm.trans plan.length_draws
  refine ⟨size, fun i c here => ?_⟩
  obtain ⟨within, rfl⟩ := List.getElem?_eq_some_iff.mp here
  have planned : i < plan.draws.length := by rw [length_draws]; omega
  rw [← getElem?_draws, List.getElem?_eq_getElem planned]
  exact congrArg some (all.get planned within)

theorem exists_cases_iff {plan : CasePlan} :
    (∃ batch, plan.cases = .ok batch) ↔ ∀ i < plan.size, ∃ c, plan.case? i = some (.ok c) := by
  constructor
  · rintro ⟨batch, drawn⟩ i within
    obtain ⟨size, each⟩ := cases_eq_ok drawn
    exact ⟨_, each i _ (List.getElem?_eq_getElem (by omega))⟩
  · intro each
    cases drawn : plan.cases with
    | ok batch => exact ⟨batch, rfl⟩
    | error fault =>
      obtain ⟨x, member, failed⟩ := exists_of_mapM_eq_error (show plan.draws.mapM id = .error fault from drawn)
      obtain ⟨i, here⟩ := List.mem_iff_getElem?.mp member
      rw [getElem?_draws] at here
      obtain ⟨c, succeeded⟩ := each i (case?_isSome.mp (by simp [here]))
      rw [here, Option.some.injEq] at succeeded
      subst succeeded
      cases failed

section
variable {plan : CasePlan}

theorem advance_case {position : Nat} {c : TestCase} (here : plan.case? position = some (.ok c)) :
    plan.advance position 0 = .ok (some c, position + 1) := by
  rw [advance, here]
  rfl

theorem advance_end {position : Nat} (past : plan.size ≤ position) :
    plan.advance position 0 = .ok (none, position) := by
  have nothing : plan.case? position = none :=
    Option.not_isSome_iff_eq_none.mp fun some => absurd (case?_isSome.mp some) (by omega)
  rw [advance, nothing]

def answers (plan : CasePlan) : Nat → Nat → Except DrawFault (List (Option TestCase))
  | _, 0 => return []
  | position, times + 1 => do
    let (c, behind) ← plan.advance position 0
    let rest ← answers plan behind times
    return c :: rest

theorem answers_end {position : Nat} (past : plan.size ≤ position) (times : Nat) :
    plan.answers position times = .ok (List.replicate times none) := by
  induction times with
  | zero => rfl
  | succ times ih =>
    rw [answers, advance_end past]
    change (plan.answers position times >>= fun rest => pure (none :: rest)) = _
    rw [ih]
    rfl

theorem answers_cases {batch : List TestCase} {position : Nat}
    (each : ∀ i c, batch[i]? = some c → plan.case? (position + i) = some (.ok c))
    (last : plan.size ≤ position + batch.length) (further : Nat) :
    plan.answers position (batch.length + further) = .ok (batch.map some ++ List.replicate further none) := by
  -- Over the cases that are still to come, the first of which stands at the position.
  induction batch generalizing position with
  | nil => simpa using answers_end (by simpa using last) further
  | cons c rest ih =>
    have later : plan.answers (position + 1) (rest.length + further) =
        .ok (rest.map some ++ List.replicate further none) := by
      refine ih (fun i c here => ?_) (by simpa [Nat.add_assoc, Nat.add_comm 1] using last)
      rw [Nat.add_assoc, Nat.add_comm 1 i]
      exact each (i + 1) c here
    have first : plan.case? position = some (.ok c) := each 0 c rfl
    rw [List.length_cons, Nat.add_right_comm, answers, advance_case first]
    change (plan.answers (position + 1) (rest.length + further) >>= fun rest => pure (some c :: rest)) = _
    rw [later]
    rfl

end

end SchemaProbe.CasePlan
