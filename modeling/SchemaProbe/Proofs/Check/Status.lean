import SchemaProbe.Proofs.Check.Schema

set_option autoImplicit false

namespace SchemaProbe

namespace StatusKey

theorem class?_eq_some_iff {status c : Nat} : class? status = some c ↔ status / 100 = c ∧ c < 256 := by
  unfold class?
  split <;> simp <;> omega

theorem accepts_iff {k : StatusKey} {status : Nat} :
    k.accepts status = true ↔ k = code status ∨ k = range (status / 100) ∨ k = default := by
  cases k with
  | code n => simp [accepts]
  | range c => simp [accepts, eq_comm (a := status / 100)]
  | default => simp [accepts]

theorem not_before_self (k : StatusKey) : ¬ k.before k = true := by
  simp [before_iff]

theorem range_before_default (c : Nat) : (range c).before default = true := by
  simp [before, rank]

theorem code_before {n : Nat} {k : StatusKey} (other : ∀ m, k ≠ code m) : (code n).before k = true := by
  cases k with
  | code m => exact absurd rfl (other m)
  | range | default => simp [before, rank]

end StatusKey

namespace ByStatus

variable {α : Type} {m : ByStatus α}

-- Codes have two bytes, and ranges one.
def Sized (m : ByStatus α) : Prop := ∀ k ∈ m.keys, match k with
  | .code n => n < 2 ^ 16
  | .range c => c < 2 ^ 8
  | .default => True

def first? (m : ByStatus α) (status : Nat) : Option (StatusKey × α) := List.find? (fun e => e.1.accepts status) m

theorem get?_eq_none_iff {k : StatusKey} : m.get? k = none ↔ k ∉ m.keys := by
  rw [ByStatus.get?, List.lookup_eq_none_iff, keys, List.mem_map]
  constructor
  · rintro absent ⟨e, member, rfl⟩
    simpa using absent e member
  · intro absent e member
    rw [bne_iff_ne]
    rintro rfl
    exact absent ⟨e, member, rfl⟩

theorem first?_eq_none_iff {status : Nat} : m.first? status = none ↔ ∀ k ∈ m.keys, k.accepts status = false := by
  simp [first?, keys]

-- In a sorted map the search ends at a key that comes before all others that accept the status.
theorem first?_of_least (sorted : m.Sorted) {k : StatusKey} {v : α} (found : m.get? k = some v) {status : Nat}
    (accepted : k.accepts status = true)
    (least : ∀ l ∈ m.keys, l.accepts status = true → l = k ∨ k.before l = true) : m.first? status = some (k, v) := by
  obtain ⟨before, after, rfl⟩ := List.append_of_mem (mem_of_get? found)
  rw [first?, List.find?_eq_some_iff_append]
  refine ⟨accepted, before, after, rfl, fun e member => ?_⟩
  have earlier : e.1.before k = true := by
    rw [Sorted, keys, List.map_append, List.pairwise_append] at sorted
    exact sorted.2.2 e.1 (List.mem_map_of_mem member) k List.mem_cons_self
  rw [Bool.not_eq_true']
  refine Bool.eq_false_iff.mpr fun also => ?_
  rcases least e.1 (List.mem_map_of_mem (List.mem_append_left _ member)) also with same | later
  · exact k.not_before_self (same ▸ earlier)
  · exact k.not_before_self (StatusKey.before_trans later earlier)

theorem find?_eq_first? (sorted : m.Sorted) (sized : m.Sized) (status : Nat) :
    m.find? status = (m.first? status).map Prod.snd := by
  cases code : m.get? (.code status) with
  | some v =>
    have first := first?_of_least sorted code (StatusKey.accepts_iff.mpr (.inl rfl)) fun l _ accepted => by
      rcases StatusKey.accepts_iff.mp accepted with rfl | rfl | rfl
      · exact .inl rfl
      · exact .inr (StatusKey.code_before nofun)
      · exact .inr (StatusKey.code_before nofun)
    rw [find?, code, first]
    rfl
  | none =>
    have noCode := get?_eq_none_iff.mp code
    cases range : (StatusKey.class? status).bind fun c => m.get? (.range c) with
    | some v =>
      obtain ⟨c, here, found⟩ := Option.bind_eq_some_iff.mp range
      obtain ⟨rfl, -⟩ := StatusKey.class?_eq_some_iff.mp here
      have first := first?_of_least sorted found (StatusKey.accepts_iff.mpr (.inr (.inl rfl))) fun l listed accepted => by
        rcases StatusKey.accepts_iff.mp accepted with rfl | rfl | rfl
        · exact absurd listed noCode
        · exact .inl rfl
        · exact .inr (StatusKey.range_before_default _)
      rw [find?, code, range, first]
      rfl
    | none =>
      -- A range that accepts the status has its class, as ranges are single bytes.
      have noRange : .range (status / 100) ∉ m.keys := fun listed => by
        rw [StatusKey.class?_eq_some_iff.mpr ⟨rfl, sized _ listed⟩] at range
        exact get?_eq_none_iff.mp range listed
      have only {l : StatusKey} (listed : l ∈ m.keys) (accepted : l.accepts status = true) : l = .default := by
        rcases StatusKey.accepts_iff.mp accepted with rfl | rfl | rfl
        · exact absurd listed noCode
        · exact absurd listed noRange
        · rfl
      rw [find?, code, range]
      cases other : m.get? .default with
      | some v =>
        rw [first?_of_least sorted other rfl fun l listed accepted => .inl (only listed accepted)]
        rfl
      | none =>
        have nothing : m.first? status = none := first?_eq_none_iff.mpr fun l listed =>
          Bool.eq_false_iff.mpr fun accepted => get?_eq_none_iff.mp other (only listed accepted ▸ listed)
        rw [nothing]
        rfl

end ByStatus

namespace Check

theorem status_passes_iff {op : Operation} {r : Reply} :
    judge op r .status = .pass .status ↔ (op.response? r.status.toNat).isSome = true := by
  rw [judge_eq_pass_iff, fault?, statusFault?]
  split <;> simp_all

theorem judge_undocumented {op : Operation} {r : Reply} (undocumented : op.response? r.status.toNat = none) {c : Check}
    (other : c ∈ [contentType, schema, headers]) : judge op r c = .pass c := by
  rw [judge_eq_pass_iff]
  simp only [List.mem_cons, List.not_mem_nil, or_false] at other
  rcases other with rfl | rfl | rfl
  · simp [fault?, contentTypeFault?, undocumented]
  · simp [fault?, schemaFault?, undocumented]
  · simp [fault?, headersFault?, undocumented]

end Check

/-- The response to a status is that of the first key in order that accepts it. The status check passes just when there
is such a key, and without one the checks of content type, body and headers pass whatever the reply has. -/
theorem Operation.response?_first {op : Operation} (sorted : op.responses.Sorted) (sized : op.responses.Sized)
    (status : UInt16) :
    op.response? status.toNat = (op.responses.first? status.toNat).map Prod.snd ∧
      (op.response? status.toNat = none ↔ ∀ k ∈ op.statuses, k.accepts status.toNat = false) ∧
      ∀ r : Reply, r.status = status →
        (Check.judge op r .status = .pass .status ↔ ∃ k ∈ op.statuses, k.accepts status.toNat = true) ∧
        ((∀ k ∈ op.statuses, k.accepts status.toNat = false) →
          ∀ c ∈ [Check.contentType, .schema, .headers], Check.judge op r c = .pass c) := by
  have search : op.response? status.toNat = (op.responses.first? status.toNat).map Prod.snd :=
    ByStatus.find?_eq_first? sorted sized status.toNat
  have none : op.response? status.toNat = none ↔ ∀ k ∈ op.statuses, k.accepts status.toNat = false := by
    rw [search, Option.map_eq_none_iff, ByStatus.first?_eq_none_iff]
    rfl
  refine ⟨search, none, ?_⟩
  rintro r rfl
  refine ⟨?_, fun undocumented c other => Check.judge_undocumented (none.mpr undocumented) other⟩
  rw [Check.status_passes_iff, Option.isSome_iff_ne_none, Ne, none]
  simp

def ranged : Operation where
  method := .get
  path := "/notes"
  operationId := none
  parameters := []
  responses := [(.code 404, {}), (.range 2, { contentTypes := ["text/plain"] }), (.range 4, { schema := some (.bool false) })]
  unsupported := none

theorem ranged_response?_first : ranged.responses.Sorted ∧ ranged.responses.Sized ∧
    (ranged.responses.first? 404).map Prod.fst = some (.code 404) ∧
    (ranged.responses.first? 499).map Prod.fst = some (.range 4) ∧
    ranged.response? 499 = (ranged.responses.first? 499).map Prod.snd ∧ ranged.response? 65535 = none ∧
    ∀ headers body elapsedMicros, Check.judge ranged { status := 65535, headers, body, elapsedMicros } .headers =
      .pass .headers := by
  have sorted : ranged.responses.Sorted := by
    unfold ByStatus.Sorted
    decide
  have sized : ranged.responses.Sized := by simp [ByStatus.Sized, ByStatus.keys, ranged]
  have absent : ∀ k ∈ ranged.statuses, k.accepts (65535 : UInt16).toNat = false := by decide
  obtain ⟨here, -, -⟩ := Operation.response?_first sorted sized 499
  obtain ⟨-, none, checks⟩ := Operation.response?_first sorted sized 65535
  exact ⟨sorted, sized, by decide, by decide, here, none.mpr absent, fun headers body elapsedMicros =>
    (checks _ rfl).2 absent _ (by decide)⟩

end SchemaProbe
