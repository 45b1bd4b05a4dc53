import SchemaProbe.Proofs.Report.Accounts

set_option autoImplicit false

namespace SchemaProbe

-- What is left out stays left out: it was kept before, or the list is full for good.
theorem keepMessage_take_eraseDups (offered : List String) (m : String) :
    keepMessage (offered.eraseDups.take mostDiagnostics) m = (offered ++ [m]).eraseDups.take mostDiagnostics := by
  rw [List.eraseDups_append, keepMessage]
  by_cases full : mostDiagnostics ≤ offered.eraseDups.length
  · rw [if_neg (by simp [full]), List.take_append_of_le_length full]
  · have room : offered.eraseDups.length < mostDiagnostics := Nat.lt_of_not_le full
    rw [List.take_of_length_le (Nat.le_of_lt room)]
    by_cases known : m ∈ offered
    · have nothing : [m].removeAll offered = [] := by simp [List.removeAll, known]
      rw [if_neg fun free => free.2 (List.mem_eraseDups.mpr known), nothing, List.eraseDups_nil, List.append_nil,
        List.take_of_length_le (Nat.le_of_lt room)]
    · have itself : [m].removeAll offered = [m] := by simp [List.removeAll, known]
      have fits : (offered.eraseDups ++ [m]).length ≤ mostDiagnostics := by simpa [Nat.succ_le_iff] using room
      rw [if_pos ⟨room, fun kept => known (List.mem_eraseDups.mp kept)⟩, itself]
      exact (List.take_of_length_le fits).symm

-- The induction is on what is still to come; the messages offered so far stand for the list that holds the kept ones.
theorem foldl_keepMessage_take_eraseDups (offered later : List String) :
    later.foldl keepMessage (offered.eraseDups.take mostDiagnostics) =
      (offered ++ later).eraseDups.take mostDiagnostics := by
  induction later generalizing offered with
  | nil => simp
  | cons m later ih => rw [List.foldl_cons, keepMessage_take_eraseDups, ih, List.append_assoc, List.singleton_append]

theorem foldl_keepMessage (messages : List String) :
    messages.foldl keepMessage [] = messages.eraseDups.take mostDiagnostics := by
  simpa using foldl_keepMessage_take_eraseDups [] messages

-- What a result has to say if it failed.
def CheckResult.complaint? (r : CheckResult) : Option String := if r.passed then none else r.message

namespace Tally

theorem record_diagnostics (t : Tally) (r : CheckResult) :
    (t.record r).diagnostics = r.complaint?.toList.foldl keepMessage t.diagnostics := by
  unfold record CheckResult.complaint?
  split
  · rfl
  · cases r.message <;> rfl

theorem foldl_record_diagnostics (t : Tally) (results : List CheckResult) :
    (results.foldl record t).diagnostics =
      (results.filterMap CheckResult.complaint?).foldl keepMessage t.diagnostics := by
  induction results generalizing t with
  | nil => rfl
  | cons r results ih =>
    rw [List.foldl_cons, ih, record_diagnostics, List.filterMap_cons]
    cases r.complaint? <;> rfl

theorem addOwn_diagnostics (earlier : List Check) (t : Tally) (o : Outcome) :
    (addOwn earlier t o).diagnostics =
      ((taken earlier t.check o.results).filterMap CheckResult.complaint?).foldl keepMessage t.diagnostics := by
  cases o with
  | checked reply results => exact foldl_record_diagnostics t _
  | failed | inconclusive => simp [addOwn, miss, taken, Outcome.results]

theorem foldl_addOwn_diagnostics (earlier : List Check) (t : Tally) (outcomes : List Outcome) :
    (outcomes.foldl (addOwn earlier) t).diagnostics =
      (outcomes.flatMap fun o => (taken earlier t.check o.results).filterMap CheckResult.complaint?).foldl
        keepMessage t.diagnostics := by
  induction outcomes generalizing t with
  | nil => rfl
  | cons o outcomes ih =>
    rw [List.foldl_cons, ih, addOwn_check, addOwn_diagnostics, List.flatMap_cons, List.foldl_append]

end Tally

namespace RunReport

variable {r : RunReport}

def complaints (r : RunReport) (label : String) (c : Check) : List String :=
  (r.casesOf label).flatMap fun record =>
    (record.outcome.results.filter fun result => result.check = c ∧ result.passed = false).filterMap (·.message)

-- The messages of the cases of an operation that the network failed.
def networkErrors (r : RunReport) (label : String) : List String := (r.casesOf label).filterMap (·.outcome.error?)

theorem filterMap_complaint? (results : List CheckResult) (c : Check) :
    (results.filter (·.check = c)).filterMap CheckResult.complaint? =
      (results.filter fun result => result.check = c ∧ result.passed = false).filterMap (·.message) := by
  induction results with
  | nil => rfl
  | cons result results ih =>
    by_cases own : result.check = c
    · cases passed : result.passed <;> simp [own, passed, CheckResult.complaint?, List.filterMap_cons, ih]
    · simp [own, ih]

theorem tallyAt_diagnostics (r : RunReport) (label : String) (i : Nat) (c : Check) :
    (r.tallyAt label i c).diagnostics =
      if c ∈ r.checks.take i then [] else (r.complaints label c).eraseDups.take mostDiagnostics := by
  have kept : (((r.casesOf label).map (·.outcome)).foldl (Tally.addOwn (r.checks.take i)) { check := c }).diagnostics =
      if c ∈ r.checks.take i then [] else (r.complaints label c).eraseDups.take mostDiagnostics := by
    rw [Tally.foldl_addOwn_diagnostics, List.flatMap_map]
    split
    next earlier =>
      rw [List.flatMap_eq_nil_iff.mpr fun _ _ => by simp [Tally.taken, earlier]]
      rfl
    next first =>
      rw [← foldl_keepMessage, complaints]
      simp only [Tally.taken, if_neg first, filterMap_complaint?]
  unfold tallyAt
  split
  · exact kept
  · exact kept

theorem tallies_checks (r : RunReport) (label : String) :
    (r.operationSummary label).tallies.map (·.check) = r.checks := by
  refine List.ext_getElem? fun i => ?_
  rw [List.getElem?_map, getElem?_tallies, Option.map_map]
  exact (Option.map_congr fun c _ => tallyAt_check r label i c).trans Option.map_id'

theorem diagnostics_eq (distinct : r.checks.Nodup) {label : String} {t : Tally}
    (stands : t ∈ (r.operationSummary label).tallies) :
    t.diagnostics = (r.complaints label t.check).eraseDups.take mostDiagnostics := by
  obtain ⟨i, stands⟩ := List.mem_iff_getElem?.mp stands
  rw [getElem?_tallies] at stands
  obtain ⟨c, listed, rfl⟩ := Option.map_eq_some_iff.mp stands
  have turned := Tally.nodup_iff_turns.mp distinct i c listed
  have first : c ∉ r.checks.take i := fun earlier => by simp [Tally.turns, earlier] at turned
  rw [tallyAt_diagnostics, if_neg first, tallyAt_check]

/-- If no check is listed twice, each tally of an operation keeps the first three distinct messages of the failed
results of its check, and the operation those of its cases that the network failed. -/
theorem kept_messages_first (distinct : r.checks.Nodup) {label : String} (listed : label ∈ r.operations) :
    (∃ o ∈ r.operationSummaries, o.operation = label) ∧
      ∀ o ∈ r.operationSummaries, o.operation = label →
        o.tallies.map (·.check) = r.checks ∧
        (∀ t ∈ o.tallies, t.diagnostics = (r.complaints label t.check).eraseDups.take 3) ∧
        o.errors = (r.networkErrors label).eraseDups.take 3 := by
  refine ⟨⟨_, List.mem_map_of_mem listed, rfl⟩, fun o stands named => ?_⟩
  obtain ⟨label', -, rfl⟩ := List.mem_map.mp stands
  obtain rfl : label' = label := named
  exact ⟨r.tallies_checks label', fun t own => diagnostics_eq distinct own, foldl_keepMessage _⟩

-- Five distinct messages, some of them twice, with results that passed or have nothing to say between them.
def noisyReport : RunReport where
  baseUrl := "http://service.test"
  schema := "notes.json"
  checks := [.schema, .status]
  operations := ["GET /notes", "PUT /notes"]
  cases :=
    let request : RequestRecord := { method := "GET", url := "http://service.test/notes" }
    [{ id := "00", operation := "GET /notes", index := 0, request
       outcome := .checked { status := 404 } [⟨.status, false, some "a"⟩, ⟨.schema, false, some "s"⟩,
         ⟨.status, true, some "passed"⟩, ⟨.status, false, some "a"⟩, ⟨.status, false, none⟩] },
      { id := "01", operation := "PUT /notes", index := 0, request
        outcome := .checked { status := 404 } [⟨.status, false, some "p"⟩] },
      { id := "02", operation := "GET /notes", index := 1, request, outcome := .failed "reset" },
      { id := "03", operation := "GET /notes", index := 2, request
        outcome := .checked { status := 404 } [⟨.status, false, some "b"⟩, ⟨.status, false, some "a"⟩,
          ⟨.status, false, some "c"⟩, ⟨.status, false, some "d"⟩, ⟨.status, false, some "b"⟩] },
      { id := "04", operation := "GET /notes", index := 3, request, outcome := .failed "refused" },
      { id := "05", operation := "GET /notes", index := 4, request, outcome := .failed "reset" }]
  seconds := 1

theorem noisyReport_kept_messages : noisyReport.checks.Nodup ∧ "GET /notes" ∈ noisyReport.operations ∧
    ∃ o ∈ noisyReport.operationSummaries, o.operation = "GET /notes" ∧ o.tallies.map (·.check) = [.schema, .status] ∧
      (∀ t ∈ o.tallies, t.check = .schema → t.diagnostics = ["s"]) ∧
      (∀ t ∈ o.tallies, t.check = .status → t.diagnostics = ["a", "b", "c"]) ∧ o.errors = ["reset", "refused"] := by
  have distinct : noisyReport.checks.Nodup := by decide
  have listed : "GET /notes" ∈ noisyReport.operations := by decide
  obtain ⟨⟨o, stands, named⟩, kept⟩ := kept_messages_first distinct listed
  obtain ⟨checks, diagnostics, errors⟩ := kept o stands named
  refine ⟨distinct, listed, o, stands, named, checks, fun t own check => ?_, fun t own check => ?_, ?_⟩
  · rw [diagnostics t own, check]
    decide
  · rw [diagnostics t own, check]
    decide
  · rw [errors]
    decide

end RunReport

end SchemaProbe
