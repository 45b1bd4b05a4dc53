import Mathlib.Data.List.Nodup
import SchemaProbe.Proofs.Report.Tallies

set_option autoImplicit false

namespace SchemaProbe

-- How many results of each reply the tally at a position takes, if there is a result for every check of a list.
def Tally.turns (checks : List Check) (i : Nat) (c : Check) : Nat := if c ∈ checks.take i then 0 else checks.count c

namespace Tally

theorem nodup_iff_turns {checks : List Check} :
    checks.Nodup ↔ ∀ i c, checks[i]? = some c → turns checks i c = 1 := by
  constructor
  · intro distinct i c here
    obtain ⟨within, rfl⟩ := List.getElem?_eq_some_iff.mp here
    have first : checks[i] ∉ checks.take i := by
      intro earlier
      obtain ⟨j, before, same⟩ := List.mem_take_iff_getElem.mp earlier
      have := (distinct.getElem_inj_iff).mp same
      omega
    rw [turns, if_neg first, distinct.count, if_pos (List.getElem_mem within)]
  · intro once
    rw [List.nodup_iff_getElem?_ne_getElem?]
    intro i j before within same
    have here := List.getElem?_eq_getElem within
    have earlier : checks[j] ∈ checks.take j := by
      refine List.mem_of_getElem? (i := i) ?_
      rw [List.getElem?_take_of_lt before, same, here]
    have turned := once j _ here
    rw [turns, if_pos earlier] at turned
    cases turned

theorem taken_length (earlier : List Check) (c : Check) (results : List CheckResult) :
    (taken earlier c results).length = if c ∈ earlier then 0 else (results.map (·.check)).count c := by
  unfold taken
  split
  · rfl
  · rw [List.count, List.countP_map, List.countP_eq_length_filter]
    congr 1

theorem total_foldl_addOwn {earlier : List Check} (t : Tally) {n : Nat} {outcomes : List Outcome}
    (each : ∀ o ∈ outcomes, o.isChecked = true → (taken earlier t.check o.results).length = n) :
    (outcomes.foldl (addOwn earlier) t).total =
      t.total + n * outcomes.countP (·.isChecked) + outcomes.countP (!·.isChecked) := by
  induction outcomes generalizing t with
  | nil => simp
  | cons o outcomes ih =>
    have first := total_addOwn earlier t o
    have later := ih (addOwn earlier t o) fun o' member => by
      rw [addOwn_check]
      exact each o' (List.mem_cons_of_mem _ member)
    rw [List.foldl_cons, later, first]
    cases checked : o.isChecked with
    | true =>
      rw [if_pos rfl, each o List.mem_cons_self checked]
      simp [checked, Nat.mul_add]
      omega
    | false =>
      simp [checked]
      omega

end Tally

namespace RunReport

variable {r : RunReport}

-- Every reply was held against every check of the report.
def Judged (r : RunReport) : Prop :=
  ∀ c ∈ r.cases, c.outcome.isChecked = true → c.outcome.results.map (·.check) = r.checks

def Accounted (r : RunReport) : Prop :=
  ∀ o ∈ r.operationSummaries, ∀ t ∈ o.tallies, t.total = o.cases + if o.skipped.isSome then 1 else 0

-- What a tally of a check comes to, given its position.
def tallyAt (r : RunReport) (label : String) (i : Nat) (c : Check) : Tally :=
  let t := ((r.casesOf label).map (·.outcome)).foldl (Tally.addOwn (r.checks.take i)) { check := c }
  if (r.skipReason? label).isSome then t.miss else t

theorem getElem?_tallies (r : RunReport) (label : String) (i : Nat) :
    (r.operationSummary label).tallies[i]? = r.checks[i]?.map (r.tallyAt label i) := by
  have before : ((r.checks.map fun c => ({ check := c } : Tally)).take i).map (·.check) = r.checks.take i := by
    rw [← List.map_take, List.map_map]
    exact List.map_id _
  unfold tallyAt
  simp only [operationSummary]
  split
  · rw [List.getElem?_map, Tally.getElem?_foldl_addCase, before, List.getElem?_map, Option.map_map, Option.map_map]
    rfl
  · rw [Tally.getElem?_foldl_addCase, before, List.getElem?_map, Option.map_map]
    rfl

theorem tallyAt_check (r : RunReport) (label : String) (i : Nat) (c : Check) : (r.tallyAt label i c).check = c := by
  have own := Tally.foldl_addOwn_check (r.checks.take i) { check := c } ((r.casesOf label).map (·.outcome))
  unfold tallyAt
  split
  · exact own
  · exact own

theorem total_tallyAt (judged : r.Judged) (label : String) (i : Nat) (c : Check) :
    (r.tallyAt label i c).total =
      Tally.turns r.checks i c * (r.casesOf label).countP (·.outcome.isChecked) +
        (r.casesOf label).countP (!·.outcome.isChecked) + if (r.skipReason? label).isSome then 1 else 0 := by
  have each : ∀ o ∈ (r.casesOf label).map (·.outcome), o.isChecked = true →
      (Tally.taken (r.checks.take i) c o.results).length = Tally.turns r.checks i c := by
    intro o member checked
    obtain ⟨record, within, rfl⟩ := List.mem_map.mp member
    rw [Tally.taken_length, judged record (List.mem_filter.mp within).1 checked, Tally.turns]
  have counted := Tally.total_foldl_addOwn { check := c } each
  rw [List.countP_map, List.countP_map, show ({ check := c } : Tally).total = 0 from rfl, Nat.zero_add] at counted
  unfold tallyAt
  split
  · rw [Tally.total_miss, counted]
    rfl
  · exact counted

theorem total_of_getElem? (judged : r.Judged) {label : String} {i : Nat} {t : Tally}
    (stands : (r.operationSummary label).tallies[i]? = some t) :
    r.checks[i]? = some t.check ∧ t.total =
      Tally.turns r.checks i t.check * (r.casesOf label).countP (·.outcome.isChecked) +
        (r.casesOf label).countP (!·.outcome.isChecked) + if (r.skipReason? label).isSome then 1 else 0 := by
  rw [getElem?_tallies] at stands
  obtain ⟨c, listed, rfl⟩ := Option.map_eq_some_iff.mp stands
  rw [tallyAt_check]
  exact ⟨listed, total_tallyAt judged label i c⟩

theorem casesOf_length (r : RunReport) (label : String) : (r.casesOf label).length =
    (r.casesOf label).countP (·.outcome.isChecked) + (r.casesOf label).countP (!·.outcome.isChecked) := by
  simpa using List.length_eq_countP_add_countP (fun c : CaseRecord => c.outcome.isChecked) (l := r.casesOf label)

theorem accounted_iff (listed : ∀ c ∈ r.cases, c.operation ∈ r.operations) (judged : r.Judged) :
    r.Accounted ↔ r.checks.Nodup ∨ ∀ c ∈ r.cases, c.outcome.isChecked = false := by
  constructor
  · intro accounted
    by_contra neither
    obtain ⟨repeated, some⟩ := not_or.mp neither
    obtain ⟨c, member, checked⟩ : ∃ c ∈ r.cases, c.outcome.isChecked = true := by simpa using some
    obtain ⟨i, check, here, other⟩ : ∃ i check, r.checks[i]? = Option.some check ∧ Tally.turns r.checks i check ≠ 1 := by
      simpa [Tally.nodup_iff_turns] using repeated
    -- The tally of such a check miscounts at the operation of the case that got a reply.
    have stands : ∃ t, (r.operationSummary c.operation).tallies[i]? = Option.some t := by
      rw [getElem?_tallies, here]
      exact ⟨_, rfl⟩
    obtain ⟨t, stands⟩ := stands
    obtain ⟨same, total⟩ := total_of_getElem? judged stands
    obtain rfl := Option.some.inj (here.symm.trans same)
    have claimed : t.total = (r.casesOf c.operation).length + if (r.skipReason? c.operation).isSome then 1 else 0 :=
      accounted _ (List.mem_map_of_mem (listed c member)) t (List.mem_of_getElem? stands)
    have length := r.casesOf_length c.operation
    have positive : 0 < (r.casesOf c.operation).countP (·.outcome.isChecked) :=
      List.countP_pos_iff.mpr ⟨c, List.mem_filter.mpr ⟨member, beq_self_eq_true _⟩, checked⟩
    refine other (Nat.eq_of_mul_eq_mul_right positive ?_)
    omega
  · intro either o member t within
    obtain ⟨label, -, rfl⟩ := List.mem_map.mp member
    obtain ⟨i, stands⟩ := List.mem_iff_getElem?.mp within
    obtain ⟨here, total⟩ := total_of_getElem? judged stands
    have length := r.casesOf_length label
    rw [total, show (r.operationSummary label).cases = (r.casesOf label).length from rfl, length]
    rcases either with distinct | none
    · rw [Tally.nodup_iff_turns.mp distinct i _ here, Nat.one_mul]
      rfl
    · have nothing : (r.casesOf label).countP (·.outcome.isChecked) = 0 :=
        List.countP_eq_zero.mpr fun c own => by simp [none c (List.mem_filter.mp own).1]
      rw [nothing, Nat.mul_zero]
      rfl

end RunReport

end SchemaProbe
