import Mathlib.Algebra.GroupWithZero.Nat
import SchemaProbe.Report.Summary

set_option autoImplicit false

namespace SchemaProbe

namespace Tally

theorem record_check (t : Tally) (r : CheckResult) : (t.record r).check = t.check := by
  unfold record
  split <;> rfl

theorem recordIn_checks (ts : List Tally) (r : CheckResult) : (recordIn ts r).map (·.check) = ts.map (·.check) := by
  induction ts with
  | nil => rfl
  | cons t ts ih =>
    rw [recordIn]
    split
    · simp [record_check]
    · simp [ih]

theorem foldl_recordIn_checks (ts : List Tally) (results : List CheckResult) :
    (results.foldl recordIn ts).map (·.check) = ts.map (·.check) := by
  induction results generalizing ts with
  | nil => rfl
  | cons r results ih => rw [List.foldl_cons, ih, recordIn_checks]

theorem addCase_checks (ts : List Tally) (o : Outcome) : (addCase ts o).map (·.check) = ts.map (·.check) := by
  cases o with
  | checked reply results => exact foldl_recordIn_checks ts results
  | failed | inconclusive => simp [addCase, miss, Function.comp_def]

structure Counts (count : Tally → Nat) (counted : CheckResult → Bool) : Prop where
  start : ∀ c, count { check := c } = 0
  record : ∀ t r, count (t.record r) = count t + if counted r then 1 else 0
  miss : ∀ t, count t.miss = count t

theorem passed_counts : Counts (·.passed) (·.passed) where
  start _ := rfl
  record t r := by cases passed : r.passed <;> simp [Tally.record, passed]
  miss _ := rfl

theorem failed_counts : Counts (·.failed) (fun r => !r.passed) where
  start _ := rfl
  record t r := by cases passed : r.passed <;> simp [Tally.record, passed]
  miss _ := rfl

section
variable {count : Tally → Nat} {counted : CheckResult → Bool}

theorem Counts.recordIn (counts : Counts count counted) {ts : List Tally} {r : CheckResult}
    (listed : r.check ∈ ts.map (·.check)) :
    ((recordIn ts r).map count).sum = (ts.map count).sum + if counted r then 1 else 0 := by
  induction ts with
  | nil => cases listed
  | cons t ts ih =>
    rw [Tally.recordIn]
    split
    next own => simp [counts.record, Nat.add_right_comm]
    next other =>
      have later : r.check ∈ ts.map (·.check) := (List.mem_cons.mp listed).resolve_left (Ne.symm other)
      simp [ih later, Nat.add_assoc]

theorem Counts.foldl_recordIn (counts : Counts count counted) {ts : List Tally} {results : List CheckResult}
    (listed : ∀ r ∈ results, r.check ∈ ts.map (·.check)) :
    ((results.foldl Tally.recordIn ts).map count).sum = (ts.map count).sum + results.countP counted := by
  induction results generalizing ts with
  | nil => simp
  | cons r results ih =>
    have first := counts.recordIn (listed r List.mem_cons_self)
    have later := @ih (Tally.recordIn ts r) fun r' member => by
      rw [recordIn_checks]
      exact listed r' (List.mem_cons_of_mem _ member)
    rw [List.foldl_cons, later, first, List.countP_cons]
    omega

theorem Counts.addCase (counts : Counts count counted) {ts : List Tally} {o : Outcome}
    (listed : ∀ r ∈ o.results, r.check ∈ ts.map (·.check)) :
    ((addCase ts o).map count).sum = (ts.map count).sum + o.results.countP counted := by
  cases o with
  | checked reply results => exact counts.foldl_recordIn listed
  | failed | inconclusive => simp [Tally.addCase, Outcome.results, counts.miss, Function.comp_def]

theorem Counts.foldl_addCase (counts : Counts count counted) {ts : List Tally} {outcomes : List Outcome}
    (listed : ∀ o ∈ outcomes, ∀ r ∈ o.results, r.check ∈ ts.map (·.check)) :
    ((outcomes.foldl Tally.addCase ts).map count).sum =
      (ts.map count).sum + (outcomes.map fun o => o.results.countP counted).sum := by
  induction outcomes generalizing ts with
  | nil => simp
  | cons o outcomes ih =>
    have first := counts.addCase (listed o List.mem_cons_self)
    have later := @ih (Tally.addCase ts o) fun o' member => by
      rw [addCase_checks]
      exact listed o' (List.mem_cons_of_mem _ member)
    rw [List.foldl_cons, later, first, List.map_cons, List.sum_cons]
    omega

end

-- Of several tallies of a check, the first takes the results, and the others none.
def taken (earlier : List Check) (c : Check) (results : List CheckResult) : List CheckResult :=
  if c ∈ earlier then [] else results.filter (·.check = c)

def addOwn (earlier : List Check) (t : Tally) : Outcome → Tally
  | .checked _ results => (taken earlier t.check results).foldl record t
  | _ => t.miss

theorem foldl_record_check (t : Tally) (results : List CheckResult) : (results.foldl record t).check = t.check := by
  induction results generalizing t with
  | nil => rfl
  | cons r results ih => rw [List.foldl_cons, ih, record_check]

theorem addOwn_check (earlier : List Check) (t : Tally) (o : Outcome) : (addOwn earlier t o).check = t.check := by
  cases o with
  | checked reply results => exact foldl_record_check t _
  | failed | inconclusive => rfl

theorem foldl_addOwn_check (earlier : List Check) (t : Tally) (outcomes : List Outcome) :
    (outcomes.foldl (addOwn earlier) t).check = t.check := by
  induction outcomes generalizing t with
  | nil => rfl
  | cons o outcomes ih => rw [List.foldl_cons, ih, addOwn_check]

theorem getElem?_recordIn (ts : List Tally) (r : CheckResult) (i : Nat) :
    (recordIn ts r)[i]? =
      ts[i]?.map fun t => if t.check = r.check ∧ r.check ∉ (ts.take i).map (·.check) then t.record r else t := by
  induction ts generalizing i with
  | nil => rfl
  | cons t ts ih =>
    rw [recordIn]
    cases i with
    | zero => by_cases own : t.check = r.check <;> simp [own]
    | succ i =>
      by_cases own : t.check = r.check
      · simp [own]
      · simp [own, ih, Ne.symm own]

theorem getElem?_foldl_recordIn (ts : List Tally) (results : List CheckResult) (i : Nat) :
    (results.foldl recordIn ts)[i]? =
      ts[i]?.map fun t => (taken ((ts.take i).map (·.check)) t.check results).foldl record t := by
  induction results generalizing ts with
  | nil => simp [taken]
  | cons r results ih =>
    have before : ((recordIn ts r).take i).map (·.check) = (ts.take i).map (·.check) := by
      rw [List.map_take, recordIn_checks, List.map_take]
    rw [List.foldl_cons, ih, before, getElem?_recordIn, Option.map_map]
    congr 1
    funext t
    rw [Function.comp_apply]
    by_cases own : t.check = r.check
    · by_cases earlier : r.check ∈ (ts.take i).map (·.check)
      · simp only [own, earlier, not_true_eq_false, and_false, if_false, taken, if_true]
      · simp only [own, earlier, not_false_eq_true, and_self, if_true, taken, if_false, record_check,
          List.filter_cons, decide_true, List.foldl_cons]
    · simp [own, Ne.symm own, taken]

theorem getElem?_addCase (ts : List Tally) (o : Outcome) (i : Nat) :
    (addCase ts o)[i]? = ts[i]?.map fun t => addOwn ((ts.take i).map (·.check)) t o := by
  cases o with
  | checked reply results => exact getElem?_foldl_recordIn ts results i
  | failed | inconclusive => exact List.getElem?_map

theorem getElem?_foldl_addCase (ts : List Tally) (outcomes : List Outcome) (i : Nat) :
    (outcomes.foldl addCase ts)[i]? =
      ts[i]?.map fun t => outcomes.foldl (addOwn ((ts.take i).map (·.check))) t := by
  induction outcomes generalizing ts with
  | nil => simp
  | cons o outcomes ih =>
    have before : ((addCase ts o).take i).map (·.check) = (ts.take i).map (·.check) := by
      rw [List.map_take, addCase_checks, List.map_take]
    rw [List.foldl_cons, ih, before, getElem?_addCase, Option.map_map]
    rfl

-- All that a tally counts.
def total (t : Tally) : Nat := t.passed + t.failed + t.inconclusive

theorem total_miss (t : Tally) : t.miss.total = t.total + 1 := rfl

theorem total_foldl_record (t : Tally) (results : List CheckResult) :
    (results.foldl record t).total = t.total + results.length := by
  induction results generalizing t with
  | nil => rfl
  | cons r results ih =>
    have one : (t.record r).total = t.total + 1 := by
      unfold record total
      split <;> simp <;> omega
    rw [List.foldl_cons, ih, one, List.length_cons]
    omega

theorem total_addOwn (earlier : List Check) (t : Tally) (o : Outcome) :
    (addOwn earlier t o).total =
      t.total + if o.isChecked then (taken earlier t.check o.results).length else 1 := by
  cases o with
  | checked reply results => exact total_foldl_record t _
  | failed | inconclusive => exact total_miss t

end Tally

end SchemaProbe
