import SchemaProbe.JsonSchema.Check
import SchemaProbe.Proofs.JsonSchema.Fold

set_option autoImplicit false

namespace SchemaProbe.JsonSchema

abbrev Reading := Json → Bool

def reading (c : Check) : Reading := fun v => (c v).isEmpty

def holds (keyword : String) (value : Json) : Reading := reading (dataCheck keyword value)

def membersHold (declared : List (String × Reading)) (patterned : List (Pattern × Reading))
    (additional : Option Reading) : Reading
  | .object ms =>
    ms.all fun m =>
      (declared.lookup m.1).all (· m.2) && (patterned.all fun p => !p.1.occursIn m.1 || p.2 m.2) &&
        ((declared.lookup m.1).isSome || (patterned.any fun p => p.1.occursIn m.1) || additional.all (· m.2))
  | _ => true

def elementsHold (each : Option Reading) : Reading
  | .array xs => xs.all fun x => each.all (· x)
  | _ => true

def patternsOf {α : Type} (named : List (String × α)) : List (Pattern × α) :=
  named.filterMap fun p => (Pattern.schema? p.1).map (·, p.2)

def subschemasHold (es : List (Entry Reading)) : Reading := fun v =>
  membersHold (subNamed es "properties") (patternsOf (subNamed es "patternProperties"))
      (subOne? es "additionalProperties") v &&
    elementsHold (subOne? es "items") v && (subMany es "allOf").all (· v) &&
    (!(entryFor es "anyOf").isSome || (subMany es "anyOf").any (· v)) &&
    (!(entryFor es "oneOf").isSome || ((subMany es "oneOf").filter (· v)).length == 1) &&
    (subOne? es "not").all fun r => !r v

def dataKeywords : List String := "required" :: dataOrder true

def dataHold (keywords : List String) (ms : Members) : Reading := fun v =>
  keywords.all fun k => (NameMap.get? ms k).all fun w => holds k w v

@[simp] theorem isEmpty_reportIf (bad : Bool) (v : Violation) : (reportIf bad v).isEmpty = !bad := by
  cases bad <;> rfl

section
variable {es : List (Entry Check)} {v : Json}

theorem isEmpty_append {α : Type} (xs ys : List α) : (xs ++ ys).isEmpty = (xs.isEmpty && ys.isEmpty) := by
  cases xs <;> simp

theorem isEmpty_flatMap {α β : Type} (xs : List α) (f : α → List β) :
    (xs.flatMap f).isEmpty = xs.all fun x => (f x).isEmpty := by
  induction xs with
  | nil => rfl
  | cons x xs ih => rw [List.flatMap_cons, isEmpty_append, ih, List.all_cons]

theorem dataChecks_all (keywords : List String) :
    ((dataChecks es keywords).all fun c => (c v).isEmpty) =
      keywords.all fun k => (entryFor es k).all fun e => holds k e.value v := by
  rw [dataChecks, List.all_filterMap]
  congr 1
  funext k
  cases entryFor es k <;> rfl

theorem anyOfCheck_isEmpty (checks : List Check) : (anyOfCheck checks v).isEmpty = checks.any fun c => (c v).isEmpty := by
  simp [anyOfCheck]

theorem oneOfCheck_isEmpty (checks : List Check) :
    (oneOfCheck checks v).isEmpty = ((checks.filter fun c => (c v).isEmpty).length == 1) := by
  unfold oneOfCheck
  generalize (checks.filter fun c => (c v).isEmpty).length = n
  match n with
  | 0 => rfl
  | 1 => rfl
  | n + 2 => simp

theorem notCheck_isEmpty : (notCheck es v).isEmpty = !(subOne? es "not").any fun c => (c v).isEmpty := by
  rw [notCheck, subOne?]
  cases entryFor es "not" with
  | none => rfl
  | some e => cases sub : e.sub.one? <;> simp [sub]

-- Where all members are refused none are declared.
def Additional.reading : Additional → Option Reading
  | .allowed => none
  | .refused | .allRefused => some fun _ => false
  | .checked c => some (JsonSchema.reading c)

theorem checkMember_isEmpty (r : MemberRules) (name : String) (x : Json) :
    (r.checkMember name x).isEmpty =
      ((r.declared.lookup name).all (fun c => (c x).isEmpty) &&
        (r.patterned.all fun p => !p.1.occursIn name || (p.2 x).isEmpty) &&
        (r.isKnown name || match r.additional with
          | .checked c => (c x).isEmpty
          | _ => true)) := by
  have named : (((r.declared.lookup name).map fun c => c x).getD []).isEmpty =
      (r.declared.lookup name).all fun c => (c x).isEmpty := by
    cases r.declared.lookup name <;> rfl
  have fitting : ((r.patterned.filter fun p => p.1.occursIn name).flatMap fun p => p.2 x).isEmpty =
      r.patterned.all fun p => !p.1.occursIn name || (p.2 x).isEmpty := by
    rw [isEmpty_flatMap, List.all_filter]
  have unfitting : (r.patterned.filter fun p => p.1.occursIn name).isEmpty =
      !r.patterned.any fun p => p.1.occursIn name := by
    rw [Bool.eq_iff_iff]
    simp
  simp only [MemberRules.checkMember, MemberRules.isKnown, unfitting, Bool.not_not]
  cases known : (r.declared.lookup name).isSome || r.patterned.any fun p => p.1.occursIn name with
  | true => simp only [if_true, isEmpty_append, named, fitting, Bool.true_or, Bool.and_true]
  | false =>
    -- Nothing is said of the name, so that only the schema for all other members is left.
    obtain ⟨undeclared, unmatched⟩ := Bool.or_eq_false_iff.mp known
    have nothing : (r.patterned.all fun p => !p.1.occursIn name || (p.2 x).isEmpty) = true := by
      rw [List.all_eq_true]
      intro p member
      simp [List.any_eq_false.mp unmatched p member]
    rw [nothing, Option.isSome_eq_false_iff.mp undeclared |> Option.isNone_iff_eq_none.mp]
    cases r.additional <;> rfl

theorem memberRules_check_isEmpty (r : MemberRules)
    (undeclared : r.additional = .allRefused → r.declared = [] ∧ r.patterned = []) :
    (r.check v).isEmpty =
      membersHold (r.declared.map fun p => (p.1, reading p.2)) (r.patterned.map fun p => (p.1, reading p.2))
        r.additional.reading v := by
  cases v with
  | object ms =>
    have lookup (name : String) : (r.declared.map fun p => (p.1, reading p.2)).lookup name =
        (r.declared.lookup name).map reading := NameMap.get?_map (fun _ => reading) r.declared name
    simp only [MemberRules.check, membersHold, isEmpty_append, isEmpty_flatMap, checkMember_isEmpty, lookup,
      Option.all_map, Option.isSome_map, List.all_map, List.any_map, Function.comp_def]
    cases additional : r.additional with
    | allowed => simp [Additional.reading, reading]
    | checked c => simp [Additional.reading, reading, MemberRules.isKnown]
    | refused =>
      have known : ((NameMap.names ms).filter fun n => !r.isKnown n).isEmpty = ms.all fun m => r.isKnown m.1 := by
        rw [Bool.eq_iff_iff]
        simp [NameMap.names]
      simp only [isEmpty_reportIf, Bool.not_not, known, Additional.reading, Option.all_some, Bool.or_false,
        Bool.or_true, Bool.and_true]
      rw [Bool.eq_iff_iff]
      simp only [Bool.and_eq_true, List.all_eq_true, MemberRules.isKnown]
      exact ⟨fun h m member => ⟨h.1 m member, h.2 m member⟩,
        fun h => ⟨fun m member => (h m member).1, fun m member => (h m member).2⟩⟩
    | allRefused =>
      obtain ⟨noneDeclared, nonePatterned⟩ := undeclared additional
      cases ms <;> simp [noneDeclared, nonePatterned, Additional.reading]
  | _ => rfl

theorem node_isEmpty :
    (node es v).isEmpty =
      ((dataKeywords.all fun k => (entryFor es k).all fun e => holds k e.value v) &&
        ((memberRules es).check v).isEmpty &&
        (namesCheck es v).isEmpty && (dependentSchemasCheck es v).isEmpty && (itemsCheck es v).isEmpty &&
        (containsCheck es v).isEmpty && ((subMany es "allOf").all fun c => (c v).isEmpty) &&
        (!(entryFor es "anyOf").isSome || (subMany es "anyOf").any fun c => (c v).isEmpty) &&
        (!(entryFor es "oneOf").isSome || ((subMany es "oneOf").filter fun c => (c v).isEmpty).length == 1) &&
        (!(subOne? es "not").any fun c => (c v).isEmpty) && (conditionCheck es v).isEmpty) := by
  -- The check of required names comes last or not, but it comes once.
  have order (last : Bool) : (dataOrder last ++ if last then ["required"] else []).Perm dataKeywords := by
    cases last <;> decide
  have data (last : Bool) : (((dataChecks es (dataOrder last)).all fun c => (c v).isEmpty) &&
      (if last then dataChecks es ["required"] else []).all fun c => (c v).isEmpty) =
      dataKeywords.all fun k => (entryFor es k).all fun e => holds k e.value v := by
    rw [← (order last).all_eq, List.all_append, dataChecks_all, ← dataChecks_all]
    cases last <;> simp [dataChecks_all]
  have anyOf (present : Bool) (checks : List Check) : ((if present then [anyOfCheck checks] else []).all fun c =>
      (c v).isEmpty) = (!present || checks.any fun c => (c v).isEmpty) := by
    cases present <;> simp [anyOfCheck_isEmpty]
  have oneOf (present : Bool) (checks : List Check) : ((if present then [oneOfCheck checks] else []).all fun c =>
      (c v).isEmpty) = (!present || (checks.filter fun c => (c v).isEmpty).length == 1) := by
    cases present <;> simp [oneOfCheck_isEmpty]
  rw [← data (requiredLast es), node]
  simp only [isEmpty_flatMap, List.all_append, List.all_cons, List.all_nil, Bool.and_true, anyOf, oneOf,
    notCheck_isEmpty]
  ac_rfl

end

theorem beq_bool_iff {w : Json} {b : Bool} : (w == Json.bool b) = true ↔ w = .bool b := by
  change Json.beq w (.bool b) = true ↔ _
  cases w <;> simp [Json.beq]

theorem patternsOf_map {α β : Type} (f : α → β) (named : List (String × α)) :
    patternsOf (named.map fun p => (p.1, f p.2)) = (patternsOf named).map fun p => (p.1, f p.2) := by
  simp only [patternsOf, List.filterMap_map, List.map_filterMap, Option.map_map]
  rfl

section
variable (ms : Members) (k : String)

theorem subOne?_accepts :
    subOne? (entries position accepts ms) k = (subOne? (entries position check ms) k).map reading :=
  subOne?_entries_comp position check ms k reading

theorem subMany_accepts :
    subMany (entries position accepts ms) k = (subMany (entries position check ms) k).map reading :=
  subMany_entries_comp position check ms k reading

theorem subNamed_accepts :
    subNamed (entries position accepts ms) k =
      (subNamed (entries position check ms) k).map fun p => (p.1, reading p.2) :=
  subNamed_entries_comp position check ms k reading

end

theorem additional_reading (ms : Members) :
    (memberRules (entries position check ms)).additional.reading =
      subOne? (entries position accepts ms) "additionalProperties" := by
  have refuse : (fun _ : Json => false) = reading (check (.bool false)) := rfl
  rw [subOne?_accepts, subOne?, entryFor_entries]
  simp only [memberRules, entryFor_entries]
  cases NameMap.get? ms "additionalProperties" with
  | none => rfl
  | some w =>
    simp only [Option.map_some, Option.bind_some]
    by_cases refused : (w == Json.bool false) = true
    · rw [if_pos refused, beq_bool_iff.mp refused]
      split <;> exact congrArg some refuse
    · rw [if_neg refused]
      cases (Sub.ofValue position check "additionalProperties" w).one? <;> rfl

theorem allRefused_undeclared {es : List (Entry Check)} (refused : (memberRules es).additional = .allRefused) :
    (memberRules es).declared = [] ∧ (memberRules es).patterned = [] := by
  have absent (k : String) (missing : (entryFor es k).isSome = false) : subNamed es k = [] := by
    rw [subNamed, Option.isSome_eq_false_iff.mp missing |> Option.isNone_iff_eq_none.mp]
    rfl
  simp only [memberRules] at refused ⊢
  split at refused
  · cases refused
  · split at refused
    · split at refused
      · cases refused
      next none =>
        obtain ⟨properties, patterns⟩ := Bool.or_eq_false_iff.mp (Bool.eq_false_iff.mpr none)
        rw [absent _ properties, absent _ patterns]
        exact ⟨rfl, rfl⟩
    next e _ _ => cases sub : e.sub.one? <;> simp [sub] at refused

theorem memberRules_accepts (ms : Members) (v : Json) :
    ((memberRules (entries position check ms)).check v).isEmpty =
      membersHold (subNamed (entries position accepts ms) "properties")
        (patternsOf (subNamed (entries position accepts ms) "patternProperties"))
        (subOne? (entries position accepts ms) "additionalProperties") v := by
  rw [memberRules_check_isEmpty _ allRefused_undeclared, additional_reading, subNamed_accepts, subNamed_accepts,
    patternsOf_map]
  rfl

def foreignKeywords : List String :=
  ["propertyNames", "contains", "if", "prefixItems", "unevaluatedProperties", "unevaluatedItems"]

structure Confined (ms : Members) : Prop where
  absent : ∀ k ∈ foreignKeywords, NameMap.get? ms k = none
  dependent : ∀ w, NameMap.get? ms "dependentSchemas" = some w → w = .object []

theorem Confined.congr {ms ms' : Members} (confined : Confined ms)
    (same : ∀ k ∈ "dependentSchemas" :: foreignKeywords, NameMap.get? ms' k = NameMap.get? ms k) : Confined ms' where
  absent k member := (same k (List.mem_cons_of_mem _ member)).trans (confined.absent k member)
  dependent w found := confined.dependent w ((same _ List.mem_cons_self).symm.trans found)

theorem Confined.quiet {ms : Members} (confined : Confined ms) (v : Json) :
    (namesCheck (entries position check ms) v).isEmpty = true ∧
      (dependentSchemasCheck (entries position check ms) v).isEmpty = true ∧
      (containsCheck (entries position check ms) v).isEmpty = true ∧
      (conditionCheck (entries position check ms) v).isEmpty = true := by
  have one (k : String) (member : k ∈ foreignKeywords) : subOne? (entries position check ms) k = none := by
    rw [subOne?_entries, subAt, confined.absent k member]
    rfl
  have names := one "propertyNames" (by decide)
  have contains := one "contains" (by decide)
  have condition := one "if" (by decide)
  have dependent : subNamed (entries position check ms) "dependentSchemas" = [] := by
    rw [subNamed_entries, subAt]
    cases found : NameMap.get? ms "dependentSchemas" with
    | none => rfl
    | some w => rw [confined.dependent w found]; rfl
  cases v <;> simp [namesCheck, dependentSchemasCheck, containsCheck, conditionCheck, names, dependent, contains,
    condition]

theorem Confined.itemsCheck_isEmpty {ms : Members} (confined : Confined ms) (v : Json) :
    (itemsCheck (entries position check ms) v).isEmpty =
      elementsHold (subOne? (entries position accepts ms) "items") v := by
  rw [subOne?_accepts]
  cases v with
  | array xs =>
    have noneFixed : subMany (entries position check ms) "prefixItems" = [] := by
      rw [subMany_entries, subAt, confined.absent "prefixItems" (by decide)]
      rfl
    simp only [itemsCheck, noneFixed, elementsHold]
    cases subOne? (entries position check ms) "items" with
    | none => simp
    | some c => simp [isEmpty_flatMap, reading]
  | _ => rfl

theorem check_object (ms : Members) (v : Json) :
    check (.object ms) v =
      node (entries position check ms) v ++ Evaluation.checkMembers (entries position evaluation ms) v ++
        Evaluation.checkElements (entries position evaluation ms) v := by
  have checks : (entries position evaluation ms).map (Entry.map Evaluation.check) = entries position check ms :=
    (entries_comp position Evaluation.check evaluation ms).symm
  rw [check, evaluation, fold_object, Evaluation.ofEntries, ← checks]
  rfl

theorem Confined.checkMembers_eq_nil {ms : Members} (confined : Confined ms) (v : Json) :
    Evaluation.checkMembers (entries position evaluation ms) v = [] := by
  rw [Evaluation.checkMembers, subOne?_entries, subAt, confined.absent _ (by decide)]
  rfl

theorem Confined.checkElements_eq_nil {ms : Members} (confined : Confined ms) (v : Json) :
    Evaluation.checkElements (entries position evaluation ms) v = [] := by
  rw [Evaluation.checkElements, subOne?_entries, subAt, confined.absent _ (by decide)]
  rfl

theorem accepts_object {ms : Members} (confined : Confined ms) (v : Json) :
    accepts (.object ms) v = (dataHold dataKeywords ms v && subschemasHold (entries position accepts ms) v) := by
  have checked : accepts (.object ms) v = (node (entries position check ms) v).isEmpty := by
    rw [accepts, check_object, confined.checkMembers_eq_nil, confined.checkElements_eq_nil, List.append_nil,
      List.append_nil]
  have data : (dataKeywords.all fun k => (entryFor (entries position check ms) k).all fun e => holds k e.value v) =
      dataHold dataKeywords ms v := by
    simp only [entryFor_entries, Option.all_map, dataHold]
  have excluded : (!(subOne? (entries position check ms) "not").any fun c => (c v).isEmpty) =
      (subOne? (entries position check ms) "not").all fun c => !reading c v := by
    cases subOne? (entries position check ms) "not" <;> rfl
  -- What an interface has no keywords for reports nothing; the rest is read off one keyword at a time.
  obtain ⟨namesQuiet, dependentQuiet, containsQuiet, conditionQuiet⟩ := confined.quiet v
  rw [checked, node_isEmpty, data, memberRules_accepts, confined.itemsCheck_isEmpty, excluded, namesQuiet,
    dependentQuiet, containsQuiet, conditionQuiet]
  simp only [subschemasHold, subMany_accepts, subOne?_accepts, List.all_map, List.any_map, List.filter_map,
    List.length_map, entryFor_entries, Option.isSome_map, Option.all_map, Bool.and_true, Function.comp_def, reading,
    Bool.and_assoc]

end SchemaProbe.JsonSchema
