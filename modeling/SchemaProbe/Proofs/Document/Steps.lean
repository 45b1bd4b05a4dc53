import SchemaProbe.Proofs.Document.Ordered
import SchemaProbe.Proofs.JsonSchema.Subschemas

set_option autoImplicit false

namespace SchemaProbe

namespace JsonSchema

theorem typeNames_of_hasType {name : String} {v : Json} (has : hasType name v = true) : name ∈ typeNames := by
  unfold hasType at has
  split at has <;> first | decide | cases has

theorem any_ordered (names : List String) (v : Json) :
    (ordered names).any (hasType · v) = names.any (hasType · v) := by
  rw [Bool.eq_iff_iff]
  simp only [List.any_eq_true, ordered, List.mem_filter, List.contains_iff_mem]
  constructor
  · rintro ⟨name, ⟨-, listed⟩, has⟩
    exact ⟨name, listed, has⟩
  · rintro ⟨name, listed, has⟩
    exact ⟨name, ⟨typeNames_of_hasType has, listed⟩, has⟩

theorem holds_type_string (t : String) (v : Json) : holds "type" (.string t) v = hasType t v := by
  simp [holds, reading, dataCheck, typeCheck]

theorem holds_type_array (ts : List Json) (v : Json) :
    holds "type" (.array ts) v = (ts.filterMap Json.string?).any (hasType · v) := by
  rw [← any_ordered]
  simp [holds, reading, dataCheck, typeCheck]

theorem holds_enum_array (vs : List Json) (v : Json) : holds "enum" (.array vs) v = vs.any (same v) := by
  simp [holds, reading, dataCheck, Json.array?]

theorem hasType_null {v : Json} (present : v ≠ .null) : hasType "null" v = false := by
  cases v <;> simp_all [hasType]

theorem same_null {v : Json} (present : v ≠ .null) : same v .null = false := by
  cases v <;> simp_all [same]

end JsonSchema

namespace Normal

open JsonSchema

theorem any_addOnce {vs : List Json} {w : Json} {p : Json → Bool} (nothing : p w = false) :
    (addOnce vs w).any p = vs.any p := by
  unfold addOnce
  split
  · rfl
  · simp [nothing]

section
variable {ms : Members} {v : Json}

theorem nullChoice_confined (confined : Confined ms) : Confined (nullChoice ms) := by
  unfold nullChoice
  split
  · refine confined.congr fun k member => ?_
    have differ : k ≠ "enum" := by
      rintro rfl
      simp [foreignKeywords] at member
    rw [NameMap.get?_insert, if_neg differ]
  · exact confined

theorem accepts_nullChoice (confined : Confined ms) (present : v ≠ .null) :
    accepts (.object (nullChoice ms)) v = accepts (.object ms) v := by
  unfold nullChoice
  split
  next vs found =>
    refine accepts_insert confined (by decide) found ?_
    rw [holds_enum_array, holds_enum_array, any_addOnce (same_null present)]
  next => rfl

theorem accepts_null_schema (v : Json) : accepts (.object [("type", .string "null")]) v = hasType "null" v := by
  cases v <;> rfl

theorem accepts_orNull (ms : Members) (v : Json) :
    accepts (.object [("anyOf", .array [.object ms, .object [("type", .string "null")]])]) v =
      (accepts (.object ms) v || hasType "null" v) := by
  have nothing : membersHold [] [] none v = true ∧ elementsHold none v = true := by
    cases v <;> simp [membersHold, elementsHold]
  have confined : Confined [("anyOf", .array [.object ms, .object [("type", .string "null")]])] :=
    ⟨by simp [foreignKeywords, NameMap.get?_cons], by simp [NameMap.get?_cons]⟩
  -- Every keyword but anyOf is absent.
  rw [accepts_object confined]
  simp [dataHold, dataKeywords, dataOrder, subschemasHold, subNamed_entries, subOne?_entries, subMany_entries,
    isSome_entryFor_entries, subAt, NameMap.get?_cons, patternsOf, nothing, Sub.ofValue, JsonSchema.position,
    Sub.many?, accepts_null_schema]

theorem accepts_admitNull (confined : Confined ms) (present : v ≠ .null) :
    accepts (admitNull ms) v = accepts (.object ms) v := by
  have chosen := nullChoice_confined confined
  rw [← accepts_nullChoice confined present]
  simp only [admitNull]
  split
  -- One type becomes two, several become one more, and without a type the whole schema becomes one of two.
  next t found =>
    refine accepts_insert chosen (by decide) found ?_
    rw [holds_type_array, holds_type_string]
    simp [Json.string?, hasType_null present]
  next ts found =>
    refine accepts_insert chosen (by decide) found ?_
    rw [holds_type_array, holds_type_array, List.any_filterMap, List.any_filterMap]
    exact any_addOnce (hasType_null present)
  next => rw [accepts_orNull, hasType_null present, Bool.or_false]

theorem accepts_nullByType
    (confined : Confined (NameMap.erase (NameMap.erase ms "nullable") "x-nullable")) (present : v ≠ .null) :
    accepts (nullByType ms) v = accepts (.object (NameMap.erase (NameMap.erase ms "nullable") "x-nullable")) v := by
  simp only [nullByType]
  split
  · exact accepts_admitNull confined present
  · rfl

end

-- A bound beside the flag that makes it exclusive, or beside an exclusive bound of its own.
def boundHolds (exclusive inclusive : String) (flag limit : Option Json) : Reading := fun v =>
  match flag with
  | some (.bool strict) => limit.all fun l => holds (if strict then exclusive else inclusive) l v
  | _ => limit.all (fun l => holds inclusive l v) && flag.all fun l => holds exclusive l v

section
variable {exclusive inclusive : String} {ms : Members}

theorem get?_exclusiveBound {k : String} (other : k ≠ exclusive ∧ k ≠ inclusive) :
    NameMap.get? (exclusiveBound exclusive inclusive ms) k = NameMap.get? ms k := by
  unfold exclusiveBound
  split
  · dsimp only
    split <;> simp [NameMap.get?_insert, NameMap.get?_erase, other]
  · rfl

theorem boundHolds_exclusiveBound (apart : inclusive ≠ exclusive) (v : Json) :
    ((NameMap.get? (exclusiveBound exclusive inclusive ms) inclusive).all (fun l => holds inclusive l v) &&
        (NameMap.get? (exclusiveBound exclusive inclusive ms) exclusive).all fun l => holds exclusive l v) =
      boundHolds exclusive inclusive (NameMap.get? ms exclusive) (NameMap.get? ms inclusive) v := by
  unfold exclusiveBound boundHolds
  cases flag : NameMap.get? ms exclusive with
  | none => simp [flag]
  | some w =>
    cases w with
    | bool strict =>
      have kept : NameMap.get? (NameMap.erase ms exclusive) inclusive = NameMap.get? ms inclusive := by
        rw [NameMap.get?_erase, if_neg apart]
      simp only [kept]
      cases limit : NameMap.get? ms inclusive with
      | none => cases strict <;> simp [NameMap.get?_erase, limit]
      | some l => cases strict <;> simp [NameMap.get?_insert, NameMap.get?_erase, limit, apart]
    | _ => simp [flag]

end

end Normal

end SchemaProbe
