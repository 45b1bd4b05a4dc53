import SchemaProbe.Proofs.JsonSchema.Keywords

set_option autoImplicit false

namespace SchemaProbe

namespace Json

mutual
def nullFree : Json → Bool
  | null => false
  | array xs => nullFreeList xs
  | object ms => nullFreeMembers ms
  | _ => true
def nullFreeList : List Json → Bool
  | [] => true
  | x :: xs => nullFree x && nullFreeList xs
def nullFreeMembers : List (String × Json) → Bool
  | [] => true
  | (_, x) :: ms => nullFree x && nullFreeMembers ms
end

theorem nullFree_array (xs : List Json) : (array xs).nullFree = xs.all nullFree := by
  rw [nullFree]
  induction xs with
  | nil => rfl
  | cons x xs ih => rw [nullFreeList, ih, List.all_cons]

theorem nullFree_object (ms : List (String × Json)) : (object ms).nullFree = ms.all fun m => m.2.nullFree := by
  rw [nullFree]
  induction ms with
  | nil => rfl
  | cons m ms ih => rw [nullFreeMembers, ih, List.all_cons]

end Json

namespace JsonSchema

def hosts : List String :=
  ["properties", "patternProperties", "items", "additionalProperties", "not", "allOf", "anyOf", "oneOf"]

theorem subschemasHold_congr {f f' : Json → Reading} {ms ms' : Members}
    (same : ∀ k ∈ hosts, subAt position f ms k = subAt position f' ms' k) :
    subschemasHold (entries position f ms) = subschemasHold (entries position f' ms') := by
  simp only [hosts, List.forall_mem_cons, List.not_mem_nil] at same
  obtain ⟨properties, patterns, items, additional, no, allOf, anyOf, oneOf, -⟩ := same
  funext v
  simp only [subschemasHold, subNamed_entries, subOne?_entries, subMany_entries, isSome_entryFor_entries, properties,
    patterns, items, additional, no, allOf, anyOf, oneOf]

theorem accepts_insert {ms : Members} (confined : Confined ms) {k : String} {old new v : Json}
    (apart : k ∉ "dependentSchemas" :: foreignKeywords ++ hosts) (found : NameMap.get? ms k = some old)
    (same : holds k new v = holds k old v) : accepts (.object (NameMap.insert ms k new)) v = accepts (.object ms) v := by
  have other : ∀ l ∈ "dependentSchemas" :: foreignKeywords ++ hosts,
      NameMap.get? (NameMap.insert ms k new) l = NameMap.get? ms l := by
    intro l member
    have differ : l ≠ k := by
      rintro rfl
      exact apart member
    rw [NameMap.get?_insert, if_neg differ]
  have data : dataHold dataKeywords (NameMap.insert ms k new) v = dataHold dataKeywords ms v := by
    simp only [dataHold]
    congr 1
    funext l
    rw [NameMap.get?_insert]
    by_cases here : l = k
    · rw [if_pos here, here, found, Option.all_some, Option.all_some, same]
    · rw [if_neg here]
  have confined' : Confined (NameMap.insert ms k new) :=
    confined.congr fun l member => other l (List.mem_append_left _ member)
  rw [accepts_object confined, accepts_object confined', data, subschemasHold_congr]
  intro l member
  rw [subAt, subAt, other l (List.mem_append_right _ member)]

def withoutNull (r : Reading) : Reading := fun v => v.nullFree && r v

theorem membersHold_withoutNull {declared : List (String × Reading)} {patterned : List (Pattern × Reading)}
    {additional : Option Reading} {v : Json} (free : v.nullFree = true) :
    membersHold (declared.map fun p => (p.1, withoutNull p.2)) (patterned.map fun p => (p.1, withoutNull p.2))
        (additional.map withoutNull) v =
      membersHold declared patterned additional v := by
  cases v with
  | object ms =>
    rw [Json.nullFree_object, List.all_eq_true] at free
    have lookup (name : String) : (declared.map fun p => (p.1, withoutNull p.2)).lookup name =
        (declared.lookup name).map withoutNull := NameMap.get?_map (fun _ => withoutNull) declared name
    simp only [membersHold, lookup, Option.all_map, Option.isSome_map, List.all_map, List.any_map, Function.comp_def]
    rw [Bool.eq_iff_iff, List.all_eq_true, List.all_eq_true]
    refine forall₂_congr fun m member => ?_
    simp only [withoutNull, free m member, Bool.true_and]
  | _ => rfl

theorem elementsHold_withoutNull {each : Option Reading} {v : Json} (free : v.nullFree = true) :
    elementsHold (each.map withoutNull) v = elementsHold each v := by
  cases v with
  | array xs =>
    rw [Json.nullFree_array, List.all_eq_true] at free
    simp only [elementsHold, Option.all_map]
    rw [Bool.eq_iff_iff, List.all_eq_true, List.all_eq_true]
    refine forall₂_congr fun x member => ?_
    simp only [withoutNull, free x member, Bool.true_and]
  | _ => rfl

-- Of a value that holds no null, only what subschemas say of such values counts.
theorem subschemasHold_withoutNull {f : Json → Reading} {ms : Members} {v : Json} (free : v.nullFree = true) :
    subschemasHold (entries position (fun s => withoutNull (f s)) ms) v =
      subschemasHold (entries position f ms) v := by
  -- Some keywords hand on the value itself, the others its members or its elements, none of which holds a null.
  have whole (r : Reading) : withoutNull r v = r v := by
    rw [withoutNull, free, Bool.true_and]
  simp only [subschemasHold, subNamed_entries_comp, subOne?_entries_comp, subMany_entries_comp, patternsOf_map,
    membersHold_withoutNull free, elementsHold_withoutNull free, isSome_entryFor_entries, subAt_comp,
    Option.isSome_map, List.all_map, List.any_map, List.filter_map, List.length_map, Option.all_map,
    Function.comp_def, whole]

end JsonSchema

end SchemaProbe
