import SchemaProbe.Proofs.ValueType.Basic
import SchemaProbe.Proofs.ValueType.Build

set_option autoImplicit false

namespace SchemaProbe

theorem Resolved.ofSchema_ordered (fuel : Nat) {v : Json} (ordered : v.Ordered) {r : Resolved}
    (resolved : Resolved.ofSchema fuel v = .ok r) : Members.Ordered r.keywords :=
  ofSchema_forall .nil (fun _ => Json.ordered_object_iff.mp)
    (fun _ whole name _ => Keyword.elements_ordered (Json.ordered_object_iff.mp whole) name)
    (fun _ whole => whole.filter _) (fun _ each _ _ => Merge.merge_ordered each) fuel ordered resolved

namespace ValueType

theorem declaredProperties_ordered {ms : Members} (ordered : Members.Ordered ms) :
    Members.Ordered (declaredProperties ms) := by
  unfold declaredProperties
  cases found : (NameMap.get? ms "properties").bind Json.object? with
  | none => exact .nil
  | some props => exact ordered.objectAt found

theorem ordered_of_inner {ms : Members} (ordered : Members.Ordered ms) {v : Json} (inner : Keyword.Inner ms v) :
    v.Ordered := by
  cases inner with
  | items found => exact ordered.get? found
  | property member => exact (declaredProperties_ordered ordered).each _ member

theorem names_of_propertyTypes {inner : Json → Except TypeFault ValueType} {ms : Members}
    {ps : List (Property ValueType)} (built : propertyTypes inner ms = .ok ps) :
    ps.map Property.name = NameMap.names (declaredProperties ms) := by
  rw [propertyTypes, mapM_eq_ok_iff] at built
  generalize declaredProperties ms = declared at built ⊢
  induction built with
  | nil => rfl
  | cons first _ ih =>
    obtain ⟨t, -, made⟩ := bind_eq_ok_iff.mp first
    cases made
    rw [List.map_cons, ih]
    rfl

theorem exists_of_mem_propertyTypes {inner : Json → Except TypeFault ValueType} {ms : Members}
    {ps : List (Property ValueType)} (built : propertyTypes inner ms = .ok ps) {p : Property ValueType}
    (member : p ∈ ps) : ∃ v, (p.name, v) ∈ declaredProperties ms ∧ inner v = .ok p.type := by
  obtain ⟨⟨name, v⟩, within, step⟩ := exists_of_mem_mapM built member
  obtain ⟨t, typed, made⟩ := bind_eq_ok_iff.mp step
  cases made
  exact ⟨v, within, mapError_eq_ok_iff.mp typed⟩

theorem build_namesDistinct (fuel : Nat) {v : Json} (ordered : v.Ordered) {t : ValueType}
    (built : build fuel v = .ok t) : t.NamesDistinct := by
  induction fuel generalizing v t with
  | zero => cases built
  | succ fuel ih =>
    rw [build_succ] at built
    obtain ⟨r, resolved, built⟩ := bind_eq_ok_iff.mp built
    obtain ⟨⟨name, hasNull⟩, -, named⟩ := bind_eq_ok_iff.mp built
    have keywords := Resolved.ofSchema_ordered _ ordered resolved
    rw [ofName_eq_ok_iff] at named
    generalize name.orElse (fun _ => inferredName r.keywords) = wanted at named
    cases named with
    | any | null => exact .any _
    | text => exact .text _ _
    | integer => exact .integer _ _
    | number => exact .number _ _
    | boolean => exact .boolean _
    | array item =>
      unfold itemsType at item
      split at item
      next items found => exact .array (ih (keywords.get? found) (mapError_eq_ok_iff.mp item))
      next => cases item; exact .array (.any _)
    | object properties =>
      have declared := declaredProperties_ordered keywords
      refine .object ?_ fun p member => ?_
      · rw [names_of_propertyTypes properties]
        exact declared.sorted.names_nodup
      · obtain ⟨w, within, typed⟩ := exists_of_mem_propertyTypes properties member
        exact ih (declared.each _ within) typed

theorem ofSchema_namesDistinct {v : Json} (ordered : v.Ordered) {t : ValueType} (built : ofSchema v = .ok t) :
    t.NamesDistinct :=
  build_namesDistinct _ ordered built

end ValueType

end SchemaProbe
