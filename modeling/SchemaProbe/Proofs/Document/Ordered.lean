import SchemaProbe.Api.OfDocument
import SchemaProbe.Proofs.Except
import SchemaProbe.Proofs.JsonSchema.Fold

set_option autoImplicit false

namespace SchemaProbe

theorem NameMap.sorted_iff_names {α : Type} (m : NameMap α) : NameMap.Sorted m ↔ (NameMap.names m).Pairwise (· < ·) := by
  rw [NameMap.names, List.pairwise_map]; rfl

namespace Reference

theorem replaceList_eq_mapM (expand : String → Except DocumentFault Json) (xs : List Json) :
    replaceList expand xs = xs.mapM (replace expand) := by
  induction xs with
  | nil => rfl
  | cons x xs ih => rw [replaceList, List.mapM_cons, ih]

theorem replaceMembers_eq_mapM (expand : String → Except DocumentFault Json) (ms : List (String × Json)) :
    replaceMembers expand ms = ms.mapM fun m => (replace expand m.2).map fun w => (m.1, w) := by
  induction ms with
  | nil => rfl
  | cons m ms ih =>
    obtain ⟨k, v⟩ := m
    rw [replaceMembers, List.mapM_cons, ih]
    cases replace expand v <;> rfl

theorem replaceMembers_names {expand : String → Except DocumentFault Json} {ms ws : List (String × Json)}
    (replaced : replaceMembers expand ms = .ok ws) : NameMap.names ws = NameMap.names ms := by
  rw [replaceMembers_eq_mapM, mapM_eq_ok_iff] at replaced
  induction replaced with
  | nil => rfl
  | cons first _ ih =>
    obtain ⟨w, -, rfl⟩ := map_eq_ok_iff.mp first
    simpa [NameMap.names] using ih

theorem replace_ordered {expand : String → Except DocumentFault Json} (expanded : ∀ r w, expand r = .ok w → w.Ordered)
    {v w : Json} (ordered : v.Ordered) (replaced : replace expand v = .ok w) : w.Ordered := by
  induction v using Json.inductionOn generalizing w with
  | array xs ih =>
    rw [replace, map_eq_ok_iff] at replaced
    obtain ⟨ys, elements, rfl⟩ := replaced
    rw [replaceList_eq_mapM] at elements
    refine Json.ordered_array_iff.mpr fun y member => ?_
    obtain ⟨x, within, step⟩ := exists_of_mem_mapM elements member
    exact ih x within (Json.ordered_array_iff.mp ordered x within) step
  | object ms ih =>
    rw [replace] at replaced
    split at replaced
    next r _ => exact expanded r w replaced
    next =>
      obtain ⟨ws, members, rfl⟩ := map_eq_ok_iff.mp replaced
      obtain ⟨sorted, each⟩ := Json.ordered_object_iff.mp ordered
      refine .object ?_ fun m member => ?_
      · rw [NameMap.sorted_iff_names] at sorted ⊢
        rwa [replaceMembers_names members]
      · rw [replaceMembers_eq_mapM] at members
        obtain ⟨m', within, step⟩ := exists_of_mem_mapM members member
        obtain ⟨w, value, rfl⟩ := map_eq_ok_iff.mp step
        exact ih m' within (each m' within) value
  | _ =>
    cases replaced
    exact ordered

theorem lookup_ordered {doc w : Json} (ordered : doc.Ordered) {place r : String}
    (found : lookup doc place r = .ok w) : w.Ordered := by
  unfold lookup at found
  split at found
  · simp at found
  · split at found
    · simp at found
    next at? =>
      cases found
      exact ordered.at? at?

theorem expand_ordered {doc w : Json} (ordered : doc.Ordered) {place : String} (budget : Nat)
    {expanding : List String} {r : String} (expanded : expand doc place budget expanding r = .ok w) :
    w.Ordered := by
  induction budget generalizing expanding r w with
  | zero => cases expanded; simp [Members.Ordered.nil]
  | succ budget ih =>
    unfold expand at expanded
    split at expanded
    · cases expanded; simp [Members.Ordered.nil]
    · obtain ⟨target, found, replaced⟩ := bind_eq_ok_iff.mp expanded
      exact replace_ordered (fun _ _ => ih) (lookup_ordered ordered found) replaced

theorem inline_ordered {doc v w : Json} (document : doc.Ordered) (ordered : v.Ordered) {place : String}
    (inlined : inline doc place v = .ok w) : w.Ordered :=
  replace_ordered (fun _ _ => expand_ordered document _) ordered inlined

theorem followFrom_ordered {doc v w : Json} (document : doc.Ordered) (ordered : v.Ordered) {place : String} (n : Nat)
    (followed : followFrom doc place n v = .ok w) : w.Ordered := by
  induction n generalizing v with
  | zero => simp [followFrom] at followed
  | succ n ih =>
    unfold followFrom at followed
    split at followed
    · cases followed; exact ordered
    · obtain ⟨target, found, rest⟩ := bind_eq_ok_iff.mp followed
      exact ih (lookup_ordered document found) rest

end Reference

namespace Normal

open JsonSchema

-- The value of a keyword with its subschemas in normal form; none if it has not the shape for subschemas.
def value? (k : String) (v : Json) : Option Json :=
  match position k, v with
  | .data, v => some v
  | .schema, .array xs => some (.array (xs.map normalize))
  | .schema, v => some (normalize v)
  | .schemas, .array xs => some (.array (xs.map normalize))
  | .schemas, _ => none
  | .named, .object ps => some (.object (ps.map fun p => (p.1, normalize p.2)))
  | .named, _ => none

theorem normalize_object (ms : Members) :
    normalize (.object ms) =
      nullByType (plainMembers (ms.filterMap fun m => (value? m.1 m.2).map fun w => (m.1, w))) := by
  have children := fold_object position id node ms
  rw [node, entries, List.filterMap_map] at children
  refine children.trans ?_
  congr 2
  refine List.filterMap_congr fun m _ => ?_
  simp only [Function.comp, keyword, Sub.ofValue, value?]
  cases position m.1 <;> cases m.2 <;> rfl

theorem plainMembers_ordered {ms : Members} (ordered : Members.Ordered ms) : Members.Ordered (plainMembers ms) := by
  have bound (exclusive inclusive : String) {ms : Members} (ordered : Members.Ordered ms) :
      Members.Ordered (exclusiveBound exclusive inclusive ms) := by
    unfold exclusiveBound
    split
    next flag _ =>
      dsimp only
      split
      next found _ =>
        exact ((ordered.erase _).erase _).insert _ ((ordered.erase _).get? found)
      next => exact ordered.erase _
    next => exact ordered
  have typed {ms : Members} (ordered : Members.Ordered ms) : Members.Ordered (dropFileType ms) := by
    unfold dropFileType
    split
    · exact ordered.erase _
    · exact ordered
  exact (typed (bound _ _ (bound _ _ ordered))).erase _

theorem addOnce_ordered {vs : List Json} {v : Json} (each : ∀ x ∈ vs, x.Ordered) (value : v.Ordered) :
    ∀ x ∈ addOnce vs v, x.Ordered := by
  unfold addOnce
  split
  · exact each
  · intro x member
    rcases List.mem_append.mp member with old | last
    · exact each x old
    · rw [List.mem_singleton.mp last]; exact value

theorem admitNull_ordered {ms : Members} (ordered : Members.Ordered ms) : (admitNull ms).Ordered := by
  have chosen : Members.Ordered (nullChoice ms) := by
    unfold nullChoice
    split
    next vs found =>
      exact ordered.insert _ (.array (addOnce_ordered (Json.ordered_array_iff.mp (ordered.get? found)) .null))
    next => exact ordered
  unfold admitNull
  dsimp only
  split
  next t _ => exact Json.ordered_object_iff.mpr (chosen.insert _ (by simp))
  next ts found =>
    refine Json.ordered_object_iff.mpr (chosen.insert _ (.array (addOnce_ordered ?_ (.string _))))
    exact Json.ordered_array_iff.mp (chosen.get? found)
  next =>
    refine Json.ordered_object_iff.mpr (.singleton _ (Json.ordered_array_iff.mpr ?_))
    simpa [chosen] using Members.Ordered.singleton "type" (Json.Ordered.string "null")

theorem nullByType_ordered {ms : Members} (ordered : Members.Ordered ms) : (nullByType ms).Ordered := by
  unfold nullByType
  split
  · exact admitNull_ordered ((ordered.erase _).erase _)
  · exact Json.ordered_object_iff.mpr ((ordered.erase _).erase _)

theorem value?_ordered {k : String} {v w : Json} (ordered : v.Ordered) (whole : (normalize v).Ordered)
    (below : ∀ x, Json.Child x v → (normalize x).Ordered) (here : value? k v = some w) : w.Ordered := by
  have elements {xs : List Json} (isArray : v = .array xs) : (Json.array (xs.map normalize)).Ordered := by
    subst isArray
    refine .array fun y member => ?_
    obtain ⟨x, within, rfl⟩ := List.mem_map.mp member
    exact below x (.element within)
  unfold value? at here
  split at here <;> cases here
  · exact ordered
  · exact elements rfl
  · exact whole
  · exact elements rfl
  · refine .object ?_ fun p member => ?_
    · have sorted := (Json.ordered_object_iff.mp ordered).sorted
      rw [NameMap.sorted_iff_names] at sorted ⊢
      simpa [NameMap.names, Function.comp_def] using sorted
    · obtain ⟨p', within, rfl⟩ := List.mem_map.mp member
      exact below p'.2 (.member within)

theorem normalize_ordered {schema : Json} (ordered : schema.Ordered) : (normalize schema).Ordered := by
  induction schema using Json.inductionBelow with
  | step schema ih =>
    cases ordered with
    | object sorted each =>
      rename_i ms
      rw [normalize_object]
      refine nullByType_ordered (plainMembers_ordered ⟨sorted.filterMap ?_, ?_⟩)
      · intro m w here
        obtain ⟨_, -, rfl⟩ := Option.map_eq_some_iff.mp here
        rfl
      · intro w member
        obtain ⟨m, within, here⟩ := List.mem_filterMap.mp member
        obtain ⟨x, value, rfl⟩ := Option.map_eq_some_iff.mp here
        -- The subschemas of an array or of named schemas lie one step below the member.
        have child : Json.Child m.2 (.object ms) := .member within
        refine value?_ordered (each m within) (ih _ (.single child) (each m within)) ?_ value
        intro y inside
        exact ih y (.tail (.single inside) child) ((each m within).of_child inside)
    | array each => exact .array each
    | _ => simp [normalize, fold]

end Normal

end SchemaProbe
