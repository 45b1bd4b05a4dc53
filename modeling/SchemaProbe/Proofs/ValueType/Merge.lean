import SchemaProbe.Proofs.Except
import SchemaProbe.Proofs.Json.Ordered
import SchemaProbe.ValueType.Merge

set_option autoImplicit false

namespace SchemaProbe

theorem Keyword.elements_ordered {ms : Members} (ordered : Members.Ordered ms) (name : String) :
    ∀ v ∈ Keyword.elements ms name, v.Ordered := by
  unfold Keyword.elements
  cases found : (NameMap.get? ms name).bind Json.array? with
  | none => simp
  | some vs => exact ordered.arrayAt found

def Keyword.compositions : List String := ["allOf", "anyOf", "oneOf"]

namespace Merge

def ownPart (ms : Members) : Members := ms.filter fun m => m.1 != "allOf" && m.1 != "anyOf" && m.1 != "oneOf"

-- The variant that the first of anyOf and oneOf narrows to.
def chosenVariant? (ms : Members) : Option Json :=
  (parts.variant? ms "anyOf").orElse fun _ => parts.variant? ms "oneOf"

def variantParts (fuel : Nat) (ms : Members) : Except TypeFault (List Members) :=
  match chosenVariant? ms with
  | some variant => parts fuel variant
  | none => .ok []

def listedParts (fuel : Nat) (ms : Members) : Except TypeFault (List (List Members)) :=
  match NameMap.get? ms "allOf" with
  | none => .ok []
  | some (.array vs) => vs.mapM (parts fuel)
  | some other => .error (.partsNotArray other)

theorem parts_object (fuel : Nat) (ms : Members) :
    parts (fuel + 1) (.object ms) = variantParts fuel ms >>= fun narrowed => listedParts fuel ms >>= fun listed =>
      .ok (ownPart ms :: narrowed ++ listed.flatten) := by
  rw [parts, variantParts, chosenVariant?]
  have listed (narrowed : List Members) : (match NameMap.get? ms "allOf" with
      | none => .ok (ownPart ms :: narrowed)
      | some (.array vs) => vs.mapM (parts fuel) >>= fun rest => .ok (ownPart ms :: narrowed ++ rest.flatten)
      | some other => .error (.partsNotArray other)) =
      listedParts fuel ms >>= fun listed => .ok (ownPart ms :: narrowed ++ listed.flatten) := by
    unfold listedParts
    cases NameMap.get? ms "allOf" with
    | none => simp [Bind.bind, Except.bind]
    | some w => cases w <;> rfl
  cases (parts.variant? ms "anyOf").orElse fun _ => parts.variant? ms "oneOf" with
  | none => exact listed []
  | some v => exact congrArg (parts fuel v >>= ·) (funext listed)

theorem mem_elements_of_chosenVariant {ms : Members} {v : Json} (chosen : chosenVariant? ms = some v) :
    ∃ name ∈ Keyword.compositions, v ∈ Keyword.elements ms name := by
  unfold chosenVariant? at chosen
  cases first : parts.variant? ms "anyOf" with
  | none =>
    rw [first] at chosen
    exact ⟨"oneOf", by decide, List.mem_of_find?_eq_some chosen⟩
  | some w =>
    rw [first] at chosen
    cases chosen
    exact ⟨"anyOf", by decide, List.mem_of_find?_eq_some first⟩

theorem mem_elements_of_get? {ms : Members} {name : String} {vs : List Json}
    (found : NameMap.get? ms name = some (.array vs)) {v : Json} (member : v ∈ vs) : v ∈ Keyword.elements ms name := by
  simpa [Keyword.elements, found, Json.array?]

def Composes (ms : Members) (v : Json) : Prop :=
  chosenVariant? ms = some v ∨ ∃ vs, NameMap.get? ms "allOf" = some (.array vs) ∧ v ∈ vs

theorem Composes.mem_elements {ms : Members} {v : Json} (composes : Composes ms v) :
    ∃ name ∈ Keyword.compositions, v ∈ Keyword.elements ms name := by
  rcases composes with chosen | ⟨vs, found, member⟩
  · exact mem_elements_of_chosenVariant chosen
  · exact ⟨"allOf", by decide, mem_elements_of_get? found member⟩

structure PartsRead (fuel : Nat) (ms : Members) (ps : List Members) : Prop where
  each : ∀ v, Composes ms v → ∃ qs, parts fuel v = .ok qs
  member : ∀ p, p ∈ ps ↔ p = ownPart ms ∨ ∃ v qs, Composes ms v ∧ parts fuel v = .ok qs ∧ p ∈ qs

theorem variantParts_eq_ok {fuel : Nat} {ms : Members} {narrowed : List Members}
    (done : variantParts fuel ms = .ok narrowed) :
    (∀ v, chosenVariant? ms = some v → ∃ qs, parts fuel v = .ok qs) ∧
      ∀ p, p ∈ narrowed ↔ ∃ v qs, chosenVariant? ms = some v ∧ parts fuel v = .ok qs ∧ p ∈ qs := by
  unfold variantParts at done
  cases found : chosenVariant? ms with
  | none =>
    rw [found] at done
    cases done
    simp
  | some v =>
    rw [found] at done
    simp [done]

theorem listedParts_eq_ok {fuel : Nat} {ms : Members} {listed : List (List Members)}
    (done : listedParts fuel ms = .ok listed) :
    (∀ vs, NameMap.get? ms "allOf" = some (.array vs) → ∀ v ∈ vs, ∃ qs, parts fuel v = .ok qs) ∧
      ∀ p, p ∈ listed.flatten ↔ ∃ vs v qs, NameMap.get? ms "allOf" = some (.array vs) ∧ v ∈ vs ∧
        parts fuel v = .ok qs ∧ p ∈ qs := by
  unfold listedParts at done
  split at done
  next absent => cases done; simp [absent]
  next vs found =>
    refine ⟨fun ws same v member => ?_, fun p => ?_⟩
    · cases found.symm.trans same
      obtain ⟨qs, -, split?⟩ := exists_of_mapM_of_mem done member
      exact ⟨qs, split?⟩
    · rw [List.mem_flatten]
      constructor
      · rintro ⟨qs, within, inside⟩
        obtain ⟨v, element, split?⟩ := exists_of_mem_mapM done within
        exact ⟨vs, v, qs, found, element, split?, inside⟩
      · rintro ⟨ws, v, qs, same, element, split?, inside⟩
        cases found.symm.trans same
        obtain ⟨qs', within, split'⟩ := exists_of_mapM_of_mem done element
        cases split?.symm.trans split'
        exact ⟨qs, within, inside⟩
  next => cases done

theorem parts_object_eq_ok {fuel : Nat} {ms : Members} {ps : List Members}
    (gathered : parts (fuel + 1) (.object ms) = .ok ps) : PartsRead fuel ms ps := by
  rw [parts_object] at gathered
  obtain ⟨narrowed, variant, rest⟩ := bind_eq_ok_iff.mp gathered
  obtain ⟨listed, further, done⟩ := bind_eq_ok_iff.mp rest
  cases done
  obtain ⟨chosen, inVariant⟩ := variantParts_eq_ok variant
  obtain ⟨named, inListed⟩ := listedParts_eq_ok further
  refine ⟨fun v composes => ?_, fun p => ?_⟩
  · rcases composes with found | ⟨vs, found, member⟩
    · exact chosen v found
    · exact named vs found v member
  · rw [List.cons_append, List.mem_cons, List.mem_append, inVariant, inListed]
    constructor
    · rintro (own | ⟨v, qs, found, gathered⟩ | ⟨vs, v, qs, found, member, gathered⟩)
      · exact .inl own
      · exact .inr ⟨v, qs, .inl found, gathered⟩
      · exact .inr ⟨v, qs, .inr ⟨vs, found, member⟩, gathered⟩
    · rintro (own | ⟨v, qs, found | ⟨vs, found, member⟩, gathered⟩)
      · exact .inl own
      · exact .inr (.inl ⟨v, qs, found, gathered⟩)
      · exact .inr (.inr ⟨vs, v, qs, found, member, gathered⟩)

theorem parts_forall {whole : Json → Prop} {part : Members → Prop}
    (own : ∀ ms, whole (.object ms) → part (ownPart ms))
    (composed : ∀ ms, whole (.object ms) → ∀ name ∈ Keyword.compositions, ∀ v ∈ Keyword.elements ms name, whole v)
    (fuel : Nat) {v : Json} (holds : whole v) {ps : List Members} (gathered : parts fuel v = .ok ps) :
    ∀ p ∈ ps, part p := by
  induction fuel generalizing v ps with
  | zero => cases gathered
  | succ fuel ih =>
    cases v with
    | bool b => cases b <;> cases gathered; simp
    | object ms =>
      intro p member
      rcases ((parts_object_eq_ok gathered).member p).mp member with rfl | ⟨w, qs, composes, split?, inside⟩
      · exact own ms holds
      · obtain ⟨name, listed, element⟩ := composes.mem_elements
        exact ih (composed ms holds name listed w element) split? p inside
    | _ => cases gathered

section
variable {schema : Json → Prop}
  (allOf : ∀ vs, vs ≠ [] → (∀ v ∈ vs, schema v) → schema (.object [("allOf", .array vs)]))
include allOf

theorem properties_forall {parts : List Members}
    (each : ∀ p ∈ parts, ∀ m ∈ ((NameMap.get? p "properties").bind Json.object?).getD [], schema m.2) :
    ∀ m ∈ properties parts, schema m.2 := by
  have added {acc : Members} (before : ∀ m ∈ acc, schema m.2) {m : String × Json} (value : schema m.2) :
      ∀ e ∈ addProperty acc m, schema e.2 := by
    unfold addProperty
    split
    next existing found =>
      intro e member
      rcases NameMap.mem_insert member with rfl | old
      · exact allOf _ (List.cons_ne_nil _ _) (by simpa using ⟨before _ (NameMap.mem_of_get? found), value⟩)
      · exact before e old
    next =>
      intro e member
      rcases NameMap.mem_insert member with rfl | old
      · exact value
      · exact before e old
  -- One fold over the parts, and inside it one over the properties of a part.
  refine List.foldlRecOn (motive := fun acc : Members => ∀ m ∈ acc, schema m.2) parts _ (by simp) ?_
  intro acc before p within
  refine List.foldlRecOn (motive := fun acc : Members => ∀ m ∈ acc, schema m.2) _ _ before ?_
  intro acc before m member
  exact added before (each p within m member)

theorem itemsMember_forall {vs : List Json} (each : ∀ v ∈ vs, schema v) : ∀ m ∈ itemsMember vs, schema m.2 := by
  unfold itemsMember
  split
  next => simp
  next => simpa using each
  next some _ => simpa using allOf vs some each

end

theorem allOf_ordered (vs : List Json) (each : ∀ v ∈ vs, v.Ordered) : (Json.object [("allOf", .array vs)]).Ordered :=
  Json.ordered_object_iff.mpr (.singleton "allOf" (.array each))

theorem properties_sorted (parts : List Members) : NameMap.Sorted (properties parts) := by
  refine List.foldlRecOn (motive := NameMap.Sorted) parts _ .nil fun acc sorted p _ => ?_
  refine List.foldlRecOn (motive := NameMap.Sorted) _ _ sorted fun acc sorted m _ => ?_
  unfold addProperty
  split <;> exact sorted.insert _ _

theorem properties_ordered {parts : List Members} (each : ∀ p ∈ parts, Members.Ordered p) :
    Members.Ordered (properties parts) := by
  refine ⟨properties_sorted parts, properties_forall (fun vs _ => allOf_ordered vs) fun p within => ?_⟩
  cases found : (NameMap.get? p "properties").bind Json.object? with
  | none => simp
  | some props => exact ((each p within).objectAt found).each

theorem mem_of_mem_distinct {vs : List Json} {v : Json} (member : v ∈ distinct vs) : v ∈ vs := by
  have kept : ∀ w ∈ distinct vs, w ∈ vs := by
    refine List.foldlRecOn (motive := fun acc => ∀ w ∈ acc, w ∈ vs) vs _ (by simp) fun acc before x within => ?_
    split
    · exact before
    · intro w last
      rcases List.mem_append.mp last with old | new
      · exact before w old
      · rw [List.mem_singleton.mp new]; exact within
  exact kept v member

theorem mem_foldl_distinct {α : Type} [BEq α] {x : α} (found : ∀ vs : List α, vs.contains x = true → x ∈ vs)
    {vs acc : List α} (here : x ∈ acc ∨ x ∈ vs) :
    x ∈ vs.foldl (fun acc v => if acc.contains v then acc else acc ++ [v]) acc := by
  induction vs generalizing acc with
  | nil => simpa using here
  | cons v vs ih =>
    rw [List.foldl_cons]
    refine ih ?_
    by_cases present : acc.contains v = true
    · rw [if_pos present]
      rcases here with old | new
      · exact .inl old
      · refine (List.mem_cons.mp new).imp_left ?_
        rintro rfl
        exact found acc present
    · rw [if_neg present, List.mem_append, List.mem_singleton]
      rcases here with old | new
      · exact .inl (.inl old)
      · exact (List.mem_cons.mp new).imp_left .inr

theorem required_ordered {parts : List Members} (each : ∀ p ∈ parts, Members.Ordered p) :
    ∀ v ∈ required parts, v.Ordered := by
  intro v member
  obtain ⟨ms, within, element⟩ := List.mem_flatMap.mp (mem_of_mem_distinct member)
  exact Keyword.elements_ordered (each ms within) _ v element

theorem choices_ordered {parts : List Members} (each : ∀ p ∈ parts, Members.Ordered p) {vs : List Json}
    (chosen : choices parts = some vs) : ∀ v ∈ vs, v.Ordered := by
  have listed : ∀ ws, choices parts = some ws → ∀ v ∈ ws, v.Ordered := by
    refine List.foldlRecOn (motive := fun acc : Option (List Json) => ∀ ws, acc = some ws → ∀ v ∈ ws, v.Ordered)
      parts _ (by simp) fun acc before ms within => ?_
    split
    next => exact before
    next ws found => intro ws' same; cases same; exact (each ms within).arrayAt found
    next =>
      intro ws' same v member
      cases same
      exact before _ rfl v (List.mem_filter.mp member).1
  exact listed vs chosen

theorem others_ordered {parts : List Members} (each : ∀ p ∈ parts, Members.Ordered p) :
    Members.Ordered (others parts) := by
  refine List.foldlRecOn (motive := Members.Ordered) parts _ .nil fun acc ordered ms within => ?_
  refine List.foldlRecOn (motive := Members.Ordered) ms _ ordered fun acc ordered m member => ?_
  split
  · exact ordered
  · exact ordered.insert _ ((each ms within).each m member)

theorem items_ordered {parts : List Members} (each : ∀ p ∈ parts, Members.Ordered p) :
    ∀ v ∈ items parts, v.Ordered := by
  intro v member
  obtain ⟨ms, within, found⟩ := List.mem_filterMap.mp member
  exact (each ms within).get? found

theorem combinedMembers_ordered {parts : List Members} (each : ∀ p ∈ parts, Members.Ordered p)
    (type : Option String) (step : Option Binary64) : ∀ m ∈ combinedMembers type step parts, m.2.Ordered := by
  have bound (inclusive exclusive : String) (b : Option (Binary64 × Bool)) :
      ∀ m ∈ boundMembers inclusive exclusive b, m.2.Ordered := by
    unfold boundMembers
    split <;> simp
  have size (key : String) (n : Option Nat) : ∀ m ∈ sizeMember key n, m.2.Ordered := by
    unfold sizeMember
    split <;> simp [Json.ofNat]
  have item := itemsMember_forall (fun vs _ => allOf_ordered vs) (items_ordered each)
  simp only [combinedMembers, List.forall_mem_append, and_assoc]
  refine ⟨?_, ?_, ?_, ?_, bound _ _ _, bound _ _ _, ?_, item, ?_, ?_, size _ _, size _ _, size _ _, size _ _⟩
  · split <;> simp
  · split
    · simp
    · simpa using properties_ordered each
  · split
    · simp
    · simpa using required_ordered each
  · split
    next vs chosen => simpa using choices_ordered each chosen
    next => simp
  · split
    · simp only [List.mem_singleton, forall_eq, Json.ofBinary64]
      split <;> simp
    · simp
  · split <;> simp
  · split <;> simp

theorem merge_eq_ok {parts : List Members} {ms : Members} {further : List String}
    (merged : merge parts = .ok (ms, further)) :
    ∃ type step, typeAndStep parts = .ok (type, step) ∧ further = (patterns parts).drop 1 ∧
      ms = (combinedMembers type step parts).foldl (fun acc m => NameMap.insert acc m.1 m.2) (others parts) := by
  unfold merge at merged
  obtain ⟨⟨type, step⟩, typed, rest⟩ := bind_eq_ok_iff.mp merged
  dsimp only at rest
  split at rest
  · obtain ⟨_, thrown, -⟩ := bind_eq_ok_iff.mp rest
    exact absurd thrown throw_ne_ok
  · cases rest
    exact ⟨type, step, typed, rfl, rfl⟩

theorem merge_ordered {parts : List Members} (each : ∀ p ∈ parts, Members.Ordered p) {ms : Members}
    {further : List String} (merged : merge parts = .ok (ms, further)) : Members.Ordered ms := by
  obtain ⟨type, step, -, -, rfl⟩ := merge_eq_ok merged
  refine List.foldlRecOn (motive := Members.Ordered) _ _ (others_ordered each) fun acc ordered m member => ?_
  exact ordered.insert _ (combinedMembers_ordered each type step m member)

end Merge

end SchemaProbe
