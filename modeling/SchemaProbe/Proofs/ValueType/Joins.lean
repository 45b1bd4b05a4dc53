import SchemaProbe.Proofs.ValueType.Required

set_option autoImplicit false

namespace SchemaProbe

namespace Merge

-- A joined schema grows while it is merged; the schemas that it is joined of do not.
inductive Joins : Json → List Json → Prop where
  | alone (v : Json) : Joins v [v]
  | listed {vs : List Json} (two : 2 ≤ vs.length) : Joins (.object [("allOf", .array vs)]) vs
  | added {v w : Json} {vs : List Json} (earlier : Joins v vs) :
      Joins (.object [("allOf", .array [v, w])]) (vs ++ [w])

theorem Joins.alone_or_allOf {v : Json} {vs : List Json} (joins : Joins v vs) :
    vs = [v] ∨ 2 ≤ vs.length ∧ ∃ us, v = .object [("allOf", .array us)] := by
  induction joins with
  | alone v => exact .inl rfl
  | listed two => exact .inr ⟨two, _, rfl⟩
  | added _ ih =>
    refine .inr ⟨?_, _, rfl⟩
    rcases ih with rfl | ⟨two, -⟩ <;> simp only [List.length_append, List.length_cons, List.length_nil] <;> omega

-- What is gathered so far, if anything is.
def Gathers : Option Json → List Json → Prop
  | none, vs => vs = []
  | some v, vs => Joins v vs

theorem Gathers.addProperty {acc : Members} {name : String} {vs : List Json} (m : String × Json)
    (gathered : Gathers (NameMap.get? acc name) vs) :
    Gathers (NameMap.get? (addProperty acc m) name) (if name = m.1 then vs ++ [m.2] else vs) := by
  rw [Merge.addProperty]
  by_cases same : name = m.1
  · subst same
    rw [if_pos rfl]
    cases found : NameMap.get? acc m.1 with
    | none =>
      rw [found] at gathered
      rw [NameMap.get?_insert, if_pos rfl, show vs = [] from gathered]
      exact .alone m.2
    | some existing =>
      rw [found] at gathered
      rw [NameMap.get?_insert, if_pos rfl]
      exact .added gathered
  · rw [if_neg same]
    split <;> rwa [NameMap.get?_insert, if_neg same]

def schemasNamed (name : String) (ps : List Members) : List Json :=
  ps.filterMap fun p => NameMap.get? (ValueType.declaredProperties p) name

theorem properties_gathers {ps : List Members} (ordered : ∀ p ∈ ps, Members.Ordered p) (name : String) :
    Gathers (NameMap.get? (properties ps) name) (schemasNamed name ps) := by
  have folded (ms : Members) {acc : Members} {vs : List Json} (sorted : NameMap.Sorted ms)
      (gathered : Gathers (NameMap.get? acc name) vs) :
      Gathers (NameMap.get? (ms.foldl addProperty acc) name) (vs ++ (NameMap.get? ms name).toList) := by
    induction ms generalizing acc vs with
    | nil => simpa using gathered
    | cons m ms ih =>
      obtain ⟨above, sorted⟩ := List.pairwise_cons.mp sorted
      have := ih sorted (gathered.addProperty m)
      rw [NameMap.get?_cons]
      by_cases same : name = m.1
      · have absent : NameMap.get? ms name = none :=
          NameMap.get?_eq_none_iff.mpr fun e member named => String.lt_irrefl m.1 (by
            have := above e member; rwa [← named, same] at this)
        subst same; simpa [absent] using this
      · simpa [same] using this
  have merged (acc : Members) (vs : List Json) (gathered : Gathers (NameMap.get? acc name) vs) :
      Gathers (NameMap.get? (ps.foldl (fun acc p => (ValueType.declaredProperties p).foldl addProperty acc) acc) name)
        (vs ++ schemasNamed name ps) := by
    induction ps generalizing acc vs with
    | nil => simpa [schemasNamed] using gathered
    | cons p ps ih =>
      obtain ⟨first, rest⟩ := List.forall_mem_cons.mp ordered
      have := ih rest _ _ (folded _ (ValueType.declaredProperties_ordered first).sorted gathered)
      rw [List.foldl_cons]
      convert this using 1
      cases found : NameMap.get? (ValueType.declaredProperties p) name <;> simp [schemasNamed, found]
  exact merged [] [] rfl

theorem itemsMember_gathers (vs : List Json) : Gathers ((itemsMember vs).head?.map Prod.snd) vs := by
  match vs with
  | [] => exact rfl
  | [v] => exact .alone v
  | v :: w :: rest => exact .listed (Nat.le_add_left 2 rest.length)

section
variable {fuel : Nat}

theorem parts_plain {p : Members} (plain : ∀ name ∈ Keyword.compositions, NameMap.get? p name = none) :
    parts (fuel + 1) (.object p) = .ok [p] := by
  obtain ⟨noAllOf, noAnyOf, noOneOf⟩ : NameMap.get? p "allOf" = none ∧ NameMap.get? p "anyOf" = none ∧
      NameMap.get? p "oneOf" = none := ⟨plain _ (by decide), plain _ (by decide), plain _ (by decide)⟩
  have own : ownPart p = p := by
    refine List.filter_eq_self.mpr fun m member => ?_
    have other (name : String) (absent : NameMap.get? p name = none) : m.1 ≠ name :=
      Ne.symm (NameMap.get?_eq_none_iff.mp absent m member)
    simp [other _ noAllOf, other _ noAnyOf, other _ noOneOf]
  rw [parts_object, own]
  simp [variantParts, chosenVariant?, parts.variant?, Keyword.elements, listedParts, noAllOf, noAnyOf, noOneOf]

theorem parts_allOf {us : List Json} {qss : List (List Members)} (each : us.mapM (parts fuel) = .ok qss) :
    parts (fuel + 1) (.object [("allOf", .array us)]) = .ok ([] :: qss.flatten) := by
  have listed : listedParts fuel [("allOf", .array us)] = .ok qss := by
    simpa [listedParts, NameMap.get?_cons] using each
  rw [parts_object, listed]
  simp [variantParts, chosenVariant?, parts.variant?, Keyword.elements, NameMap.get?_cons, ownPart]

def telling (qs : List Members) : List Members := qs.filter fun q => !q.isEmpty

theorem filterMap_telling {α : Type} (f : Members → Option α) (silent : f [] = none) (qs : List Members) :
    (telling qs).filterMap f = qs.filterMap f := by
  rw [telling, List.filterMap_filter]
  refine List.filterMap_congr fun q _ => ?_
  cases q with
  | nil => exact silent.symm
  | cons m rest => rfl

theorem mem_telling_iff {qs : List Members} {p : Members} : p ∈ telling qs ↔ p ∈ qs ∧ p ≠ [] := by
  simp [telling]

-- A schema that gives keywords and composes nothing.
def Plain (p : Members) : Prop := p ≠ [] ∧ ∀ name ∈ Keyword.compositions, NameMap.get? p name = none

theorem telling_plain {ps : List Members} (plain : ∀ p ∈ ps, Plain p) : telling ps = ps :=
  List.filter_eq_self.mpr fun p member => by simpa using (plain p member).1

theorem exists_parts_of_allOf {ps : List Members} (plain : ∀ p ∈ ps, Plain p) :
    ∃ qs, parts (fuel + 2) (.object [("allOf", .array (ps.map .object))]) = .ok qs ∧ telling qs = ps := by
  have each : (ps.map Json.object).mapM (parts (fuel + 1)) = .ok (ps.map fun p => [p]) := by
    rw [mapM_eq_ok_iff, List.forall₂_map_left_iff, List.forall₂_map_right_iff, List.forall₂_same]
    exact fun p member => parts_plain (plain p member).2
  refine ⟨_, parts_allOf each, ?_⟩
  rw [← List.flatMap_def, List.flatMap_singleton']
  exact telling_plain plain

theorem exists_parts_of_joins {v : Json} {vs : List Json} (joins : Joins v vs) {ps : List Members}
    (leaves : ps.map Json.object = vs) (plain : ∀ p ∈ ps, Plain p) (deep : v.depth < fuel) :
    ∃ qs, parts fuel v = .ok qs ∧ telling qs = ps := by
  induction joins generalizing ps fuel with
  | alone v =>
    obtain ⟨p, rfl, rfl⟩ := List.map_eq_singleton_iff.mp leaves
    obtain ⟨k, rfl⟩ : ∃ k, fuel = k + 1 := ⟨fuel - 1, by omega⟩
    exact ⟨[p], parts_plain (plain p List.mem_cons_self).2, telling_plain plain⟩
  | listed two =>
    subst leaves
    obtain ⟨k, rfl⟩ : ∃ k, fuel = k + 2 := ⟨fuel - 2, by simp only [Json.depth, Json.depthMembers] at deep; omega⟩
    exact exists_parts_of_allOf plain
  | @added v w vs _ ih =>
    obtain ⟨first, last, rfl, rfl, single⟩ := List.map_eq_append_iff.mp leaves
    obtain ⟨p, rfl, rfl⟩ := List.map_eq_singleton_iff.mp single
    obtain ⟨plain, plain'⟩ := List.forall_mem_append.mp plain
    obtain ⟨k, rfl⟩ : ∃ k, fuel = k + 2 := ⟨fuel - 2, by simp only [Json.depth, Json.depthMembers] at deep; omega⟩
    have within : v.depth < k + 1 := by
      simp only [Json.depth, Json.depthMembers, Json.depthList] at deep
      omega
    obtain ⟨qs, gathered, rfl⟩ := ih rfl plain within
    have each : [v, .object p].mapM (parts (k + 1)) = .ok [qs, [p]] := by
      simp [gathered, parts_plain (plain' p List.mem_cons_self).2]
    refine ⟨_, parts_allOf each, ?_⟩
    change telling (qs ++ [p]) = telling qs ++ [p]
    rw [telling, List.filter_append, ← telling, ← telling, telling_plain plain']

end

end Merge

end SchemaProbe
