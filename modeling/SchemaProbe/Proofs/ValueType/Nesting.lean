import SchemaProbe.Proofs.ValueType.Build
import SchemaProbe.Proofs.ValueType.Combined

set_option autoImplicit false

namespace SchemaProbe

-- A schema whose descent through `items` and `properties` takes fewer steps than a bound; composition takes none.
inductive NestsBelow : Nat → Json → Prop where
  | other {n : Nat} {v : Json} (scalar : v.isObject = false) : NestsBelow (n + 1) v
  | object {n : Nat} {ms : Members} (inner : ∀ v, Keyword.Inner ms v → NestsBelow n v)
      (composed : ∀ name ∈ Keyword.compositions, ∀ v ∈ Keyword.elements ms name, NestsBelow (n + 1) v) :
      NestsBelow (n + 1) (.object ms)

-- What the building of a type from keywords asks of the bound.
def InnerBelow (n : Nat) (ms : Members) : Prop := ∀ v, Keyword.Inner ms v → NestsBelow n v

theorem InnerBelow.nil (n : Nat) : InnerBelow n [] := by
  rintro v (found | member)
  · cases found
  · simp [ValueType.declaredProperties] at member

theorem Keyword.Inner.depth_lt {ms : Members} {v : Json} (inner : Inner ms v) : v.depth < (Json.object ms).depth := by
  cases inner with
  | items found => exact (Json.Child.member (NameMap.mem_of_get? found)).depth_lt
  | property member =>
    unfold ValueType.declaredProperties at member
    cases found : (NameMap.get? ms "properties").bind Json.object? with
    | none => simp [found] at member
    | some props =>
      rw [found] at member
      obtain ⟨w, here, isObject⟩ := Option.bind_eq_some_iff.mp found
      cases w <;> cases isObject
      exact Nat.lt_trans (Json.Child.member member).depth_lt (Json.Child.member (NameMap.mem_of_get? here)).depth_lt

namespace NestsBelow

theorem inner {n : Nat} {ms : Members} (below : NestsBelow (n + 1) (.object ms)) : InnerBelow n ms := by
  cases below with
  | other scalar => cases scalar
  | object inner _ => exact inner

theorem composed {n : Nat} {ms : Members} (below : NestsBelow (n + 1) (.object ms)) :
    ∀ name ∈ Keyword.compositions, ∀ v ∈ Keyword.elements ms name, NestsBelow (n + 1) v := by
  cases below with
  | other scalar => cases scalar
  | object _ composed => exact composed

theorem exists_succ {n : Nat} {v : Json} (below : NestsBelow n v) : ∃ k, n = k + 1 := by
  cases below <;> exact ⟨_, rfl⟩

theorem of_depth {n : Nat} {v : Json} (deep : v.depth < n) : NestsBelow n v := by
  -- By the depth, as both an inner schema and a part of the composition are less deep.
  obtain ⟨d, same⟩ : ∃ d, v.depth = d := ⟨_, rfl⟩
  induction d using Nat.strongRecOn generalizing n v with
  | _ d ih =>
    obtain ⟨n, rfl⟩ : ∃ k, n = k + 1 := ⟨n - 1, by omega⟩
    cases v with
    | object ms =>
      refine .object (fun w inner => ?_) fun name _ w member => ?_
      · have less := inner.depth_lt
        exact ih w.depth (by omega) (by omega) rfl
      · have less := Keyword.depth_lt_of_mem_elements member
        exact ih w.depth (by omega) (by omega) rfl
    | _ => exact .other rfl

theorem allOf {n : Nat} (vs : List Json) (some : vs ≠ []) (each : ∀ v ∈ vs, NestsBelow n v) :
    NestsBelow n (.object [("allOf", .array vs)]) := by
  obtain ⟨v, member⟩ := List.exists_mem_of_ne_nil vs some
  obtain ⟨k, rfl⟩ := (each v member).exists_succ
  refine .object ?_ ?_
  · rintro v (found | member)
    · simp [NameMap.get?_cons] at found
    · simp [ValueType.declaredProperties, NameMap.get?_cons] at member
  · intro name composition v member
    by_cases same : name = "allOf"
    · exact each v (by simpa [Keyword.elements, NameMap.get?_cons, same, Json.array?] using member)
    · simp [Keyword.elements, NameMap.get?_cons, same] at member

end NestsBelow

namespace Merge

section
variable {n : Nat}

theorem get?_ownPart (ms : Members) {name : String} (keyword : name ∉ Keyword.compositions) :
    NameMap.get? (ownPart ms) name = NameMap.get? ms name := by
  rw [ownPart, NameMap.get?_filter ms name fun k => k != "allOf" && k != "anyOf" && k != "oneOf", if_pos]
  simpa [Keyword.compositions, and_assoc] using keyword

theorem ownPart_innerBelow {ms : Members} (inner : InnerBelow n ms) : InnerBelow n (ownPart ms) := by
  rintro v (found | member)
  · exact inner v (.items (by rwa [get?_ownPart ms (by decide)] at found))
  · rw [ValueType.declaredProperties, get?_ownPart ms (by decide)] at member
    exact inner _ (.property member)

theorem properties_below {ps : List Members} (each : ∀ p ∈ ps, InnerBelow n p) :
    ∀ m ∈ properties ps, NestsBelow n m.2 :=
  properties_forall NestsBelow.allOf fun p within _ member => each p within _ (.property member)

theorem itemsMember_below {ps : List Members} (each : ∀ p ∈ ps, InnerBelow n p) :
    ∀ m ∈ itemsMember (items ps), NestsBelow n m.2 := by
  refine itemsMember_forall NestsBelow.allOf fun v member => ?_
  obtain ⟨p, within, found⟩ := List.mem_filterMap.mp member
  exact each p within v (.items found)

theorem merge_innerBelow {ps : List Members} (each : ∀ p ∈ ps, InnerBelow n p) {ms : Members} {further : List String}
    (merged : merge ps = .ok (ms, further)) : InnerBelow n ms := by
  rintro v (found | member)
  · rw [get?_items_merge merged] at found
    obtain ⟨m, first, rfl⟩ := Option.map_eq_some_iff.mp found
    exact itemsMember_below each m (List.mem_of_mem_head? first)
  · rw [declaredProperties_merge merged] at member
    exact properties_below each _ member

end

end Merge

theorem Resolved.ofSchema_innerBelow {n : Nat} (fuel : Nat) {v : Json} {r : Resolved} (below : NestsBelow (n + 1) v)
    (resolved : ofSchema fuel v = .ok r) : InnerBelow n r.keywords :=
  ofSchema_forall (.nil n) (fun _ => NestsBelow.inner) (fun _ => NestsBelow.composed) (fun _ => Merge.ownPart_innerBelow)
    (fun _ each _ _ => Merge.merge_innerBelow each) fuel below resolved

namespace ValueType

theorem build_congr {n m : Nat} {v : Json} (below : NestsBelow n v) (below' : NestsBelow m v) :
    build n v = build m v := by
  induction n generalizing m v with
  | zero => cases below
  | succ n ih =>
    obtain ⟨m, rfl⟩ := below'.exists_succ
    rw [build_succ, build_succ]
    cases resolved : Resolved.resolve v with
    | error fault => rfl
    | ok r =>
      have inside : InnerBelow n r.keywords := Resolved.ofSchema_innerBelow _ below resolved
      have inside' : InnerBelow m r.keywords := Resolved.ofSchema_innerBelow _ below' resolved
      exact ofKeywords_congr fun w inner => ih (inside w inner) (inside' w inner)

theorem ofSchema_eq (v : Json) : ofSchema v = Resolved.resolve v >>= ofKeywords ofSchema := by
  rw [ofSchema, build_succ]
  cases resolved : Resolved.resolve v with
  | error fault => rfl
  | ok r =>
    have deep {w : Json} : NestsBelow (w.depth + 1) w := .of_depth (Nat.lt_succ_self _)
    have same (w : Json) (inner : Keyword.Inner r.keywords w) : build v.depth w = ofSchema w :=
      build_congr (Resolved.ofSchema_innerBelow _ deep resolved w inner) deep
    exact ofKeywords_congr same

end ValueType

end SchemaProbe
