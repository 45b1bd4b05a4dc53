import SchemaProbe.Proofs.ValueType.Merge
import SchemaProbe.ValueType.OfSchema

set_option autoImplicit false

namespace SchemaProbe

namespace Merge

def combinedPairs (type : Option String) (step : Option Binary64) (ps : List Members) : NameMap (Option Json) :=
  [("type", type.map .string),
    ("properties", if (properties ps).isEmpty then none else some (.object (properties ps))),
    ("required", if (required ps).isEmpty then none else some (.array (required ps))),
    ("enum", (choices ps).map .array),
    ("minimum", (lower ps).map fun b => .number (.float b.1)),
    ("exclusiveMinimum", (lower ps).map fun b => .bool b.2),
    ("maximum", (upper ps).map fun b => .number (.float b.1)),
    ("exclusiveMaximum", (upper ps).map fun b => .bool b.2),
    ("multipleOf", step.map .ofBinary64),
    ("items", (itemsMember (items ps)).head?.map Prod.snd),
    ("pattern", (patterns ps).head?.map .string),
    ("uniqueItems", if ps.any fun ms => Keyword.flag ms "uniqueItems" then some (.bool true) else none),
    ("minLength", (size? "minLength" max ps).map .ofNat),
    ("maxLength", (size? "maxLength" min ps).map .ofNat),
    ("minItems", (size? "minItems" max ps).map .ofNat),
    ("maxItems", (size? "maxItems" min ps).map .ofNat)]

theorem combinedMembers_eq (type : Option String) (step : Option Binary64) (ps : List Members) :
    combinedMembers type step ps = NameMap.given (combinedPairs type step ps) := by
  have bound (inclusive exclusive : String) (b : Option (Binary64 × Bool)) : boundMembers inclusive exclusive b =
      ((b.map fun b => Json.number (.float b.1)).map (Prod.mk inclusive)).toList ++
        ((b.map fun b => Json.bool b.2).map (Prod.mk exclusive)).toList := by
    cases b <;> rfl
  have size (key : String) (n : Option Nat) : sizeMember key n = ((n.map Json.ofNat).map (Prod.mk key)).toList := by
    cases n <;> rfl
  have item (vs : List Json) :
      itemsMember vs = (((itemsMember vs).head?.map Prod.snd).map (Prod.mk "items")).toList := by
    unfold itemsMember
    split <;> rfl
  unfold combinedMembers
  rw [item, bound, bound]
  simp only [combinedPairs, NameMap.given_cons, size, List.append_assoc]
  refine congrArg₂ _ ?_ <| congrArg₂ _ ?_ <| congrArg₂ _ ?_ <| congrArg₂ _ ?_ <| congrArg _ <| congrArg _ <|
    congrArg _ <| congrArg _ <| congrArg₂ _ ?_ <| congrArg _ <| congrArg₂ _ ?_ <| congrArg₂ _ ?_ ?_
  · cases type <;> rfl
  · split <;> rfl
  · split <;> rfl
  · cases choices ps <;> rfl
  · cases step <;> rfl
  · cases patterns ps <;> rfl
  · split <;> rfl
  · simp [NameMap.given]

theorem not_mem_combined_of_mem_others {ps : List Members} : ∀ m ∈ others ps, m.1 ∉ combined := by
  refine List.foldlRecOn (motive := fun acc : Members => ∀ m ∈ acc, m.1 ∉ combined) ps _ (by simp) ?_
  intro acc before ms _
  refine List.foldlRecOn (motive := fun acc : Members => ∀ m ∈ acc, m.1 ∉ combined) ms _ before ?_
  intro acc before m _
  split
  · exact before
  next fresh =>
    intro e member
    rcases NameMap.mem_insert member with rfl | old
    · simp_all
    · exact before e old

theorem get?_merge {ps : List Members} {ms : Members} {further : List String} (merged : merge ps = .ok (ms, further)) :
    ∃ type step, typeAndStep ps = .ok (type, step) ∧ further = (patterns ps).drop 1 ∧
      ∀ name ∈ combined, NameMap.get? ms name = (NameMap.get? (combinedPairs type step ps) name).join := by
  obtain ⟨type, step, typed, patterns, rfl⟩ := merge_eq_ok merged
  refine ⟨type, step, typed, patterns, fun name keyword => ?_⟩
  have other : NameMap.get? (others ps) name = none :=
    NameMap.get?_eq_none_iff.mpr fun m member named => not_mem_combined_of_mem_others m member (named ▸ keyword)
  have distinct : (NameMap.names (combinedPairs type step ps)).Nodup := by
    simp [combinedPairs, NameMap.names]
  have once := distinct.sublist (NameMap.names_given_sublist _)
  rw [NameMap.get?_foldl_insert, other, Option.or_none, combinedMembers_eq, NameMap.lastWhere?_eq_get? once,
    NameMap.get?_given distinct]

theorem get?_items_merge {ps : List Members} {ms : Members} {further : List String}
    (merged : merge ps = .ok (ms, further)) : NameMap.get? ms "items" = (itemsMember (items ps)).head?.map Prod.snd := by
  obtain ⟨type, step, -, -, at?⟩ := get?_merge merged
  exact at? "items" (by decide)

theorem declaredProperties_merge {ps : List Members} {ms : Members} {further : List String}
    (merged : merge ps = .ok (ms, further)) : ValueType.declaredProperties ms = properties ps := by
  obtain ⟨type, step, -, -, at?⟩ := get?_merge merged
  rw [ValueType.declaredProperties, at? "properties" (by decide)]
  cases empty : properties ps <;> simp [combinedPairs, NameMap.get?_cons, empty, Json.object?]

theorem required_merge {ps : List Members} {ms : Members} {further : List String}
    (merged : merge ps = .ok (ms, further)) : Keyword.elements ms "required" = required ps := by
  obtain ⟨type, step, -, -, at?⟩ := get?_merge merged
  rw [Keyword.elements, at? "required" (by decide)]
  cases empty : required ps <;> simp [combinedPairs, NameMap.get?_cons, empty, Json.array?]

theorem keyword_size?_merge {ps : List Members} {ms : Members} {further : List String}
    (merged : merge ps = .ok (ms, further)) :
    (∀ name ∈ ["minLength", "minItems"], Keyword.size? ms name = size? name max ps) ∧
      ∀ name ∈ ["maxLength", "maxItems"], Keyword.size? ms name = size? name min ps := by
  obtain ⟨type, step, -, -, at?⟩ := get?_merge merged
  have read (n : Option Nat) : (n.map Json.ofNat).bind Json.nat? = n := by
    cases n <;> simp [Json.ofNat, Json.nat?, Json.number?, Number.toNat?]
  simp only [List.forall_mem_cons, List.not_mem_nil, false_imp_iff, implies_true, and_true]
  refine ⟨⟨?_, ?_⟩, ?_, ?_⟩
  all_goals
    rw [Keyword.size?, at? _ (by decide)]
    exact read _

-- One part more.
def joinType (r : Option String × Option Binary64) (p : Members) :
    Except TypeFault (Option String × Option Binary64) := do
  let type ← match declaredType? p with
    | some t => some <$> combineTypes r.1 t
    | none => .ok r.1
  let step ← match positiveStep? p with
    | some m => some <$> combineSteps r.2 m
    | none => .ok r.2
  .ok (type, step)

theorem type_of_joinType {type : String} {r r' : Option String × Option Binary64} {p : Members}
    (before : r.1 = none ∨ r.1 = some type) (same : declaredType? p = none ∨ declaredType? p = some type)
    (done : joinType r p = .ok r') : r'.1 = (declaredType? p).or r.1 := by
  have combined : combineTypes r.1 type = .ok type := by
    rcases before with h | h <;> simp [h, combineTypes]
  unfold joinType at done
  rcases same with h | h <;> cases stepped : positiveStep? p <;> simp [h, stepped, combined] at done ⊢ <;> grind

theorem typeAndStep_type {type : String} {ps : List Members} {r : Option String × Option Binary64}
    (same : ∀ p ∈ ps, declaredType? p = none ∨ declaredType? p = some type)
    (given : ∃ p ∈ ps, declaredType? p = some type) (done : typeAndStep ps = .ok r) : r.1 = some type := by
  have folded (acc : Option String × Option Binary64) (before : acc.1 = none ∨ acc.1 = some type)
      (typed : acc.1 = some type ∨ ∃ p ∈ ps, declaredType? p = some type) (further : ps.foldlM joinType acc = .ok r) :
      r.1 = some type := by
    clear given done
    induction ps generalizing acc with
    | nil =>
      cases further
      simpa using typed
    | cons p ps ih =>
      obtain ⟨first, rest⟩ := List.forall_mem_cons.mp same
      rw [List.foldlM_cons] at further
      obtain ⟨next, step, further⟩ := bind_eq_ok_iff.mp further
      have now := type_of_joinType before first step
      refine ih rest next ?_ ?_ further
      · rcases first with h | h <;> simp [now, h, before]
      · rcases typed with here | ⟨q, member, is⟩
        · rcases first with h | h <;> simp [now, h, here]
        · rcases List.mem_cons.mp member with rfl | later
          · simp [now, is]
          · exact .inr ⟨q, later, is⟩
  exact folded (none, none) (.inl rfl) (.inr given) done

theorem size?_reaches {name : String} {pick : Nat → Nat → Nat} (tighter : Nat → Nat → Prop)
    (keeps : ∀ {a b n}, tighter a n ∨ tighter b n → tighter (pick a b) n) (refl : ∀ n, tighter n n)
    {ps : List Members} {p : Members} (member : p ∈ ps) {n : Nat} (given : Keyword.size? p name = some n) :
    ∃ m, size? name pick ps = some m ∧ tighter m n := by
  obtain ⟨before, after, rfl⟩ := List.append_of_mem member
  rw [size?, List.foldl_append, List.foldl_cons]
  -- The part itself reaches the bound, and no later part loosens it.
  refine List.foldlRecOn (motive := fun acc => ∃ m, acc = some m ∧ tighter m n) after _ ?_ fun acc reached q _ => ?_
  · rw [given]
    generalize before.foldl _ none = acc
    cases acc with
    | none => exact ⟨n, rfl, refl n⟩
    | some cur => exact ⟨_, rfl, keeps (.inr (refl n))⟩
  · obtain ⟨m, rfl, reached⟩ := reached
    cases Keyword.size? q name with
    | none => exact ⟨m, rfl, reached⟩
    | some k => exact ⟨_, rfl, keeps (.inl reached)⟩

theorem mem_patterns {ps : List Members} {p : Members} (member : p ∈ ps) {source : String}
    (given : Keyword.text? p "pattern" = some source) : source ∈ patterns ps :=
  mem_foldl_distinct (fun _ => List.contains_iff_mem.mp) (.inr (List.mem_filterMap.mpr ⟨p, member, given⟩))

theorem choices_eq_none {ps : List Members} (unlisted : ∀ p ∈ ps, NameMap.get? p "enum" = none) : choices ps = none := by
  refine List.foldlRecOn (motive := (· = none)) ps _ rfl fun acc before p member => ?_
  simp [unlisted p member, before]

end Merge

end SchemaProbe
