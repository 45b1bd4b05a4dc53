import SchemaProbe.Proofs.ValueType.Joins

set_option autoImplicit false

namespace SchemaProbe

namespace ValueType

def joinedTypes : List String := ["string", "array", "object"]

def joinedKeywords : List String :=
  ["type", "minLength", "maxLength", "pattern", "minItems", "maxItems", "uniqueItems", "items", "properties",
    "required"]

-- A schema of one type that asks for lengths, sizes, patterns, items and properties alone.
structure OfType (type : String) (p : Members) : Prop where
  kind : type ∈ joinedTypes
  named : Merge.declaredType? p = some type
  keywords : ∀ m ∈ p, m.1 ∈ joinedKeywords

instance (type : String) (p : Members) : Decidable (OfType type p) :=
  decidable_of_iff (type ∈ joinedTypes ∧ Merge.declaredType? p = some type ∧ ∀ m ∈ p, m.1 ∈ joinedKeywords)
    ⟨fun ⟨kind, named, keywords⟩ => ⟨kind, named, keywords⟩, fun form => ⟨form.kind, form.named, form.keywords⟩⟩

-- Schemas of one type; and where both give items, or a property of one name, so are the schemas that they give.
inductive Alike : Json → Json → Prop where
  | ofType (type : String) {p q : Members} (first : OfType type p) (second : OfType type q)
      (items : ∀ v w, NameMap.get? p "items" = some v → NameMap.get? q "items" = some w → Alike v w)
      (properties : ∀ name v w, NameMap.get? (declaredProperties p) name = some v →
        NameMap.get? (declaredProperties q) name = some w → Alike v w) : Alike (.object p) (.object q)

namespace Alike

variable {p q : Members} (alike : Alike (.object p) (.object q)) {v w : Json}
include alike

theorem items (first : NameMap.get? p "items" = some v) (second : NameMap.get? q "items" = some w) : Alike v w := by
  cases alike with
  | ofType _ _ _ items _ => exact items v w first second

theorem property {name : String} (first : NameMap.get? (declaredProperties p) name = some v)
    (second : NameMap.get? (declaredProperties q) name = some w) : Alike v w := by
  cases alike with
  | ofType _ _ _ _ properties => exact properties name v w first second

end Alike

namespace OfType

variable {type : String} {p : Members} (form : OfType type p)
include form

theorem get?_eq_none {name : String} (foreign : name ∉ joinedKeywords) : NameMap.get? p name = none :=
  NameMap.get?_eq_none_iff.mpr fun m member named => foreign (named ▸ form.keywords m member)

theorem plain : Merge.Plain p := by
  constructor
  · rintro rfl
    exact absurd form.named (by simp [Merge.declaredType?])
  · have foreign : ∀ name ∈ Keyword.compositions, name ∉ joinedKeywords := by decide
    exact fun name member => form.get?_eq_none (foreign name member)

theorem declaredName_eq : ∃ n, declaredName p = .ok (some type, n) := by
  have named := form.named
  unfold Merge.declaredType? at named
  unfold declaredName
  split at named
  next t found =>
    split at named
    · cases named
    · cases named
      rw [found]
      exact ⟨false, rfl⟩
  next ts found =>
    rw [found]
    dsimp only
    rw [named]
    exact ⟨_, rfl⟩
  next => cases named

theorem ofSchema_eq : ∃ n, ofSchema (.object p) = ofName ofSchema p [] n (some type) := by
  obtain ⟨n, declared⟩ := form.declaredName_eq
  have noAllOf : NameMap.contains p "allOf" = false := by
    simp [NameMap.contains_eq_isSome, form.get?_eq_none (by decide : "allOf" ∉ joinedKeywords)]
  have single : Resolved.variantList? p = none := by
    simp [Resolved.variantList?, form.get?_eq_none (by decide : "anyOf" ∉ joinedKeywords),
      form.get?_eq_none (by decide : "oneOf" ∉ joinedKeywords)]
  rw [ValueType.ofSchema_eq, Resolved.resolve_plain noAllOf single]
  simp only [bind, Except.bind, ofKeywords, declared]
  exact ⟨_, rfl⟩

end OfType

end ValueType

namespace Merge

-- What a merged schema keeps of the parts: of each of them every length, size, pattern and required name, and of all
-- together the items and the properties.
structure Keeps (type : String) (ps : List Members) (ms : Members) (further : List String) : Prop where
  named : NameMap.get? ms "type" = some (.string type)
  unlisted : NameMap.get? ms "enum" = none
  patterns : ∀ p ∈ ps, ∀ source, Keyword.text? p "pattern" = some source →
    source ∈ (Keyword.text? ms "pattern").toList ++ further
  least : ∀ name ∈ ["minLength", "minItems"], ∀ p ∈ ps, ∀ n, Keyword.size? p name = some n →
    ∃ m, Keyword.size? ms name = some m ∧ n ≤ m
  most : ∀ name ∈ ["maxLength", "maxItems"], ∀ p ∈ ps, ∀ n, Keyword.size? p name = some n →
    ∃ m, Keyword.size? ms name = some m ∧ m ≤ n
  unique : ∀ p ∈ ps, Keyword.flag p "uniqueItems" = true → Keyword.flag ms "uniqueItems" = true
  required : ∀ p ∈ ps, ∀ name ∈ ValueType.requiredNames p, name ∈ ValueType.requiredNames ms
  items : Gathers (NameMap.get? ms "items") (items ps)
  properties : ∀ name, Gathers (NameMap.get? (ValueType.declaredProperties ms) name) (schemasNamed name ps)

theorem keeps_of_merge {type : String} {qs : List Members} (form : ∀ p ∈ telling qs, ValueType.OfType type p)
    (ordered : ∀ p ∈ telling qs, Members.Ordered p) (given : telling qs ≠ []) {ms : Members} {further : List String}
    (merged : merge qs = .ok (ms, further)) : Keeps type (telling qs) ms further := by
  obtain ⟨found, step, typed, rfl, at?⟩ := get?_merge merged
  have within {p : Members} (member : p ∈ telling qs) : p ∈ qs := (mem_telling_iff.mp member).1
  have tells {q : Members} (member : q ∈ qs) : q = [] ∨ q ∈ telling qs := by
    by_cases silent : q = []
    · exact .inl silent
    · exact .inr (mem_telling_iff.mpr ⟨member, silent⟩)
  constructor
  case named =>
    obtain ⟨p, member⟩ := List.exists_mem_of_ne_nil _ given
    have same : (found, step).1 = some type := typeAndStep_type (fun q member => by
      rcases tells member with rfl | tells
      · exact .inl rfl
      · exact .inr (form q tells).named) ⟨p, within member, (form p member).named⟩ typed
    rw [at? "type" (by decide), show found = some type from same]
    rfl
  case unlisted =>
    have none : choices qs = none := choices_eq_none fun q member => by
      rcases tells member with rfl | tells
      · rfl
      · exact (form q tells).get?_eq_none (by decide)
    rw [at? "enum" (by decide)]
    simp [combinedPairs, NameMap.get?_cons, none]
  case patterns =>
    intro p member source gives
    have here := mem_patterns (within member) gives
    have first : Keyword.text? ms "pattern" = (patterns qs).head? := by
      rw [Keyword.text?, at? "pattern" (by decide)]
      cases h : patterns qs <;> simp [combinedPairs, NameMap.get?_cons, h, Json.string?]
    rw [first]
    cases h : patterns qs with
    | nil => simp [h] at here
    | cons => simpa [h] using here
  case least =>
    intro name keyword p member n gives
    rw [(keyword_size?_merge merged).1 name keyword]
    exact size?_reaches (· ≥ ·) (by omega) Nat.le_refl (within member) gives
  case most =>
    intro name keyword p member n gives
    rw [(keyword_size?_merge merged).2 name keyword]
    exact size?_reaches (· ≤ ·) (by omega) Nat.le_refl (within member) gives
  case unique =>
    intro p member marked
    have some : qs.any (fun p => Keyword.flag p "uniqueItems") = true := List.any_eq_true.mpr ⟨p, within member, marked⟩
    rw [Keyword.flag, at? "uniqueItems" (by decide)]
    simp [combinedPairs, NameMap.get?_cons, some, Json.bool?]
  case required =>
    intro p member name listed
    exact (requiredNames_unites.merged merged name).mpr ⟨p, within member, listed⟩
  case items =>
    have same : items (telling qs) = items qs := filterMap_telling _ rfl qs
    rw [get?_items_merge merged, same]
    exact itemsMember_gathers _
  case properties =>
    intro name
    have same : schemasNamed name (telling qs) = schemasNamed name qs := filterMap_telling _ rfl qs
    rw [declaredProperties_merge merged, same]
    refine properties_gathers (fun q member => ?_) name
    rcases tells member with rfl | tells
    · exact .nil
    · exact ordered q tells

end Merge

namespace ValueType

def Within (t s : ValueType) : Prop := ∀ v, t.accepts v = true → s.accepts v = true

section
variable {a b : Option Nat} {size : Nat}

theorem all_le_of_least (least : ∀ n, a = some n → ∃ m, b = some m ∧ n ≤ m) (met : b.all (· ≤ size) = true) :
    a.all (· ≤ size) = true := by
  cases a with
  | none => rfl
  | some n =>
    obtain ⟨m, rfl, tighter⟩ := least n rfl
    exact decide_eq_true (Nat.le_trans tighter (of_decide_eq_true met))

theorem all_ge_of_most (most : ∀ n, a = some n → ∃ m, b = some m ∧ m ≤ n) (met : b.all (size ≤ ·) = true) :
    a.all (size ≤ ·) = true := by
  cases a with
  | none => rfl
  | some n =>
    obtain ⟨m, rfl, tighter⟩ := most n rfl
    exact decide_eq_true (Nat.le_trans (of_decide_eq_true met) tighter)

theorem getD_le_iff : b.getD 0 ≤ size ↔ b.all (· ≤ size) = true := by
  cases b <;> simp

end

def Narrowed (v : Json) (vs : List Json) : Prop := ∀ t, ofSchema v = .ok t →
  ∀ w ∈ vs, ∃ s, ofSchema w = .ok s ∧ t.Within s

section
variable {type : String} {ps : List Members} {ms : Members} {further : List String}
  (keeps : Merge.Keeps type ps ms further) {p : Members} (member : p ∈ ps)
include keeps member

theorem textRule_kept (form : OfType type p) {r : TextRule} (merged : textRule ms further = .ok r) :
    ∃ s, textRule p [] = .ok s ∧ ∀ x, r.accepts x = true → s.accepts x = true := by
  have plain {ms : Members} (unlisted : NameMap.get? ms "enum" = none) :
      choicesOf Json.string? .noTextChoice ms = .ok none := by
    simp [choicesOf, choices?, unlisted]
  rw [textRule, plain keeps.unlisted] at merged
  cases merged
  rw [textRule, plain (form.get?_eq_none (by decide))]
  refine ⟨_, rfl, fun x accepted => ?_⟩
  have free : Keyword.text? p "format" = none := by rw [Keyword.text?, form.get?_eq_none (by decide)]; rfl
  simp only [TextRule.accepts, Bool.and_eq_true] at accepted ⊢
  obtain ⟨⟨⟨least, most⟩, patterns⟩, -⟩ := accepted
  refine ⟨⟨⟨?_, ?_⟩, ?_⟩, by simp [free]⟩
  · exact all_le_of_least (keeps.least _ (by decide) p member) least
  · exact all_ge_of_most (keeps.most _ (by decide) p member) most
  · have matched : ∀ source ∈ (Keyword.text? ms "pattern").toList ++ further,
        (TextPattern.ofSource source).accepts x = true := by
      simpa [or_imp, forall_and] using patterns
    cases given : Keyword.text? p "pattern" with
    | none => rfl
    | some source => simpa using matched source (keeps.patterns p member source given)

theorem arrayRule_kept {xs : List Json} (accepted : (arrayRule ms).accepts xs = true) :
    (arrayRule p).accepts xs = true := by
  simp only [ArrayRule.accepts, arrayRule, Bool.and_eq_true, decide_eq_true_eq, getD_le_iff] at accepted ⊢
  obtain ⟨⟨least, most⟩, unique⟩ := accepted
  refine ⟨⟨?_, ?_⟩, ?_⟩
  · exact all_le_of_least (keeps.least _ (by decide) p member) least
  · exact all_ge_of_most (keeps.most _ (by decide) p member) most
  · cases marked : Keyword.flag p "uniqueItems" with
    | false => rfl
    | true => simpa [keeps.unique p member marked] using unique

theorem itemsType_kept (inner : ∀ v, Merge.Joins v (Merge.items ps) → Narrowed v (Merge.items ps))
    {t : ValueType} (built : itemsType ofSchema ms = .ok t) :
    ∃ s, itemsType ofSchema p = .ok s ∧ t.Within s := by
  unfold itemsType
  cases given : NameMap.get? p "items" with
  | none => exact ⟨any false, rfl, fun v _ => by simp [accepts]⟩
  | some w =>
    have here : w ∈ Merge.items ps := List.mem_filterMap.mpr ⟨p, member, given⟩
    have gathered := keeps.items
    unfold itemsType at built
    cases found : NameMap.get? ms "items" with
    | none =>
      rw [found] at gathered
      simp [show Merge.items ps = [] from gathered] at here
    | some v =>
      rw [found] at gathered built
      obtain ⟨s, typed, within⟩ := inner v gathered t (mapError_eq_ok_iff.mp built) w here
      exact ⟨s, mapError_eq_ok_iff.mpr typed, within⟩

theorem exists_narrowed_property (sorted : NameMap.Sorted (declaredProperties p))
    (inner : ∀ name v, Merge.Joins v (Merge.schemasNamed name ps) → Narrowed v (Merge.schemasNamed name ps))
    {props : List (Property ValueType)} (built : propertyTypes ofSchema ms = .ok props) {m : String × Json}
    (declared : m ∈ declaredProperties p) :
    ∃ q ∈ props, q.name = m.1 ∧ ∃ s, ofSchema m.2 = .ok s ∧ q.type.Within s := by
  obtain ⟨name, w⟩ := m
  have here : w ∈ Merge.schemasNamed name ps := List.mem_filterMap.mpr ⟨p, member, sorted.get?_of_mem declared⟩
  have gathered := keeps.properties name
  cases found : NameMap.get? (declaredProperties ms) name with
  | none =>
    rw [found] at gathered
    simp [show Merge.schemasNamed name ps = [] from gathered] at here
  | some v =>
    rw [found] at gathered
    obtain ⟨q, within, step⟩ := exists_of_mapM_of_mem built (NameMap.mem_of_get? found)
    obtain ⟨t, typed, made⟩ := bind_eq_ok_iff.mp step
    cases made
    exact ⟨_, within, rfl, inner name v gathered t (mapError_eq_ok_iff.mp typed) w here⟩

theorem propertyTypes_kept (sorted : NameMap.Sorted (declaredProperties p))
    (inner : ∀ name v, Merge.Joins v (Merge.schemasNamed name ps) → Narrowed v (Merge.schemasNamed name ps))
    {props : List (Property ValueType)} (built : propertyTypes ofSchema ms = .ok props) :
    ∃ own, propertyTypes ofSchema p = .ok own ∧
      ∀ vs, (∀ q ∈ props, Admits q vs) → ∀ q ∈ own, Admits q vs := by
  have narrowed {m : String × Json} (declared : m ∈ declaredProperties p) :=
    exists_narrowed_property keeps member sorted inner built declared
  obtain ⟨own, typed⟩ : ∃ own, propertyTypes ofSchema p = .ok own := exists_mapM fun m declared => by
    obtain ⟨_, -, -, s, typed, -⟩ := narrowed declared
    exact ⟨_, by simp [typed]; rfl⟩
  refine ⟨own, typed, fun vs admitted q within => ?_⟩
  obtain ⟨v, declared, typed'⟩ := exists_of_mem_propertyTypes typed within
  obtain ⟨q', within', same, s, typed'', narrower⟩ := narrowed declared
  cases typed'.symm.trans typed''
  have kept := admitted q' within'
  unfold Admits at kept ⊢
  rw [same] at kept
  cases given : NameMap.get? vs q.name with
  | some x =>
    rw [given] at kept
    exact narrower x kept
  | none =>
    rw [given] at kept
    have required : (requiredNames p).contains q.name = true → (requiredNames ms).contains q.name = true := by
      simpa using keeps.required p member q.name
    rw [required_of_mem_propertyTypes built within', same] at kept
    rw [required_of_mem_propertyTypes typed within]
    exact Bool.eq_false_iff.mpr fun listed => Bool.false_ne_true (kept.symm.trans (required listed))

theorem within_of_keeps (form : OfType type p) (ordered : Members.Ordered p)
    (items : ∀ v, Merge.Joins v (Merge.items ps) → Narrowed v (Merge.items ps))
    (properties : ∀ name v, Merge.Joins v (Merge.schemasNamed name ps) → Narrowed v (Merge.schemasNamed name ps))
    {t : ValueType} (built : ofName ofSchema ms further false (some type) = .ok t) :
    ∃ s, ofSchema (.object p) = .ok s ∧ t.Within s := by
  obtain ⟨n, same⟩ := form.ofSchema_eq
  simp only [same, ofName_eq_ok_iff] at built ⊢
  have kind := form.kind
  cases built with
  | text rule =>
    obtain ⟨s, typed, narrower⟩ := textRule_kept keeps member form rule
    refine ⟨_, .text typed, fun v accepted => ?_⟩
    cases v <;> simp_all [accepts, nullable, Json.string?]
  | array item =>
    obtain ⟨s, typed, narrower⟩ := itemsType_kept keeps member items item
    refine ⟨_, .array typed, fun v accepted => ?_⟩
    cases v with
    | array xs =>
      simp only [accepts, Json.array?, Option.any_some, Bool.and_eq_true, List.all_eq_true] at accepted ⊢
      exact ⟨arrayRule_kept keeps member accepted.1, fun x within => narrower x (accepted.2 x within)⟩
    | _ => simp [accepts, nullable, Json.array?] at accepted
  | object props =>
    obtain ⟨own, typed, narrower⟩ :=
      propertyTypes_kept keeps member (declaredProperties_ordered ordered).sorted properties props
    refine ⟨_, .object typed, fun v accepted => ?_⟩
    cases v with
    | object vs =>
      rw [accepts_members] at accepted ⊢
      exact narrower vs accepted
    | _ => simp [accepts, nullable, Json.object?] at accepted
  | _ => exact absurd kind (by decide)

end

theorem exists_merge_of_ofSchema {us : List Json} {t : ValueType}
    (built : ofSchema (.object [("allOf", .array us)]) = .ok t) {qs : List Members}
    (gathered : Merge.parts ((Json.object [("allOf", .array us)]).depth + 1) (.object [("allOf", .array us)]) = .ok qs) :
    ∃ ms further, Merge.merge qs = .ok (ms, further) ∧ ofKeywords ofSchema ⟨ms, false, further⟩ = .ok t := by
  rw [ofSchema_eq] at built
  obtain ⟨r, resolved, made⟩ := bind_eq_ok_iff.mp built
  have composed : NameMap.contains [("allOf", Json.array us)] "allOf" = true := by simp [NameMap.contains]
  simp only [Resolved.resolve, Resolved.ofSchema, composed, if_true] at resolved
  obtain ⟨qs', gathered', rest⟩ := bind_eq_ok_iff.mp resolved
  cases gathered.symm.trans gathered'
  obtain ⟨⟨ms, further⟩, merged, done⟩ := bind_eq_ok_iff.mp rest
  cases done
  refine ⟨ms, further, merged, ?_⟩
  simpa [Keyword.isNullable, Keyword.flag, NameMap.get?_cons] using made

section
variable {d : Nat} (below : ∀ {v vs}, Merge.Joins v vs → (∀ w ∈ vs, w.depth < d) → (∀ w ∈ vs, w.Ordered) →
    vs.Pairwise Alike → Narrowed v vs)
include below

theorem within_of_allOf {us : List Json} {type : String} {qs : List Members}
    (gathered : Merge.parts ((Json.object [("allOf", .array us)]).depth + 1) (.object [("allOf", .array us)]) = .ok qs)
    (form : ∀ p ∈ Merge.telling qs, OfType type p) (ordered : ∀ p ∈ Merge.telling qs, Members.Ordered p)
    (alike : (Merge.telling qs).Pairwise fun p q => Alike (.object p) (.object q))
    (deep : ∀ p ∈ Merge.telling qs, (Json.object p).depth ≤ d) {t : ValueType}
    (built : ofSchema (.object [("allOf", .array us)]) = .ok t) :
    ∀ p ∈ Merge.telling qs, ∃ s, ofSchema (.object p) = .ok s ∧ t.Within s := by
  intro p member
  obtain ⟨ms, further, merged, made⟩ := exists_merge_of_ofSchema built gathered
  have keeps := Merge.keeps_of_merge form ordered (List.ne_nil_of_mem member) merged
  have declared : declaredName ms = .ok (some type, false) := by simp [declaredName, keeps.named]
  simp only [ofKeywords, declared, bind, Except.bind] at made
  -- What the parts give for items, or for one property, lies inside the parts.
  have narrowed {given : Members → Option Json} (inner : ∀ {q w}, given q = some w → Keyword.Inner q w)
      (alike : ((Merge.telling qs).filterMap given).Pairwise Alike) (v : Json)
      (joins : Merge.Joins v ((Merge.telling qs).filterMap given)) :
      Narrowed v ((Merge.telling qs).filterMap given) := by
    apply below joins ?_ ?_ alike
    · intro w here
      obtain ⟨q, within, found⟩ := List.mem_filterMap.mp here
      exact Nat.lt_of_lt_of_le (inner found).depth_lt (deep q within)
    · intro w here
      obtain ⟨q, within, found⟩ := List.mem_filterMap.mp here
      exact ordered_of_inner (ordered q within) (inner found)
  apply within_of_keeps keeps member (form p member) (ordered p member) ?_ ?_ made
  · apply narrowed .items
    exact alike.filterMap _ fun p q alike v first w second => alike.items first second
  · intro name
    apply narrowed fun found => .property (NameMap.mem_of_get? found)
    exact alike.filterMap _ fun p q alike v first w second => alike.property first second

end

theorem exists_objects {vs : List Json} {form : Members → Prop} (each : ∀ v ∈ vs, ∃ p, v = .object p ∧ form p) :
    ∃ ps : List Members, ps.map Json.object = vs ∧ ∀ p ∈ ps, form p := by
  induction vs with
  | nil => exact ⟨[], rfl, by simp⟩
  | cons v vs ih =>
    obtain ⟨⟨p, rfl, first⟩, rest⟩ := List.forall_mem_cons.mp each
    obtain ⟨ps, rfl, others⟩ := ih rest
    exact ⟨p :: ps, rfl, List.forall_mem_cons.mpr ⟨first, others⟩⟩

theorem exists_ofType_of_alike {vs : List Json} (two : 2 ≤ vs.length) (alike : vs.Pairwise Alike) :
    ∃ type, ∃ ps : List Members, ps.map Json.object = vs ∧ ∀ p ∈ ps, OfType type p := by
  match vs, two with
  | v :: w :: rest, _ =>
    obtain ⟨others, -⟩ := List.pairwise_cons.mp alike
    cases others w List.mem_cons_self with
    | @ofType type p q first second _ _ =>
      refine ⟨type, exists_objects (List.forall_mem_cons.mpr ⟨⟨p, rfl, first⟩, fun x member => ?_⟩)⟩
      cases others x member with
      | @ofType type' _ q' first' second' _ _ =>
        have same : type' = type := Option.some.inj (first'.named.symm.trans first.named)
        exact ⟨q', rfl, same ▸ second'⟩

-- However schemas are joined, the type of the joined schema narrows the type of each.
theorem narrowed_of_joins (d : Nat) {v : Json} {vs : List Json} (joins : Merge.Joins v vs)
    (deep : ∀ w ∈ vs, w.depth < d) (ordered : ∀ w ∈ vs, w.Ordered) (alike : vs.Pairwise Alike) : Narrowed v vs := by
  induction d generalizing v vs with
  | zero => exact fun _ _ w member => absurd (deep w member) (Nat.not_lt_zero _)
  | succ d ih =>
    intro t built w member
    rcases joins.alone_or_allOf with rfl | ⟨two, us, rfl⟩
    · obtain rfl := List.mem_singleton.mp member
      exact ⟨t, built, fun _ accepted => accepted⟩
    · obtain ⟨type, ps, rfl, form⟩ := exists_ofType_of_alike two alike
      obtain ⟨qs, gathered, rfl⟩ := Merge.exists_parts_of_joins joins rfl (fun p here => (form p here).plain)
        (Nat.lt_succ_self _)
      obtain ⟨p, here, rfl⟩ := List.mem_map.mp member
      refine within_of_allOf ih gathered form (fun q within => ?_) ?_ (fun q within => ?_) built p here
      · exact Json.ordered_object_iff.mp (ordered _ (List.mem_map_of_mem within))
      · exact List.pairwise_map.mp alike
      · exact Nat.le_of_lt_succ (deep _ (List.mem_map_of_mem within))

/-- Where parts of one type are alike as far down as they meet, every value that the type of their allOf accepts is
accepted by the type of each part. -/
theorem allOf_within_each {type : String} {ps : List Members} (form : ∀ p ∈ ps, OfType type p)
    (ordered : ∀ p ∈ ps, (Json.object p).Ordered) (alike : ps.Pairwise fun p q => Alike (.object p) (.object q))
    {t : ValueType} (built : ofSchema (.object [("allOf", .array (ps.map .object))]) = .ok t) :
    ∀ p ∈ ps, ∃ s, ofSchema (.object p) = .ok s ∧ ∀ v, t.accepts v = true → s.accepts v = true := by
  obtain ⟨k, same⟩ : ∃ k, (Json.object [("allOf", .array (ps.map .object))]).depth + 1 = k + 2 :=
    ⟨_, by rw [Json.depth]⟩
  obtain ⟨qs, gathered, rfl⟩ := Merge.exists_parts_of_allOf (fun p member => (form p member).plain)
  rw [← same] at gathered
  have below := @narrowed_of_joins (Json.array ((Merge.telling qs).map .object)).depth
  refine within_of_allOf below gathered form (fun p member => ?_) alike (fun p member => ?_) built
  · exact Json.ordered_object_iff.mp (ordered p member)
  · exact Nat.le_of_lt (Json.Child.element (List.mem_map_of_mem member)).depth_lt

def taggedNotes : List Members :=
  [[("properties", .object [("tags", .object [("items", .object [("minLength", .ofNat 1), ("type", .string "string")]),
      ("type", .string "array")])]), ("required", .array [.string "tags"]), ("type", .string "object")],
    [("properties", .object [("tags", .object [("items", .object [("pattern", .string "^[a-z]+$"),
      ("type", .string "string")]), ("maxItems", .ofNat 2), ("type", .string "array")])]), ("type", .string "object")]]

theorem taggedNotes_alike : taggedNotes.Pairwise fun p q => Alike (.object p) (.object q) := by
  have none {p q : Members} (absent : NameMap.get? p "items" = none) (v w : Json)
      (found : NameMap.get? p "items" = some v) (_ : NameMap.get? q "items" = some w) : Alike v w := by
    simp [absent] at found
  refine List.pairwise_pair.mpr (.ofType "object" (by decide) (by decide) (none rfl) ?_)
  intro name v w first second
  obtain ⟨rfl, rfl⟩ : name = "tags" ∧ _ = v := by
    simpa [declaredProperties, NameMap.get?_cons, Json.object?] using first
  cases second
  refine .ofType "array" (by decide) (by decide) (fun v w first second => ?_) fun _ _ _ found => by cases found
  cases first
  cases second
  exact .ofType "string" (by decide) (by decide) (none rfl) fun _ _ _ found => by cases found

theorem taggedNotes_within_each : ∃ t, ofSchema (.object [("allOf", .array (taggedNotes.map .object))]) = .ok t ∧
    t.accepts (.object [("tags", .array [.string "ab"])]) = true ∧ t.accepts (.object []) = false ∧
    t.accepts (.object [("tags", .array [.string "AB"])]) = false ∧
    ∀ p ∈ taggedNotes, ∃ s, ofSchema (.object p) = .ok s ∧ ∀ v, t.accepts v = true → s.accepts v = true := by
  have answers : (ofSchema (.object [("allOf", .array (taggedNotes.map .object))])).toOption.map (fun t =>
      (t.accepts (.object [("tags", .array [.string "ab"])]), t.accepts (.object []),
        t.accepts (.object [("tags", .array [.string "AB"])]))) = some (true, false, false) := by decide +kernel
  obtain ⟨t, found, answered⟩ := Option.map_eq_some_iff.mp answers
  have built := toOption_eq_some_iff.mp found
  simp only [Prod.mk.injEq] at answered
  obtain ⟨accepted, incomplete, capital⟩ := answered
  have form : ∀ p ∈ taggedNotes, OfType "object" p := by decide
  exact ⟨t, built, accepted, incomplete, capital, allOf_within_each form (by decide) taggedNotes_alike built⟩

end ValueType

end SchemaProbe
