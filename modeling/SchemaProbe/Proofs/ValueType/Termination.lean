import SchemaProbe.Proofs.Calls
import SchemaProbe.Proofs.ValueType.Variants

set_option autoImplicit false

namespace SchemaProbe

inductive Task where
  | type (schema : Json)
  | parts (schema : Json)

namespace Task

def Value : Task → Type
  | type _ => ValueType
  | parts _ => List Members

-- What the bounded descent gives.
def result : (k : Task) → Except TypeFault k.Value
  | type v => ValueType.ofSchema v
  | parts v => Merge.parts (v.depth + 1) v

end Task

abbrev BuildSteps (α : Type) := Steps Task Task.Value TypeFault α

namespace BuildSteps

open Steps

def typeOf (v : Json) : BuildSteps ValueType := ask (Task.type v)

def partsOf (v : Json) : BuildSteps (List Members) := ask (Task.parts v)

def variantParts (ms : Members) : BuildSteps (List Members) :=
  match Merge.chosenVariant? ms with
  | some variant => partsOf variant
  | none => return []

def listedParts (ms : Members) : BuildSteps (List (List Members)) :=
  match NameMap.get? ms "allOf" with
  | none => return []
  | some (.array vs) => vs.mapM partsOf
  | some other => throw (.partsNotArray other)

-- The keywords of the schema itself, then those of a variant, then those of allOf.
def ofParts : Json → BuildSteps (List Members)
  | .bool true => return []
  | .object ms => do
    let narrowed ← variantParts ms
    let listed ← listedParts ms
    return Merge.ownPart ms :: narrowed ++ listed.flatten
  | other => throw (.partNotObject other)

def items (ms : Members) : BuildSteps ValueType :=
  match NameMap.get? ms "items" with
  | some v => (typeOf v).adapt .inItems
  | none => return .any false

def properties (ms : Members) : BuildSteps (List (Property ValueType)) :=
  (ValueType.declaredProperties ms).mapM fun (name, v) => do
    let t ← (typeOf v).adapt (.inProperty name)
    return ⟨name, (ValueType.requiredNames ms).contains name, t⟩

def ofName (ms : Members) (n : Bool) : Option String → BuildSteps ValueType
  | none => return .any n
  | some "string" => do
    let r ← ofOutcome (ValueType.textRule ms [])
    return .text n r
  | some "integer" => do
    let r ← ofOutcome (ValueType.integerRule ms)
    return .integer n r
  | some "number" => do
    let r ← ofOutcome (ValueType.numberRule ms)
    return .number n r
  | some "boolean" => return .boolean n
  | some "array" => do
    let t ← items ms
    return .array n t (ValueType.arrayRule ms)
  | some "object" => do
    let ps ← properties ms
    return .object n ps
  | some "null" => return .any true
  | some other => throw (.unknownType other)

def ofKeywords (ms : Members) : BuildSteps ValueType := do
  let (name, hasNull) ← ofOutcome (ValueType.declaredName ms)
  ofName ms (Keyword.isNullable ms || hasNull) (name.orElse fun _ => ValueType.inferredName ms)

end BuildSteps

namespace ValueType

def withPatterns (further : List String) : ValueType → ValueType
  | text n r => text n { r with patterns := r.patterns ++ further.map TextPattern.ofSource }
  | t => t

theorem ofName_patterns (inner : Json → Except TypeFault ValueType) (ms : Members) (further : List String) (n : Bool)
    (name : Option String) :
    ofName inner ms further n name = (ofName inner ms [] n name).map (withPatterns further) := by
  unfold ofName
  split
  next => rfl
  next =>
    simp only [textRule, List.append_nil, List.map_append]
    cases choicesOf Json.string? .noTextChoice ms <;> rfl
  next => cases integerRule ms <;> rfl
  next => cases numberRule ms <;> rfl
  next => rfl
  next => cases itemsType inner ms <;> rfl
  next => cases propertyTypes inner ms <;> rfl
  next => rfl
  next => rfl

theorem ofKeywords_patterns (inner : Json → Except TypeFault ValueType) (ms : Members) (n : Bool)
    (further : List String) :
    ofKeywords inner ⟨ms, n, further⟩ = (ofKeywords inner ⟨ms, n, []⟩).map (withPatterns further) := by
  unfold ofKeywords
  cases declaredName ms with
  | error fault => rfl
  | ok declared => exact ofName_patterns inner ms further _ _

theorem merge_plain {ps : List Members} {ms : Members} {further : List String}
    (merged : Merge.merge ps = .ok (ms, further)) : NameMap.contains ms "allOf" = false ∧
      Resolved.variantList? ms = none ∧ Keyword.isNullable ms = false := by
  obtain ⟨type, step, -, -, at?⟩ := Merge.get?_merge merged
  have allOf : NameMap.get? ms "allOf" = none := at? "allOf" (by decide)
  have anyOf : NameMap.get? ms "anyOf" = none := at? "anyOf" (by decide)
  have oneOf : NameMap.get? ms "oneOf" = none := at? "oneOf" (by decide)
  have nullable : NameMap.get? ms "nullable" = none := at? "nullable" (by decide)
  have extension : NameMap.get? ms "x-nullable" = none := at? "x-nullable" (by decide)
  refine ⟨?_, ?_, ?_⟩
  · simp [NameMap.contains_eq_isSome, allOf]
  · simp [Resolved.variantList?, anyOf, oneOf]
  · simp [Keyword.isNullable, Keyword.flag, nullable, extension]

theorem ofSchema_of_merge {ps : List Members} {ms : Members} {further : List String}
    (merged : Merge.merge ps = .ok (ms, further)) : ofSchema (.object ms) = ofKeywords ofSchema ⟨ms, false, []⟩ := by
  obtain ⟨plain, single, unmarked⟩ := merge_plain merged
  rw [ofSchema_eq, Resolved.resolve_plain plain single, unmarked]
  rfl

-- A schema with allOf has the type of the schema that its parts are merged to, with what is kept beside it.
theorem ofSchema_merged {ms : Members} (composed : NameMap.contains ms "allOf" = true) :
    ofSchema (.object ms) = Task.result (.parts (.object ms)) >>= fun ps => Merge.merge ps >>= fun m =>
      (ofSchema (.object m.1)).map fun t => (t.withPatterns m.2).orNull (Keyword.isNullable ms) := by
  rw [ofSchema_eq, Resolved.resolve, Resolved.ofSchema]
  simp only [composed, if_true, bind_assoc]
  refine bind_congr fun ps => ?_
  cases merged : Merge.merge ps with
  | error fault => rfl
  | ok m =>
    obtain ⟨keywords, further⟩ := m
    have beside := ofKeywords_or ofSchema ⟨keywords, false, further⟩ (Keyword.isNullable ms)
    rw [ofKeywords_patterns ofSchema keywords false further, ← ofSchema_of_merge merged] at beside
    refine beside.trans ?_
    change _ = (ofSchema (.object keywords)).map _
    cases ofSchema (.object keywords) <;> rfl

end ValueType

namespace BuildSteps

open Steps

-- Composition first: allOf is merged and built anew, variants narrow to one of them.
def ofSchema : Json → BuildSteps ValueType
  | .bool true => return .any false
  | .object ms =>
    if NameMap.contains ms "allOf" then do
      let ps ← partsOf (.object ms)
      let (merged, further) ← ofOutcome (Merge.merge ps)
      let t ← typeOf (.object merged)
      return (t.withPatterns further).orNull (Keyword.isNullable ms)
    else match Resolved.variantList? ms with
      | some vs =>
        match Resolved.variants vs with
        | (some variant, hasNull) => do
          let t ← typeOf variant
          return t.orNull (Keyword.isNullable ms || hasNull)
        | (none, hasNull) => return .any (Keyword.isNullable ms || hasNull)
      | none => ofKeywords ms
  | other => throw (.notObject other)

-- Nothing bounds the calls: the schema that parts are merged to is new, and may be larger than the one that has them.
def body : (k : Task) → Calls Task (fun k => Except TypeFault k.Value) (Except TypeFault k.Value)
  | .type v => (ofSchema v).run
  | .parts v => (ofParts v).run

section
variable (f : (k : Task) → Except TypeFault k.Value)

@[simp] theorem outcome_typeOf (v : Json) : outcome f (typeOf v) = f (.type v) := outcome_ask f (.type v)

theorem outcome_items (ms : Members) : outcome f (items ms) = ValueType.itemsType (fun v => f (.type v)) ms := by
  unfold items ValueType.itemsType
  cases NameMap.get? ms "items" with
  | none => rfl
  | some v => exact outcome_adapt f _ _

theorem outcome_properties (ms : Members) :
    outcome f (properties ms) = ValueType.propertyTypes (fun v => f (.type v)) ms := by
  unfold properties ValueType.propertyTypes
  rw [outcome_mapM]
  apply mapM_congr
  intro m _
  simp only [outcome_bind, outcome_adapt, outcome_typeOf, outcome_pure]
  rfl

theorem outcome_ofName (ms : Members) (n : Bool) (name : Option String) :
    outcome f (ofName ms n name) = ValueType.ofName (fun v => f (.type v)) ms [] n name := by
  unfold ofName ValueType.ofName
  split
  all_goals
    simp only [outcome_bind, outcome_ofOutcome, outcome_items, outcome_properties, outcome_pure, outcome_throw]
    rfl

theorem outcome_ofKeywords (ms : Members) :
    outcome f (ofKeywords ms) = ValueType.ofKeywords (fun v => f (.type v)) ⟨ms, Keyword.isNullable ms, []⟩ := by
  unfold ofKeywords ValueType.ofKeywords
  rw [outcome_bind]
  apply bind_congr
  intro declared
  exact outcome_ofName f ms _ _

end

section
variable {ms : Members}

theorem result_parts {name : String} {v : Json} (member : v ∈ Keyword.elements ms name) :
    Task.result (.parts v) = Merge.parts (Json.object ms).depth v :=
  Merge.parts_congr (Nat.lt_succ_self _) (Keyword.depth_lt_of_mem_elements member)

theorem outcome_variantParts :
    outcome Task.result (variantParts ms) = Merge.variantParts (Json.object ms).depth ms := by
  unfold variantParts Merge.variantParts
  cases chosen : Merge.chosenVariant? ms with
  | none => rfl
  | some v =>
    obtain ⟨name, -, member⟩ := Merge.mem_elements_of_chosenVariant chosen
    exact result_parts member

theorem outcome_listedParts : outcome Task.result (listedParts ms) = Merge.listedParts (Json.object ms).depth ms := by
  unfold listedParts Merge.listedParts
  cases found : NameMap.get? ms "allOf" with
  | none => rfl
  | some v =>
    cases v with
    | array vs =>
      rw [outcome_mapM]
      exact mapM_congr fun v member => result_parts (Merge.mem_elements_of_get? found member)
    | _ => rfl

end

theorem outcome_ofParts (v : Json) : outcome Task.result (ofParts v) = Task.result (.parts v) := by
  cases v with
  | object ms =>
    simp only [ofParts, outcome_bind, outcome_variantParts, outcome_listedParts, outcome_pure]
    exact (Merge.parts_object _ ms).symm
  | bool b => cases b <;> rfl
  | _ => rfl

theorem outcome_ofSchema (v : Json) : outcome Task.result (ofSchema v) = Task.result (.type v) := by
  cases v with
  | object ms =>
    rw [ofSchema]
    by_cases composed : NameMap.contains ms "allOf" = true
    · rw [if_pos composed]
      refine Eq.trans ?_ (ValueType.ofSchema_merged composed).symm
      rw [outcome_bind]
      apply bind_congr
      intro ps
      rw [outcome_bind]
      apply bind_congr
      intro m
      exact outcome_bind_pure _ _ _
    · rw [if_neg composed]
      have plain : NameMap.contains ms "allOf" = false := Bool.eq_false_iff.mpr composed
      cases listed : Resolved.variantList? ms with
      | none =>
        refine (outcome_ofKeywords Task.result ms).trans ?_
        change _ = ValueType.ofSchema _
        rw [ValueType.ofSchema_eq, Resolved.resolve_plain plain listed]
        rfl
      | some vs =>
        refine Eq.trans ?_ (ValueType.ofSchema_variants plain listed).symm
        unfold Resolved.narrowed
        cases chosen : vs.find? fun v => !Keyword.isNullType v with
        | none =>
          simp only [Resolved.variants, chosen]
          rfl
        | some variant =>
          simp only [Resolved.variants, chosen, Option.getD_some]
          exact outcome_bind_pure _ _ _
  | bool b => cases b <;> rfl
  | _ => rfl

section
variable {f : (k : Task) → Except TypeFault k.Value} {P : Task → Prop} {ms : Members}

theorem make_ofParts (each : ∀ v, Merge.Composes ms v → P (.parts v)) : Make f P (ofParts (.object ms)) := by
  have narrowed : Make f P (variantParts ms) := by
    unfold variantParts
    split
    next v chosen => exact make_ask (each v (.inl chosen))
    next => exact make_pure []
  have listed : Make f P (listedParts ms) := by
    unfold listedParts
    split
    next => exact make_pure []
    next vs found => exact make_mapM fun v member => make_ask (each v (.inr ⟨vs, found, member⟩))
    next => exact make_throw _
  exact narrowed.bind fun _ _ => listed.bind fun _ _ => make_pure _

theorem make_ofName (each : ∀ v, Keyword.Inner ms v → P (.type v)) (n : Bool) (name : Option String) :
    Make f P (ofName ms n name) := by
  have item : Make f P (items ms) := by
    unfold items
    split
    next v found => exact (make_ask (each v (.items found))).adapt _
    next => exact make_pure _
  have property : Make f P (properties ms) :=
    make_mapM fun m member => ((make_ask (each m.2 (.property member))).adapt _).bind fun _ _ => make_pure _
  unfold ofName
  split
  case h_2 | h_3 | h_4 => exact (make_ofOutcome _).bind fun _ _ => make_pure _
  case h_6 => exact item.bind fun _ _ => make_pure _
  case h_7 => exact property.bind fun _ _ => make_pure _
  case h_9 => exact make_throw _
  all_goals exact make_pure _

theorem make_ofKeywords (each : ∀ v, Keyword.Inner ms v → P (.type v)) : Make f P (ofKeywords ms) :=
  (make_ofOutcome _).bind fun _ _ => make_ofName each _ _

inductive Leads (f : (k : Task) → Except TypeFault k.Value) (ms : Members) : Task → Prop where
  | parts : Leads f ms (.parts (.object ms))
  | merged {ps : List Members} {m : Members × List String} (gathered : f (.parts (.object ms)) = .ok ps)
      (merged : Merge.merge ps = .ok m) : Leads f ms (.type (.object m.1))
  | variant {vs : List Json} (listed : Resolved.variantList? ms = some vs) {v : Json}
      (chosen : (Resolved.variants vs).1 = some v) : Leads f ms (.type v)
  | inner {v : Json} (inner : Keyword.Inner ms v) : Leads f ms (.type v)

theorem make_ofSchema (each : ∀ k, Leads f ms k → P k) : Make f P (ofSchema (.object ms)) := by
  rw [ofSchema]
  split
  · refine (make_ask (each _ .parts)).bind fun ps gathered => (make_ofOutcome _).bind fun m merged => ?_
    exact (make_ask (each _ (.merged gathered merged))).bind fun _ _ => make_pure _
  · cases listed : Resolved.variantList? ms with
    | none => exact make_ofKeywords fun v inner => each _ (.inner inner)
    | some vs =>
      dsimp only
      split
      next variant hasNull chosen =>
        exact (make_ask (each _ (.variant listed (congrArg Prod.fst chosen)))).bind fun _ _ => make_pure _
      next => exact make_pure _

end

def Halts (k : Task) : Prop := ∃ n, Calls.Ends body (body k) k.result n

theorem value_body (k : Task) : (body k).value Task.result = k.result := by
  cases k with
  | type v => exact outcome_ofSchema v
  | parts v => exact outcome_ofParts v

theorem halts_of_within {k : Task} (each : (body k).Within Task.result Halts) : Halts k := by
  have ended := Calls.exists_ends Task.result each
  rwa [value_body] at ended

theorem halts_parts (v : Json) : Halts (.parts v) := by
  obtain ⟨d, same⟩ : ∃ d, v.depth = d := ⟨_, rfl⟩
  induction d using Nat.strongRecOn generalizing v with
  | _ d ih =>
    apply halts_of_within
    cases v with
    | object ms =>
      refine make_ofParts fun w composes => ?_
      obtain ⟨name, -, member⟩ := composes.mem_elements
      have below := Keyword.depth_lt_of_mem_elements member
      exact ih w.depth (by omega) w rfl
    | bool b => cases b <;> trivial
    | _ => trivial

theorem ofSchema_of_merge {ps : List Members} {ms : Members} {further : List String}
    (merged : Merge.merge ps = .ok (ms, further)) : ofSchema (.object ms) = ofKeywords ms := by
  obtain ⟨plain, single, -⟩ := ValueType.merge_plain merged
  simp [ofSchema, plain, single]

theorem halts_type {n : Nat} {v : Json} (below : NestsBelow n v) : Halts (.type v) := by
  induction n generalizing v with
  | zero => cases below
  | succ n outer =>
    have keywords {ms : Members} (inside : InnerBelow n ms) : Make Task.result Halts (ofKeywords ms) :=
      make_ofKeywords fun w inner => outer (inside w inner)
    -- A variant nests as far as the schema but is less deep. What the parts are merged to may be deeper, but has no
    -- composition left, so that it leads at once to schemas that nest less far.
    obtain ⟨d, same⟩ : ∃ d, v.depth = d := ⟨_, rfl⟩
    induction d using Nat.strongRecOn generalizing v with
    | _ d ih =>
      apply halts_of_within
      cases v with
      | object ms =>
        refine make_ofSchema fun k leads => ?_
        cases leads with
        | parts => exact halts_parts _
        | @merged ps m gathered merged =>
          have each := Merge.parts_forall (fun _ whole => Merge.ownPart_innerBelow (NestsBelow.inner whole))
            (fun _ => NestsBelow.composed) _ below gathered
          have step : Make Task.result Halts (ofSchema (.object m.1)) := by
            rw [ofSchema_of_merge merged]
            exact keywords (Merge.merge_innerBelow each merged)
          exact halts_of_within step
        | @variant vs listed w chosen =>
          have deep := Resolved.depth_lt_of_variant listed chosen
          obtain ⟨name, composition, rfl⟩ := Resolved.elements_of_variantList listed
          have nests := below.composed name composition w (List.mem_of_find?_eq_some chosen)
          exact ih w.depth (by omega) nests rfl
        | inner inner => exact outer (below.inner _ inner)
      | bool b => cases b <;> trivial
      | _ => trivial

theorem halts (k : Task) : Halts k := by
  cases k with
  | type v => exact halts_type (.of_depth (Nat.lt_succ_self v.depth))
  | parts v => exact halts_parts v

/-- Building the type of a schema takes finitely many calls, whatever the schema, and ends with the type or the fault
that the bounded descent gives. -/
theorem building_ends (v : Json) : ∃ n, ∀ r m,
    Calls.Ends body (body (.type v)) r m ↔ r = ValueType.ofSchema v ∧ m = n := by
  obtain ⟨n, ended⟩ := halts (.type v)
  refine ⟨n, fun r m => ⟨fun also => also.unique ended, ?_⟩⟩
  rintro ⟨rfl, rfl⟩
  exact ended

def declaredTwice : Members :=
  [("allOf", .array [.object [("properties", .object [("tags", .object [])])]]),
    ("properties", .object [("tags", .object [("items", .object [])])])]

-- What it is merged to is deeper than the schema itself.
example : (Task.result (.parts (.object declaredTwice)) >>= Merge.merge).toOption.map
    (fun m => decide ((Json.object declaredTwice).depth < (Json.object m.1).depth)) = some true := by
  decide +kernel

end BuildSteps

end SchemaProbe
