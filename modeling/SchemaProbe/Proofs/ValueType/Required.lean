import SchemaProbe.Proofs.ValueType.OfSchema
import SchemaProbe.Proofs.ValueType.Sample
import SchemaProbe.Proofs.ValueType.Variants

set_option autoImplicit false

namespace SchemaProbe

theorem Json.contains_string_iff {vs : List Json} {s : String} : vs.contains (.string s) = true ↔ .string s ∈ vs := by
  have same (v : Json) : (Json.string s == v) = true ↔ .string s = v := by
    change Json.beq (.string s) v = true ↔ _
    cases v <;> simp [Json.beq]
  simp only [List.contains_eq_any_beq, List.any_eq_true, same, exists_eq_right']

namespace Merge

-- The keywords that are merged for a schema: its own, those of the variant it narrows to and those of its allOf parts,
-- at any nesting.
inductive Part : Json → Members → Prop where
  | own (ms : Members) : Part (.object ms) ms
  | variant {ms p : Members} {v : Json} (chosen : chosenVariant? ms = some v) (inner : Part v p) : Part (.object ms) p
  | allOf {ms p : Members} {vs : List Json} {v : Json} (listed : NameMap.get? ms "allOf" = some (.array vs))
      (member : v ∈ vs) (inner : Part v p) : Part (.object ms) p

theorem mem_parts_of_composes {ms : Members} {w : Json} (composes : Composes ms w) {p : Members}
    (within : ∀ {fuel qs}, parts fuel w = .ok qs → p ∈ qs) {fuel : Nat} {ps : List Members}
    (gathered : parts fuel (.object ms) = .ok ps) : p ∈ ps := by
  cases fuel with
  | zero => cases gathered
  | succ fuel =>
    have read := parts_object_eq_ok gathered
    obtain ⟨qs, split?⟩ := read.each w composes
    exact (read.member p).mpr (.inr ⟨w, qs, composes, split?, within split?⟩)

theorem mem_parts_of_part {v : Json} {q : Members} (part : Part v q) {fuel : Nat} {ps : List Members}
    (gathered : parts fuel v = .ok ps) : ownPart q ∈ ps := by
  induction part generalizing fuel ps with
  | own ms =>
    cases fuel with
    | zero => cases gathered
    | succ fuel => exact ((parts_object_eq_ok gathered).member _).mpr (.inl rfl)
  | variant chosen _ ih => exact mem_parts_of_composes (.inl chosen) ih gathered
  | allOf listed member _ ih => exact mem_parts_of_composes (.inr ⟨_, listed, member⟩) ih gathered

theorem part_of_mem_parts {fuel : Nat} {v : Json} {ps : List Members} (gathered : parts fuel v = .ok ps) {p : Members}
    (member : p ∈ ps) : ∃ q, Part v q ∧ ownPart q = p := by
  induction fuel generalizing v ps p with
  | zero => cases gathered
  | succ fuel ih =>
    cases v with
    | bool b => cases b <;> cases gathered; cases member
    | object ms =>
      rcases ((parts_object_eq_ok gathered).member p).mp member with rfl | ⟨w, qs, composes, split?, inside⟩
      · exact ⟨ms, .own ms, rfl⟩
      · obtain ⟨q, part, same⟩ := ih split? inside
        rcases composes with chosen | ⟨vs, listed, element⟩
        · exact ⟨q, .variant chosen part, same⟩
        · exact ⟨q, .allOf listed element part, same⟩
    | _ => cases gathered

-- A set of names read from keywords, of which merging keeps those of every part and adds none.
structure Unites (has : Members → String → Prop) : Prop where
  nothing : ∀ name, ¬ has [] name
  own : ∀ ms name, has (ownPart ms) name ↔ has ms name
  merged : ∀ {ps ms further}, merge ps = .ok (ms, further) → ∀ name, has ms name ↔ ∃ p ∈ ps, has p name

theorem Unites.iff_exists_part {has : Members → String → Prop} (unites : Unites has) {fuel : Nat} {v : Json}
    {ps : List Members} (gathered : parts fuel v = .ok ps) {ms : Members} {further : List String}
    (merged : merge ps = .ok (ms, further)) (name : String) : has ms name ↔ ∃ p, Part v p ∧ has p name := by
  rw [unites.merged merged]
  constructor
  · rintro ⟨p, member, here⟩
    obtain ⟨q, part, rfl⟩ := part_of_mem_parts gathered member
    exact ⟨q, part, (unites.own q name).mp here⟩
  · rintro ⟨q, part, here⟩
    exact ⟨ownPart q, mem_parts_of_part part gathered, (unites.own q name).mpr here⟩

theorem mem_requiredNames_iff {ms : Members} {name : String} :
    name ∈ ValueType.requiredNames ms ↔ .string name ∈ Keyword.elements ms "required" := by
  have read (v : Json) : v.string? = some name ↔ v = .string name := by cases v <;> simp [Json.string?]
  simp [ValueType.requiredNames, List.mem_filterMap, read]

theorem string_mem_distinct_iff {vs : List Json} {s : String} : .string s ∈ distinct vs ↔ .string s ∈ vs :=
  ⟨mem_of_mem_distinct, fun member => mem_foldl_distinct (fun _ => Json.contains_string_iff.mp) (.inr member)⟩

theorem requiredNames_unites : Unites fun ms name => name ∈ ValueType.requiredNames ms where
  nothing name := List.not_mem_nil
  own ms name := by simp only [mem_requiredNames_iff, Keyword.elements, get?_ownPart ms (by decide : "required" ∉ _)]
  merged merge name := by
    simp only [mem_requiredNames_iff, required_merge merge, required, string_mem_distinct_iff, List.mem_flatMap]

theorem contains_addProperty (acc : Members) (m : String × Json) (name : String) :
    NameMap.contains (addProperty acc m) name = (name == m.1 || NameMap.contains acc name) := by
  unfold addProperty
  split
  next => rw [NameMap.contains_insert]
  next => rw [NameMap.contains_insert]

theorem contains_properties_iff {ps : List Members} {name : String} :
    NameMap.contains (properties ps) name = true ↔
      ∃ p ∈ ps, NameMap.contains (ValueType.declaredProperties p) name = true := by
  have added (ms acc : Members) : NameMap.contains (ms.foldl addProperty acc) name =
      (NameMap.contains acc name || NameMap.contains ms name) := by
    induction ms generalizing acc with
    | nil => simp [NameMap.contains]
    | cons m ms ih =>
      rw [List.foldl_cons, ih, contains_addProperty, NameMap.contains_cons]
      ac_rfl
  have gathered (acc : Members) :
      NameMap.contains (ps.foldl (fun acc p => (ValueType.declaredProperties p).foldl addProperty acc) acc) name =
        (NameMap.contains acc name || ps.any fun p => NameMap.contains (ValueType.declaredProperties p) name) := by
    induction ps generalizing acc with
    | nil => simp
    | cons p ps ih => simp [ih, added, Bool.or_assoc]
  rw [properties]
  refine (congrArg (· = true) (gathered [])).to_iff.trans ?_
  simp [NameMap.contains]

theorem declaredProperties_unites :
    Unites fun ms name => NameMap.contains (ValueType.declaredProperties ms) name = true where
  nothing name := by simp [ValueType.declaredProperties, NameMap.contains]
  own ms name := by rw [ValueType.declaredProperties, get?_ownPart ms (by decide)]; rfl
  merged merge name := by rw [declaredProperties_merge merge, contains_properties_iff]

end Merge

namespace Resolved

-- The keywords that are read for a schema: without composition its own, with allOf those of every part, and with anyOf
-- or oneOf alone those of the variant it narrows to.
inductive Reads : Json → Members → Prop where
  | plain {ms : Members} (plain : NameMap.contains ms "allOf" = false) (single : variantList? ms = none) :
      Reads (.object ms) ms
  | narrowed {ms p : Members} {vs : List Json} (plain : NameMap.contains ms "allOf" = false)
      (listed : variantList? ms = some vs) (inner : Reads (narrowed vs) p) : Reads (.object ms) p
  | merged {ms p : Members} (composed : NameMap.contains ms "allOf" = true) (part : Merge.Part (.object ms) p) :
      Reads (.object ms) p

theorem depth_narrowed {ms : Members} {vs : List Json} (listed : variantList? ms = some vs) :
    (narrowed vs).depth < (Json.object ms).depth := by
  unfold narrowed
  cases chosen : vs.find? fun v => !Keyword.isNullType v with
  | none => exact Nat.succ_pos _
  | some v => exact depth_lt_of_variant listed chosen

theorem iff_exists_read {has : Members → String → Prop} (unites : Merge.Unites has) {v : Json} {r : Resolved}
    (resolved : resolve v = .ok r) (name : String) : has r.keywords name ↔ ∃ p, Reads v p ∧ has p name := by
  obtain ⟨d, deep⟩ : ∃ d, v.depth = d := ⟨_, rfl⟩
  induction d using Nat.strongRecOn generalizing v r with
  | _ d ih =>
    cases v with
    | bool b =>
      cases b with
      | false => cases resolved
      | true =>
        cases resolved
        refine iff_of_false (unites.nothing name) ?_
        rintro ⟨p, ⟨⟩, -⟩
    | object ms =>
      cases composed : NameMap.contains ms "allOf" with
      | true =>
        simp only [resolve, ofSchema, composed, if_true] at resolved
        obtain ⟨ps, gathered, rest⟩ := bind_eq_ok_iff.mp resolved
        obtain ⟨⟨keywords, further⟩, combined, done⟩ := bind_eq_ok_iff.mp rest
        cases done
        rw [unites.iff_exists_part gathered combined]
        refine exists_congr fun p => and_congr_left fun _ => ⟨.merged composed, ?_⟩
        rintro (⟨plain, -⟩ | ⟨plain, -, -⟩ | ⟨-, part⟩)
        · simp [composed] at plain
        · simp [composed] at plain
        · exact part
      | false =>
        cases listed : variantList? ms with
        | none =>
          rw [resolve_plain composed listed] at resolved
          cases resolved
          constructor
          · exact fun here => ⟨ms, .plain composed listed, here⟩
          · rintro ⟨p, ⟨-, -⟩ | ⟨-, listed', -⟩ | ⟨composed', -⟩, here⟩
            · exact here
            · simp [listed] at listed'
            · simp [composed] at composed'
        | some vs =>
          rw [resolve_variants composed listed] at resolved
          obtain ⟨r, inner, rfl⟩ := map_eq_ok_iff.mp resolved
          have below := depth_narrowed listed
          rw [ih _ (by omega) inner rfl]
          constructor
          · rintro ⟨p, reads, here⟩
            exact ⟨p, .narrowed composed listed reads, here⟩
          · rintro ⟨p, ⟨-, single⟩ | ⟨-, listed', reads⟩ | ⟨composed', -⟩, here⟩
            · simp [listed] at single
            · rw [listed] at listed'
              cases listed'
              exact ⟨p, reads, here⟩
            · simp [composed] at composed'
    | _ => cases resolved

end Resolved

namespace ValueType

def Requires (v : Json) (name : String) : Prop := ∃ ms, Resolved.Reads v ms ∧ name ∈ requiredNames ms

def Declares (v : Json) (name : String) : Prop :=
  ∃ ms, Resolved.Reads v ms ∧ NameMap.contains (declaredProperties ms) name = true

theorem required_of_mem_propertyTypes {inner : Json → Except TypeFault ValueType} {ms : Members}
    {ps : List (Property ValueType)} (built : propertyTypes inner ms = .ok ps) {p : Property ValueType}
    (member : p ∈ ps) : p.required = (requiredNames ms).contains p.name := by
  obtain ⟨⟨name, v⟩, -, step⟩ := exists_of_mem_mapM built member
  obtain ⟨t, -, made⟩ := bind_eq_ok_iff.mp step
  cases made
  rfl

section
variable {v : Json} {n : Bool} {ps : List (Property ValueType)} (built : ofSchema v = .ok (.object n ps))
include built

theorem exists_read_of_ofSchema_object :
    ∃ r, Resolved.resolve v = .ok r ∧ propertyTypes ofSchema r.keywords = .ok ps := by
  rw [ofSchema_eq] at built
  obtain ⟨r, resolved, made⟩ := bind_eq_ok_iff.mp built
  obtain ⟨⟨name, hasNull⟩, -, named⟩ := bind_eq_ok_iff.mp made
  rw [ofName_eq_ok_iff] at named
  generalize name.orElse (fun _ => inferredName r.keywords) = wanted at named
  cases named with
  | object properties => exact ⟨r, resolved, properties⟩

theorem mem_names_iff_declares {name : String} : name ∈ ps.map Property.name ↔ Declares v name := by
  obtain ⟨r, resolved, properties⟩ := exists_read_of_ofSchema_object built
  rw [Declares, ← Resolved.iff_exists_read Merge.declaredProperties_unites resolved, names_of_propertyTypes properties]
  simp [NameMap.names, NameMap.contains]

theorem exists_required_iff {name : String} :
    (∃ p ∈ ps, p.name = name ∧ p.required = true) ↔ Requires v name ∧ Declares v name := by
  obtain ⟨r, resolved, properties⟩ := exists_read_of_ofSchema_object built
  rw [← mem_names_iff_declares built, Requires, ← Resolved.iff_exists_read Merge.requiredNames_unites resolved]
  constructor
  · rintro ⟨p, member, rfl, required⟩
    rw [required_of_mem_propertyTypes properties member] at required
    exact ⟨List.contains_iff_mem.mp required, List.mem_map_of_mem member⟩
  · rintro ⟨listed, declared⟩
    obtain ⟨p, member, rfl⟩ := List.mem_map.mp declared
    refine ⟨p, member, rfl, ?_⟩
    rw [required_of_mem_propertyTypes properties member]
    exact List.contains_iff_mem.mpr listed

end

theorem Admits.contains {p : Property ValueType} {ms : Members} (admitted : Admits p ms)
    (required : p.required = true) : NameMap.contains ms p.name = true := by
  rw [NameMap.contains_eq_isSome]
  cases found : NameMap.get? ms p.name with
  | some v => rfl
  | none => simp [Admits, found, required] at admitted

theorem Admits.erase {p : Property ValueType} {ms : Members} (admitted : Admits p ms) {name : String}
    (optional : p.name = name → p.required = false) : Admits p (NameMap.erase ms name) := by
  unfold Admits at admitted ⊢
  rw [NameMap.get?_erase]
  by_cases same : p.name = name
  · simpa [same] using optional same
  · simpa [same] using admitted

/-- Every accepted object has a member of a name if and only if the name is both required and declared, unless no
object is accepted at all; and of the required names, generated objects have those that are declared and no others. -/
theorem required_present_iff {v : Json} (ordered : v.Ordered) {n : Bool} {ps : List (Property ValueType)}
    (built : ofSchema v = .ok (.object n ps)) (name : String) :
    ((∀ ms, (object n ps).accepts (.object ms) = true → NameMap.contains ms name = true) ↔
      Requires v name ∧ Declares v name ∨ ∀ ms, (object n ps).accepts (.object ms) = false) ∧
    ∀ f, (Sample.fill (.object n ps) f).Yields fun r => ∀ ms, r = some (.object ms) →
      Requires v name → (NameMap.contains ms name = true ↔ Declares v name) := by
  have present {ms : Members} (accepted : (object n ps).accepts (.object ms) = true) (required : Requires v name)
      (declared : Declares v name) : NameMap.contains ms name = true := by
    obtain ⟨p, member, rfl, asked⟩ := (exists_required_iff built).mpr ⟨required, declared⟩
    exact ((accepts_members n ps ms).mp accepted p member).contains asked
  refine ⟨⟨fun always => ?_, ?_⟩, fun f => ?_⟩
  · by_cases enforced : Requires v name ∧ Declares v name
    · exact .inl enforced
    · -- No property of the name is required, so that an accepted object could do without its member.
      right
      intro ms
      by_contra accepted
      have admitted := (accepts_members n ps ms).mp (by simpa using accepted)
      have without : (object n ps).accepts (.object (NameMap.erase ms name)) = true := by
        refine (accepts_members n ps _).mpr fun p member => (admitted p member).erase fun same => ?_
        by_contra required
        exact enforced ((exists_required_iff built).mp ⟨p, member, same, by simpa using required⟩)
      have gone : NameMap.contains (NameMap.erase ms name) name = false := by
        simp [NameMap.contains_eq_isSome, NameMap.get?_erase]
      simp [always _ without] at gone
  · rintro (⟨required, declared⟩ | none) ms accepted
    · exact present accepted required declared
    · simp [none] at accepted
  · have distinct := ofSchema_namesDistinct ordered built
    refine ((Sample.fill_accepted distinct f).and (Sample.fill_named distinct f)).mono ?_
    rintro r ⟨accepted, named⟩ ms same required
    refine ⟨fun here => ?_, present (accepted _ same) required⟩
    obtain ⟨m, member, is⟩ := List.any_eq_true.mp here
    exact (mem_names_iff_declares built).mp (beq_iff_eq.mp is ▸ named ms same m member)

def idAlone : Members := [("required", .array [.string "id"]), ("type", .string "object")]

theorem idAlone_not_present : ofSchema (.object idAlone) = .ok (.object false []) ∧
    Requires (.object idAlone) "id" ∧ (object false []).accepts (.object []) = true ∧
    (¬ ∀ ms, (object false []).accepts (.object ms) = true → NameMap.contains ms "id" = true) ∧
    Sample.fixed (.object false []) .minimal = some (.object []) ∧
    ∀ f, (Sample.fill (.object false []) f).Yields fun r => ∀ ms, r = some (.object ms) →
      NameMap.contains ms "id" = false := by
  have built : ofSchema (.object idAlone) = .ok (.object false []) := rfl
  have reads {ms : Members} : Resolved.Reads (.object idAlone) ms → ms = idAlone := by
    rintro (⟨-, -⟩ | ⟨-, listed, -⟩ | ⟨composed, -⟩)
    · rfl
    · cases listed
    · cases composed
  have required : Requires (.object idAlone) "id" := ⟨idAlone, .plain rfl rfl, by decide⟩
  have undeclared : ¬ Declares (.object idAlone) "id" := by
    rintro ⟨ms, read, declared⟩
    cases reads read
    exact absurd declared (by decide)
  obtain ⟨always, filled⟩ := required_present_iff (by decide) built "id"
  refine ⟨built, required, rfl, fun present => ?_, rfl, fun f => ?_⟩
  · rcases always.mp present with ⟨-, declared⟩ | none
    · exact undeclared declared
    · cases none []
  · refine (filled f).mono fun r each ms same => ?_
    simpa [undeclared] using each ms same required

end ValueType

end SchemaProbe
