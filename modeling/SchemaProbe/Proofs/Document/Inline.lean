import SchemaProbe.Proofs.Case.Coverage
import SchemaProbe.Proofs.ValueType.Choices

set_option autoImplicit false

namespace SchemaProbe

def Keyword.examples (ms : Members) : List String := ["default", "example", "x-example"].filterMap (text? ms)

theorem Keyword.examples_eq (ms : Members) : examples ms =
    (text? ms "default").toList ++ ((text? ms "example").toList ++ (text? ms "x-example").toList) := by
  simp [examples, List.filterMap_eq_flatMap_toList]

namespace ValueType

def withExamples (examples : List String) : ValueType → ValueType
  | text n r => text n { r with examples }
  | t => t

def firstExample? : ValueType → Option String
  | text _ r => if r.choices.isSome then none else r.examples.find? r.accepts
  | _ => none

section
variable {ms ms' : Members} (same : ∀ name ∈ Document.inlineKeywords, NameMap.get? ms' name = NameMap.get? ms name)
include same

theorem choicesOf_agree {α : Type} (pick : Json → Option α) (fault : TypeFault) :
    choicesOf pick fault ms' = choicesOf pick fault ms := by
  simp (disch := decide) only [choicesOf, choices?, same]

theorem textRule_agree (patterns : List String) :
    textRule ms' patterns = (textRule ms patterns).map fun r => { r with examples := Keyword.examples ms' } := by
  have texts : Keyword.text? ms' "format" = Keyword.text? ms "format" ∧
      Keyword.text? ms' "pattern" = Keyword.text? ms "pattern" := by
    simp (disch := decide) only [Keyword.text?, same, and_self]
  have sizes : Keyword.size? ms' "minLength" = Keyword.size? ms "minLength" ∧
      Keyword.size? ms' "maxLength" = Keyword.size? ms "maxLength" := by
    simp (disch := decide) only [Keyword.size?, same, and_self]
  rw [textRule, textRule, choicesOf_agree same, texts.1, texts.2, sizes.1, sizes.2]
  cases choicesOf Json.string? .noTextChoice ms <;> rfl

theorem numeric_agree : ∀ name ∈ Keyword.numeric, NameMap.get? ms' name = NameMap.get? ms name := by
  have kept : ∀ name ∈ Keyword.numeric, name ∈ Document.inlineKeywords := by decide
  exact fun name listed => same name (kept name listed)

theorem integerRule_agree : integerRule ms' = integerRule ms := by
  obtain ⟨lower, upper⟩ := bounds_congr (numeric_agree same)
  have step : integerStep ms' = integerStep ms := by
    rw [integerStep, integerStep, positiveStep?_congr (numeric_agree same)]
  rw [integerRule, integerRule, lower, upper, choicesOf_agree same, step]

theorem numberRule_agree : numberRule ms' = numberRule ms := by
  obtain ⟨lower, upper⟩ := bounds_congr (numeric_agree same)
  rw [numberRule, numberRule, lower, upper, choicesOf_agree same, positiveStep?_congr (numeric_agree same)]

theorem ofName_agree (inner : Json → Except TypeFault ValueType) (bare : declaredProperties ms = [])
    (bare' : declaredProperties ms' = []) (patterns : List String) (n : Bool) (name : Option String) :
    ofName inner ms' patterns n name =
      (ofName inner ms patterns n name).map (withExamples (Keyword.examples ms')) := by
  have arrays : arrayRule ms' = arrayRule ms := by
    simp (disch := decide) only [arrayRule, Keyword.size?, Keyword.flag, same]
  have items : itemsType inner ms' = itemsType inner ms := by simp (disch := decide) only [itemsType, same]
  have properties : propertyTypes inner ms' = propertyTypes inner ms := by
    rw [propertyTypes, propertyTypes, bare, bare']
    rfl
  unfold ofName
  rw [textRule_agree same, integerRule_agree same, numberRule_agree same, arrays, items, properties]
  split
  next => rfl
  next => cases textRule ms patterns <;> rfl
  next => cases integerRule ms <;> rfl
  next => cases numberRule ms <;> rfl
  next => rfl
  next => cases itemsType inner ms <;> rfl
  next => cases propertyTypes inner ms <;> rfl
  next => rfl
  next => rfl

end

end ValueType

namespace Sample

theorem fixed_text (n : Bool) (r : TextRule) (f : Fill) :
    fixed (.text n r) f = ((texts r).find? (ValueType.text n r).accepts) :=
  head?_acceptedOnce _ _

theorem fixed_eq_firstExample (t : ValueType) (f : Fill) :
    fixed t f = (t.firstExample?.map Json.string).or (fixed (t.withExamples []) f) := by
  cases t with
  | text n r =>
    have same : (ValueType.text n r).accepts = (ValueType.text n { r with examples := [] }).accepts := by
      funext v
      cases v <;> rfl
    rw [ValueType.withExamples, fixed_text, fixed_text, ← same]
    cases free : r.choices with
    | some choices => simp [texts, free, ValueType.firstExample?]
    | none =>
      have first : (r.examples.map Json.string).find? (ValueType.text n r).accepts =
          (r.examples.find? r.accepts).map Json.string := by
        rw [List.find?_map]
        rfl
      simp [texts, free, ValueType.firstExample?, List.find?_append, first]
  | _ => rfl

end Sample

-- A minimal case that has to have a value for the parameter, and none is configured.
structure TestCase.MinimalWith (c : TestCase) (op : Operation) (settings : CaseSettings) (p : Parameter) : Prop where
  reached : (CasePlan.ofOperation op settings).Reaches c
  kind : c.kind = .minimal
  member : p ∈ op.parameters
  required : p.required = true
  generated : Slot.fixedValue settings p = none
  distinct : (op.parameters.map Parameter.key).Nodup

theorem TestCase.MinimalWith.value? {c : TestCase} {op : Operation} {settings : CaseSettings} {p : Parameter}
    (minimal : c.MinimalWith op settings p) : c.value? p.name p.location = Sample.fixed p.type .minimal := by
  obtain ⟨k, here⟩ := List.getElem?_of_mem minimal.member
  have gives := minimal.reached.gives (.inl rfl) minimal.kind here minimal.generated
  simpa [Slot.given, Slot.minimalValue, minimal.required] using gives.value? minimal.distinct here

namespace Document

open ValueType

def parameterKeywords : List String :=
  ["name", "in", "description", "required", "type", "format", "allowEmptyValue", "items", "collectionFormat", "default",
    "maximum", "exclusiveMaximum", "minimum", "exclusiveMinimum", "maxLength", "minLength", "pattern", "maxItems",
    "minItems", "uniqueItems", "enum", "multipleOf", "x-nullable", "example", "x-example"]

def inlined (ms : Members) : Members := ms.filter fun m => inlineKeywords.contains m.1

theorem get?_inlined (ms : Members) (name : String) :
    NameMap.get? (inlined ms) name = if inlineKeywords.contains name then NameMap.get? ms name else none :=
  NameMap.get?_filter ms name inlineKeywords.contains

structure Flat (ms : Members) : Prop where
  absent : ∀ name ∈ ["allOf", "anyOf", "oneOf", "nullable", "properties"], NameMap.get? ms name = none

namespace Flat

variable {ms : Members} (flat : Flat ms)
include flat

theorem ofSchema_eq : ofSchema (.object ms) = ofKeywords ofSchema ⟨ms, Keyword.flag ms "x-nullable", []⟩ := by
  have plain : NameMap.contains ms "allOf" = false := by
    simp [NameMap.contains_eq_isSome, flat.absent "allOf" (by decide)]
  have single : Resolved.variantList? ms = none := by
    simp [Resolved.variantList?, flat.absent "anyOf" (by decide), flat.absent "oneOf" (by decide)]
  have mark : Keyword.isNullable ms = Keyword.flag ms "x-nullable" := by
    simp [Keyword.isNullable, Keyword.flag, flat.absent "nullable" (by decide)]
  rw [ofSchema_plain plain single, mark]

theorem declaredProperties_eq : declaredProperties ms = [] := by
  simp [declaredProperties, flat.absent "properties" (by decide)]

theorem inferredName_agree {ms' : Members} (flat' : Flat ms')
    (same : ∀ name ∈ inlineKeywords, NameMap.get? ms' name = NameMap.get? ms name) :
    inferredName ms' = inferredName ms := by
  have bare : NameMap.contains ms' "properties" = NameMap.contains ms "properties" := by
    simp only [NameMap.contains_eq_isSome, flat.absent "properties" (by decide), flat'.absent "properties" (by decide)]
  simp (disch := decide) only [inferredName, bare, NameMap.contains_eq_isSome, choices?, same]

end Flat

section
variable {ms : Members} (known : ∀ m ∈ ms, m.1 ∈ parameterKeywords)
include known

theorem flat_of_known : Flat ms where
  absent name listed := by
    refine NameMap.get?_eq_none_iff.mpr fun m member named => ?_
    have unknown : ∀ name ∈ ["allOf", "anyOf", "oneOf", "nullable", "properties"], name ∉ parameterKeywords := by decide
    exact unknown name listed (named ▸ known m member)

-- A schema that keeps the keywords of a parameter has its type, but for the texts that are tried first.
theorem ofSchema_inlineSchema : ofSchema (inlineSchema (.object ms)) =
    (ofSchema (.object ms)).map (withExamples (Keyword.text? ms "default").toList) := by
  have flat := flat_of_known known
  have flat' : Flat (inlined ms) :=
    flat_of_known fun m member => known m (List.mem_filter.mp member).1
  have same (name : String) (listed : name ∈ inlineKeywords) :
      NameMap.get? (inlined ms) name = NameMap.get? ms name := by
    rw [get?_inlined, if_pos (List.contains_iff_mem.mpr listed)]
  have examples : Keyword.examples (inlined ms) = (Keyword.text? ms "default").toList := by
    have lost (name : String) (unlisted : name ∉ inlineKeywords) : Keyword.text? (inlined ms) name = none := by
      simp [Keyword.text?, get?_inlined, unlisted]
    have kept : Keyword.text? (inlined ms) "default" = Keyword.text? ms "default" := by
      rw [Keyword.text?, same "default" (by decide), Keyword.text?]
    rw [Keyword.examples, List.filterMap_cons, kept, List.filterMap_cons_none (lost "example" (by decide)),
      List.filterMap_cons_none (lost "x-example" (by decide))]
    cases Keyword.text? ms "default" <;> rfl
  change ofSchema (.object (inlined ms)) = _
  rw [flat.ofSchema_eq, flat'.ofSchema_eq, ofKeywords, ofKeywords]
  dsimp only
  have declared : declaredName (inlined ms) = declaredName ms := by
    rw [declaredName, same "type" (by decide), declaredName]
  have mark : Keyword.flag (inlined ms) "x-nullable" = Keyword.flag ms "x-nullable" := by
    rw [Keyword.flag, same "x-nullable" (by decide), Keyword.flag]
  rw [declared, mark, flat.inferredName_agree flat' same]
  cases declaredName ms with
  | error fault => rfl
  | ok found =>
    rw [← examples]
    exact ofName_agree same ofSchema flat.declaredProperties_eq flat'.declaredProperties_eq [] _ _

theorem examples_of_ofSchema {n : Bool} {r : TextRule} (built : ofSchema (.object ms) = .ok (text n r)) :
    r.examples = Keyword.examples ms := by
  rw [(flat_of_known known).ofSchema_eq] at built
  obtain ⟨⟨name, hasNull⟩, -, named⟩ := bind_eq_ok_iff.mp built
  rw [ofName_eq_ok_iff] at named
  generalize (name.orElse fun _ => inferredName ms) = wanted at named
  cases named with
  | text rule =>
    obtain ⟨choices, -, made⟩ := bind_eq_ok_iff.mp rule
    cases made
    rfl

theorem withExamples_eq_self_iff {t : ValueType} (built : ofSchema (.object ms) = .ok t) :
    t.withExamples (Keyword.text? ms "default").toList = t ↔
      ∀ n r, t = text n r → Keyword.text? ms "example" = none ∧ Keyword.text? ms "x-example" = none := by
  cases t with
  | text n r =>
    have all := (examples_of_ofSchema known built).trans (Keyword.examples_eq ms)
    have kept : (text n r).withExamples (Keyword.text? ms "default").toList = text n r ↔
        (Keyword.text? ms "default").toList = r.examples := by
      simp only [withExamples, text.injEq, true_and]
      exact ⟨fun same => congrArg TextRule.examples same, fun same => same ▸ rfl⟩
    rw [kept, all, List.self_eq_append_right, List.append_eq_nil_iff, Option.toList_eq_nil_iff,
      Option.toList_eq_nil_iff]
    exact ⟨fun none _ _ _ => none, fun none => none n r rfl⟩
  | _ => simp [withExamples]

theorem firstExample_withExamples {t : ValueType} (built : ofSchema (.object ms) = .ok t) {s : String}
    (first : t.firstExample? = some s) : (t.withExamples (Keyword.text? ms "default").toList).firstExample? =
      (Keyword.text? ms "default").filter (· == s) := by
  cases t with
  | text n r =>
    have all := (examples_of_ofSchema known built).trans (Keyword.examples_eq ms)
    cases free : r.choices with
    | some choices => simp [firstExample?, free] at first
    | none =>
      have tried (examples : List String) :
          (text n { r with examples }).firstExample? = examples.find? r.accepts := if_neg (by simp [free])
      rw [withExamples, tried]
      replace first : r.examples.find? r.accepts = some s := (tried r.examples).symm.trans first
      have accepted : r.accepts s = true := List.find?_some first
      rw [all] at first
      cases default : Keyword.text? ms "default" with
      | none => rfl
      | some d =>
        rw [default] at first
        cases fits : r.accepts d with
        | true =>
          obtain rfl : d = s := by simpa [fits] using first
          simp [fits, Option.filter]
        | false =>
          have other : d ≠ s := by
            rintro rfl
            simp [fits] at accepted
          simp [fits, other, Option.filter]
  | _ => cases first

/-- A parameter has the type of its keywords, or the fault, unless that is a text with an `example` or `x-example`. By
the type of the keywords the first example that is accepted is the value of a minimal case; by the type of the parameter
it is if and only if it is the default, or what is given without any example. -/
theorem inline_type_same_iff :
    (ofSchema (inlineSchema (.object ms)) = ofSchema (.object ms) ↔ ∀ n r, ofSchema (.object ms) = .ok (text n r) →
      Keyword.text? ms "example" = none ∧ Keyword.text? ms "x-example" = none) ∧
    (∀ fault, ofSchema (inlineSchema (.object ms)) = .error fault ↔ ofSchema (.object ms) = .error fault) ∧
    ∀ t, ofSchema (.object ms) = .ok t → ∃ t', ofSchema (inlineSchema (.object ms)) = .ok t' ∧
      t' = t.withExamples (Keyword.text? ms "default").toList ∧
      ∀ s, t.firstExample? = some s → ∀ c op settings p, TestCase.MinimalWith c op settings p →
        (p.type = t → c.value? p.name p.location = some (.string s)) ∧
        (p.type = t' → (c.value? p.name p.location = some (.string s) ↔
          Keyword.text? ms "default" = some s ∨ Sample.fixed (t.withExamples []) .minimal = some (.string s))) := by
  have inline := ofSchema_inlineSchema known
  refine ⟨?_, fun fault => ?_, fun t built => ⟨_, ?_, rfl, fun s first c op settings p minimal => ⟨?_, ?_⟩⟩⟩
  · rw [inline]
    cases built : ofSchema (.object ms) with
    | error fault => simp [Except.map]
    | ok t => simpa [Except.map] using withExamples_eq_self_iff known built
  · rw [inline, map_eq_error_iff]
  · rw [inline, built]
    rfl
  · rintro rfl
    rw [minimal.value?, Sample.fixed_eq_firstExample, first]
    rfl
  · intro typed
    have without : p.type.withExamples [] = t.withExamples [] := by
      rw [typed]
      cases t <;> rfl
    rw [minimal.value?, Sample.fixed_eq_firstExample, without, typed, firstExample_withExamples known built first]
    cases Keyword.text? ms "default" with
    | none => simp
    | some d => by_cases same : d = s <;> simp [same]

end

-- Any text, and nothing to try first.
def isFreeText : ValueType → Bool
  | .text false r => r == {}
  | _ => false

theorem eq_of_isFreeText {t : ValueType} (free : isFreeText t = true) : t = text false {} := by
  unfold isFreeText at free
  split at free
  next r => rw [beq_iff_eq.mp free]
  next => cases free

def exemplified : Members :=
  [("in", .string "query"), ("name", .string "tag"), ("required", .bool true), ("type", .string "string"),
    ("x-example", .string "abc")]

def exemplifiedNotes : Json :=
  .object [
    ("paths", .object [
      ("/notes", .object [
        ("get", .object [
          ("parameters", .array [.object exemplified]),
          ("responses", .object [("200", .object [("description", .string "Some notes.")])])])])]),
    ("swagger", .string "2.0")]

theorem exemplified_type_differs : (∀ m ∈ exemplified, m.1 ∈ parameterKeywords) ∧
    ofSchema (inlineSchema (.object exemplified)) ≠ ofSchema (.object exemplified) ∧
    ∃ api, Document.read exemplifiedNotes = .ok api ∧ ∃ op ∈ api.operations, ∃ c p,
      TestCase.MinimalWith c op {} p ∧ ofSchema (inlineSchema (.object exemplified)) = .ok p.type ∧
      c.value? "tag" .query ≠ some (.string "abc") := by
  have known : ∀ m ∈ exemplified, m.1 ∈ parameterKeywords := by decide
  have built : ofSchema (.object exemplified) = .ok (text false { examples := ["abc"] }) := rfl
  have inline : ofSchema (inlineSchema (.object exemplified)) = .ok (text false {}) := rfl
  obtain ⟨same, -, each⟩ := inline_type_same_iff known
  obtain ⟨t', inline', -, first⟩ := each _ built
  obtain rfl : text false {} = t' := Except.ok.inj (inline.symm.trans inline')
  refine ⟨known, fun kept => ?_, ?_⟩
  · exact absurd (same.mp kept _ _ built).2 (by decide)
  have run : (Document.read exemplifiedNotes).toOption.any (fun api => api.operations.any fun op =>
      (CasePlan.ofOperation op {}).unsatisfiable.isNone && op.parameters.map Parameter.key == [("tag", .query)] &&
        op.parameters[0]?.any fun p => p.required && isFreeText p.type) = true := by decide +kernel
  obtain ⟨api, read, shown⟩ := (Option.any_eq_true ..).mp run
  obtain ⟨op, member, shown⟩ := List.any_eq_true.mp shown
  simp only [Bool.and_eq_true, Option.isNone_iff_eq_none, beq_iff_eq, Option.any_eq_true] at shown
  obtain ⟨⟨possible, keys⟩, p, here, required, free⟩ := shown
  have type : p.type = text false {} := eq_of_isFreeText free
  have key : some ("tag", Location.query) = some (p.name, p.location) := by
    have listed : (op.parameters.map Parameter.key)[0]? = some p.key := by rw [List.getElem?_map, here]; rfl
    rwa [keys] at listed
  obtain ⟨name, location⟩ := Prod.mk.inj (Option.some.inj key)
  have uncapped : CaseSettings.maxCases {} = none := rfl
  obtain ⟨c, reaches, kind, -⟩ :=
    CasePlan.reaches_leading uncapped possible (Slot.mem_leading_iff.mpr (.inl rfl))
  have minimal : TestCase.MinimalWith c op {} p :=
    ⟨reaches, kind, List.mem_of_getElem? here, required, by simp [Slot.fixedValue, ← location], keys ▸ by decide⟩
  refine ⟨api, toOption_eq_some_iff.mp read, op, member, c, p, minimal, type ▸ inline, fun value => ?_⟩
  rw [name, location] at value
  rcases ((first "abc" rfl c op {} p minimal).2 type).mp value with default | own
  · exact absurd default (by decide)
  · have sample : Sample.fixed (text false {}) .minimal = some (.string "sample") := rfl
    exact absurd (sample.symm.trans own) (by simp)

end Document

end SchemaProbe
