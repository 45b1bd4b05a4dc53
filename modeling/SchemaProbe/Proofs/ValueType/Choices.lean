import Mathlib.Data.Fintype.EquivFin
import SchemaProbe.JsonSchema.Basic
import SchemaProbe.Proofs.ValueType.Variants

set_option autoImplicit false

namespace SchemaProbe

-- The keywords without the choices; a type that is inferred from them is declared in their place.
def Keyword.withoutChoices (ms : Members) : Members :=
  match NameMap.get? ms "type", ValueType.inferredName ms with
  | none, some name => NameMap.insert (NameMap.erase ms "enum") "type" (.string name)
  | _, _ => NameMap.erase ms "enum"

theorem Keyword.get?_withoutChoices (ms : Members) {name : String} (other : name ≠ "type") :
    NameMap.get? (withoutChoices ms) name = if name = "enum" then none else NameMap.get? ms name := by
  unfold withoutChoices
  split
  next => rw [NameMap.get?_insert, if_neg other, NameMap.get?_erase]
  next => rw [NameMap.get?_erase]

-- What bounds numbers, and their step.
def Keyword.numeric : List String := ["minimum", "exclusiveMinimum", "maximum", "exclusiveMaximum", "multipleOf"]

namespace ValueType

def withoutChoices : ValueType → ValueType
  | text n r => text n { r with choices := none }
  | integer n r => integer n { r with choices := none }
  | number n r => number n { r with choices := none }
  | t => t

theorem choicesOf_eq_ok {α : Type} {pick : Json → Option α} {fault : TypeFault} {ms : Members} {vs : List Json}
    (chosen : choices? ms = some vs) (some : vs ≠ []) {picked : Option (List α)}
    (built : choicesOf pick fault ms = .ok picked) : picked = vs.filterMap pick := by
  unfold choicesOf at built
  rw [chosen] at built
  dsimp only at built
  split at built
  next => simp [some] at built
  next => cases built; rfl

theorem choicesOf_free {α : Type} {ms : Members} (free : NameMap.get? ms "enum" = none) (pick : Json → Option α)
    (fault : TypeFault) : choicesOf pick fault ms = .ok none := by
  simp [choicesOf, choices?, free]

section
variable {ms ms' : Members} (same : ∀ name ∈ Keyword.numeric, NameMap.get? ms' name = NameMap.get? ms name)
include same

theorem bounds_congr :
    Keyword.bound ms' "minimum" "exclusiveMinimum" = Keyword.bound ms "minimum" "exclusiveMinimum" ∧
      Keyword.bound ms' "maximum" "exclusiveMaximum" = Keyword.bound ms "maximum" "exclusiveMaximum" := by
  simp (disch := decide) only [Keyword.bound, Keyword.number?, same, and_self]

theorem positiveStep?_congr : Merge.positiveStep? ms' = Merge.positiveStep? ms := by
  simp (disch := decide) only [Merge.positiveStep?, Keyword.number?, same]

end

section
variable {ms ms' : Members}
  (same : ∀ name, name ≠ "enum" → name ≠ "type" → NameMap.get? ms' name = NameMap.get? ms name)
include same

theorem numeric_same : ∀ name ∈ Keyword.numeric, NameMap.get? ms' name = NameMap.get? ms name := by
  have other : ∀ name ∈ Keyword.numeric, name ≠ "enum" ∧ name ≠ "type" := by decide
  exact fun name listed => same name (other name listed).1 (other name listed).2

variable (free : NameMap.get? ms' "enum" = none)
include free

theorem textRule_free {patterns : List String} {r : TextRule} (built : textRule ms patterns = .ok r) :
    textRule ms' patterns = .ok { r with choices := none } := by
  obtain ⟨choices, -, done⟩ := bind_eq_ok_iff.mp built
  cases done
  simp (disch := decide) only [textRule, choicesOf_free free, Keyword.text?, Keyword.size?, same, List.filterMap_cons,
    List.filterMap_nil]
  rfl

theorem integerRule_free {r : IntegerRule} (built : integerRule ms = .ok r) :
    integerRule ms' = .ok { r with choices := none } := by
  unfold integerRule at built
  obtain ⟨choices, -, done⟩ := bind_eq_ok_iff.mp built
  cases done
  obtain ⟨lower, upper⟩ := bounds_congr (numeric_same same)
  simp only [integerRule, choicesOf_free free, lower, upper, integerStep, positiveStep?_congr (numeric_same same)]
  rfl

theorem numberRule_free {r : NumberRule} (built : numberRule ms = .ok r) :
    numberRule ms' = .ok { r with choices := none } := by
  unfold numberRule at built
  obtain ⟨choices, -, done⟩ := bind_eq_ok_iff.mp built
  cases done
  obtain ⟨lower, upper⟩ := bounds_congr (numeric_same same)
  simp only [numberRule, choicesOf_free free, lower, upper, positiveStep?_congr (numeric_same same)]
  rfl

theorem ofName_free (inner : Json → Except TypeFault ValueType) {patterns : List String} {n : Bool}
    {name : Option String} {t : ValueType} (built : ofName inner ms patterns n name = .ok t) :
    ofName inner ms' patterns n name = .ok t.withoutChoices := by
  have arrays : arrayRule ms' = arrayRule ms := by
    simp (disch := decide) only [arrayRule, Keyword.size?, Keyword.flag, same]
  have items : itemsType inner ms' = itemsType inner ms := by simp (disch := decide) only [itemsType, same]
  have properties : propertyTypes inner ms' = propertyTypes inner ms := by
    simp (disch := decide) only [propertyTypes, declaredProperties, requiredNames, Keyword.elements, same]
  rw [ofName_eq_ok_iff] at built ⊢
  cases built with
  | any => exact .any
  | text rule => exact .text (textRule_free same free rule)
  | integer rule => exact .integer (integerRule_free same free rule)
  | number rule => exact .number (numberRule_free same free rule)
  | boolean => exact .boolean
  | array item => exact arrays ▸ .array (items.trans item)
  | object declared => exact .object (properties.trans declared)
  | null => exact .null

end

theorem declaredName_withoutChoices {ms : Members} {name : Option String} {hasNull : Bool}
    (declared : declaredName ms = .ok (name, hasNull)) :
    ∃ name', declaredName (Keyword.withoutChoices ms) = .ok (name', hasNull) ∧
      (name'.orElse fun _ => inferredName (Keyword.withoutChoices ms)) = name.orElse fun _ => inferredName ms := by
  cases found : NameMap.get? ms "type" with
  | some w =>
    have kept : NameMap.get? (Keyword.withoutChoices ms) "type" = some w := by
      simp [Keyword.withoutChoices, found, NameMap.get?_erase]
    refine ⟨name, ?_, ?_⟩
    · rwa [declaredName, kept, ← found, ← declaredName]
    · unfold declaredName at declared
      rw [found] at declared
      cases w <;> cases declared <;> rfl
  | none =>
    obtain ⟨rfl, rfl⟩ : none = name ∧ false = hasNull := by simpa [declaredName, found] using declared
    cases inferred : inferredName ms with
    | some t =>
      refine ⟨some t, ?_, rfl⟩
      simp [declaredName, Keyword.withoutChoices, found, inferred, NameMap.get?_insert]
    | none =>
      have erased : Keyword.withoutChoices ms = NameMap.erase ms "enum" := by
        simp [Keyword.withoutChoices, found, inferred]
      refine ⟨none, ?_, ?_⟩
      · simp [declaredName, erased, NameMap.get?_erase, found]
      · -- Nothing is inferred from the properties or the items either.
        unfold inferredName at inferred
        split at inferred
        next => cases inferred
        next noProperties =>
          split at inferred
          next => cases inferred
          next noItems =>
            simp only [NameMap.contains_eq_isSome] at noProperties noItems
            simp [erased, inferredName, NameMap.contains_eq_isSome, NameMap.get?_erase, noProperties, noItems, choices?]

-- A type is built from choices that are picked by their kind; booleans, arrays and objects are not picked.
def ChosenFrom (vs : List Json) : ValueType → Prop
  | text _ r => r.choices = some (vs.filterMap Json.string?)
  | integer _ r => r.choices = some (vs.filterMap Json.int?)
  | number _ r => r.choices = some (vs.filterMap Json.binary64?)
  | _ => True

theorem ofName_chosenFrom {inner : Json → Except TypeFault ValueType} {ms : Members} {vs : List Json}
    (chosen : choices? ms = some vs) (some : vs ≠ []) {patterns : List String} {n : Bool} {name : Option String}
    {t : ValueType} (built : ofName inner ms patterns n name = .ok t) : t.ChosenFrom vs := by
  cases ofName_eq_ok_iff.mp built with
  | text rule =>
    obtain ⟨choices, picked, made⟩ := bind_eq_ok_iff.mp rule
    cases made
    exact choicesOf_eq_ok chosen some picked
  | integer rule =>
    unfold integerRule at rule
    obtain ⟨choices, picked, made⟩ := bind_eq_ok_iff.mp rule
    cases made
    exact choicesOf_eq_ok chosen some picked
  | number rule =>
    unfold numberRule at rule
    obtain ⟨choices, picked, made⟩ := bind_eq_ok_iff.mp rule
    cases made
    exact choicesOf_eq_ok chosen some picked
  | _ => trivial

section
variable {ms : Members} (plain : NameMap.contains ms "allOf" = false) (single : Resolved.variantList? ms = none)
include plain single

theorem ofSchema_plain : ofSchema (.object ms) = ofKeywords ofSchema ⟨ms, Keyword.isNullable ms, []⟩ := by
  rw [ofSchema_eq, Resolved.resolve_plain plain single]
  rfl

theorem ofSchema_withoutChoices {t : ValueType} (built : ofSchema (.object ms) = .ok t) :
    ofSchema (.object (Keyword.withoutChoices ms)) = .ok t.withoutChoices := by
  have free : NameMap.get? (Keyword.withoutChoices ms) "enum" = none := by
    rw [Keyword.get?_withoutChoices ms (by decide), if_pos rfl]
  have same (name : String) (notEnum : name ≠ "enum") (notType : name ≠ "type") :
      NameMap.get? (Keyword.withoutChoices ms) name = NameMap.get? ms name := by
    rw [Keyword.get?_withoutChoices ms notType, if_neg notEnum]
  have plain' : NameMap.contains (Keyword.withoutChoices ms) "allOf" = false := by
    rw [NameMap.contains_eq_isSome, same _ (by decide) (by decide), ← NameMap.contains_eq_isSome, plain]
  have single' : Resolved.variantList? (Keyword.withoutChoices ms) = none := by
    rw [← single, Resolved.variantList?, Resolved.variantList?, same _ (by decide) (by decide),
      same _ (by decide) (by decide)]
  have nullable : Keyword.isNullable (Keyword.withoutChoices ms) = Keyword.isNullable ms := by
    simp (disch := decide) only [Keyword.isNullable, Keyword.flag, same]
  rw [ofSchema_plain plain single] at built
  obtain ⟨⟨name, hasNull⟩, declared, named⟩ := bind_eq_ok_iff.mp built
  obtain ⟨name', declared', sameName⟩ := declaredName_withoutChoices declared
  rw [ofSchema_plain plain' single', ofKeywords, declared', nullable]
  dsimp only [bind, Except.bind] at named ⊢
  rw [sameName]
  exact ofName_free same free ofSchema named

theorem ofSchema_chosenFrom {vs : List Json} (chosen : choices? ms = some vs) (some : vs ≠ []) {t : ValueType}
    (built : ofSchema (.object ms) = .ok t) : t.ChosenFrom vs := by
  rw [ofSchema_plain plain single] at built
  obtain ⟨_, -, named⟩ := bind_eq_ok_iff.mp built
  exact ofName_chosenFrom chosen some named

end

theorem accepts_text_iff {n : Bool} {r : TextRule} {vs : List Json}
    (picked : r.choices = some (vs.filterMap Json.string?)) {v : Json} (present : v ≠ .null) :
    (text n r).accepts v = true ↔ v ∈ vs ∧ v.isString = true := by
  cases v with
  | null => exact absurd rfl present
  | string s =>
    have read {w : Json} : w.string? = some s ↔ w = .string s := by cases w <;> simp [Json.string?]
    have taken : (text n r).accepts (.string s) = (vs.filterMap Json.string?).contains s := by
      simp [accepts, Json.string?, TextRule.accepts, picked]
    simp [taken, read, Json.isString]
  | _ => simp [accepts, Json.string?, Json.isString]

theorem int?_eq_some_iff {v : Json} {i : Int} :
    v.int? = some i ↔ v = .number (.int i) ∧ i ≤ Number.largestSigned := by
  cases v with
  | number n =>
    cases n with
    | int j =>
      simp only [Json.int?, Json.number?, Option.bind_some, Number.toInt?, Json.number.injEq, Number.int.injEq]
      split <;> simp <;> omega
    | float x => simp [Json.int?, Json.number?, Number.toInt?]
  | _ => simp [Json.int?, Json.number?]

theorem accepts_integer_iff {n : Bool} {r : IntegerRule} {vs : List Json}
    (picked : r.choices = some (vs.filterMap Json.int?)) {v : Json} (present : v ≠ .null) :
    (integer n r).accepts v = true ↔ v ∈ vs ∧ v.int?.isSome = true := by
  have taken : (integer n r).accepts v = v.int?.any r.accepts := by cases v <;> first | rfl | exact absurd rfl present
  rw [taken]
  cases read : v.int? with
  | none => simp
  | some i =>
    obtain ⟨rfl, fits⟩ := int?_eq_some_iff.mp read
    simp [IntegerRule.accepts, picked, int?_eq_some_iff, fits]

def NearChoice (vs : List Json) (v : Json) : Prop :=
  ∃ x, v.binary64? = some x ∧ x.isFinite = true ∧
    ∃ w ∈ vs, ∃ c, w.binary64? = some c ∧ (c - x).abs.lt Binary64.epsilon = true

theorem accepts_number_iff {n : Bool} {r : NumberRule} {vs : List Json}
    (picked : r.choices = some (vs.filterMap Json.binary64?)) {v : Json} (present : v ≠ .null) :
    (number n r).accepts v = true ↔ NearChoice vs v := by
  have taken : (number n r).accepts v = v.binary64?.any r.accepts := by
    cases v <;> first | rfl | exact absurd rfl present
  rw [taken, NearChoice]
  cases v.binary64? with
  | none => simp
  | some x =>
    cases finite : x.isFinite with
    | false => simp [NumberRule.accepts, finite]
    | true =>
      have taken : r.accepts x = (vs.filterMap Json.binary64?).any fun c => (c - x).abs.lt Binary64.epsilon := by
        simp [NumberRule.accepts, finite, picked]
      simp only [Option.any_some, taken, List.any_eq_true, List.mem_filterMap, Option.some.injEq, exists_eq_left',
        finite, true_and]
      constructor
      · rintro ⟨c, ⟨w, member, read⟩, near⟩
        exact ⟨w, member, c, read, near⟩
      · rintro ⟨w, member, c, read, near⟩
        exact ⟨c, ⟨w, member, read⟩, near⟩

-- An accepted value equals a choice and is accepted where only the other rules are asked.
def Enforces (vs : List Json) (own t : ValueType) : Prop :=
  ∀ v, v ≠ .null → t.accepts v = true → (∃ w ∈ vs, JsonSchema.same v w = true) ∧ own.accepts v = true

-- What it takes for choices to be enforced beside the other rules, by the kind of the type.
def EnforcedFor (vs : List Json) (own : ValueType) : ValueType → Prop
  | text .. => ∀ w ∈ vs, w.isString = true → own.accepts w = true
  | integer .. => ∀ w ∈ vs, w.int?.isSome = true → own.accepts w = true
  | number .. => ∀ v, NearChoice vs v → (∃ w ∈ vs, JsonSchema.same v w = true) ∧ own.accepts v = true
  | boolean _ => ∀ b, Json.bool b ∈ vs
  | array .. | object .. =>
    ∀ v, v ≠ .null → own.accepts v = true → ∃ w ∈ vs, JsonSchema.same v w = true
  | any _ => False

theorem exists_fresh (vs : List Json) : ∃ s, ∀ w ∈ vs, JsonSchema.same (.string s) w = false := by
  have infinite : Infinite String := .of_injective String.ofList fun _ _ same => String.ofList_injective same
  obtain ⟨s, fresh⟩ := Infinite.exists_notMem_finset (vs.filterMap Json.string?).toFinset
  refine ⟨s, fun w member => ?_⟩
  cases w with
  | string s' =>
    have other : s ≠ s' := by
      rintro rfl
      exact fresh (List.mem_toFinset.mpr (List.mem_filterMap.mpr ⟨.string s, member, rfl⟩))
    simpa [JsonSchema.same] using other
  | _ => rfl

theorem enforces_iff {vs : List Json} (noNull : .null ∉ vs) {t : ValueType} (picked : t.ChosenFrom vs) :
    Enforces vs t.withoutChoices t ↔ EnforcedFor vs t.withoutChoices t := by
  have present {w : Json} (member : w ∈ vs) : w ≠ .null := fun null => noNull (null ▸ member)
  cases t with
  | text n r =>
    constructor
    · intro enforced w member isText
      exact (enforced w (present member) ((accepts_text_iff picked (present member)).mpr ⟨member, isText⟩)).2
    · intro each v some accepted
      obtain ⟨member, isText⟩ := (accepts_text_iff picked some).mp accepted
      refine ⟨⟨v, member, ?_⟩, each v member isText⟩
      cases v <;> simp_all [Json.isString, JsonSchema.same]
  | integer n r =>
    constructor
    · intro enforced w member isInteger
      exact (enforced w (present member) ((accepts_integer_iff picked (present member)).mpr ⟨member, isInteger⟩)).2
    · intro each v some accepted
      obtain ⟨member, isInteger⟩ := (accepts_integer_iff picked some).mp accepted
      refine ⟨⟨v, member, ?_⟩, each v member isInteger⟩
      obtain ⟨i, read⟩ := Option.isSome_iff_exists.mp isInteger
      rw [(int?_eq_some_iff.mp read).1]
      simp [JsonSchema.same]
  | number n r =>
    refine forall_congr' fun v => ⟨fun enforced near => ?_, fun each some accepted => ?_⟩
    · have some : v ≠ .null := by
        rintro rfl
        obtain ⟨x, read, -⟩ := near
        cases read
      exact enforced some ((accepts_number_iff picked some).mpr near)
    · exact each ((accepts_number_iff picked some).mp accepted)
  | boolean n =>
    have member {b : Bool} {w : Json} : JsonSchema.same (.bool b) w = true ↔ w = .bool b := by
      cases w with
      | bool c => cases b <;> cases c <;> simp [JsonSchema.same]
      | _ => simp [JsonSchema.same]
    constructor
    · intro enforced b
      obtain ⟨⟨w, within, same⟩, -⟩ := enforced (.bool b) nofun rfl
      rwa [member.mp same] at within
    · intro both v some accepted
      cases v with
      | bool b => exact ⟨⟨.bool b, both b, member.mpr rfl⟩, rfl⟩
      | null => exact absurd rfl some
      | _ => cases accepted
  | array n items r =>
    exact ⟨fun enforced v some accepted => (enforced v some accepted).1,
      fun each v some accepted => ⟨each v some accepted, accepted⟩⟩
  | object n ps =>
    exact ⟨fun enforced v some accepted => (enforced v some accepted).1,
      fun each v some accepted => ⟨each v some accepted, accepted⟩⟩
  | any n =>
    refine iff_of_false (fun enforced => ?_) id
    obtain ⟨s, fresh⟩ := exists_fresh vs
    obtain ⟨⟨w, member, same⟩, -⟩ := enforced (.string s) nofun (by simp [accepts])
    exact Bool.false_ne_true ((fresh w member).symm.trans same)

theorem null_not_mem_choices {ms : Members} {vs : List Json} (chosen : choices? ms = some vs) : .null ∉ vs := by
  obtain ⟨ws, -, rfl⟩ := Option.map_eq_some_iff.mp chosen
  simp [Json.isNull]

/-- Choices are enforced together with the rules beside them if and only if the kind of the type sees to it: choices of
text and integers have to obey the rules themselves, numbers near a choice have to be one, and of any other type the
values that the rules admit have to be choices. -/
theorem choices_enforced_iff {ms : Members} (plain : NameMap.contains ms "allOf" = false)
    (single : Resolved.variantList? ms = none) {vs : List Json} (chosen : choices? ms = some vs) (some : vs ≠ [])
    {t : ValueType} (built : ofSchema (.object ms) = .ok t) :
    ∃ own, ofSchema (.object (Keyword.withoutChoices ms)) = .ok own ∧ (Enforces vs own t ↔ EnforcedFor vs own t) :=
  ⟨t.withoutChoices, ofSchema_withoutChoices plain single built,
    enforces_iff (null_not_mem_choices chosen) (ofSchema_chosenFrom plain single chosen some built)⟩

def shortChoices : Members :=
  [("enum", .array [.string "ab", .string "long"]), ("maxLength", .ofNat 2), ("type", .string "string")]

theorem shortChoices_not_enforced : ∃ t own, ofSchema (.object shortChoices) = .ok t ∧
    ofSchema (.object (Keyword.withoutChoices shortChoices)) = .ok own ∧ t.accepts (.string "long") = true ∧
    own.accepts (.string "long") = false ∧ ¬ Enforces [.string "ab", .string "long"] own t := by
  have built : ofSchema (.object shortChoices) =
      .ok (text false { maxLength := some 2, choices := some ["ab", "long"] }) := rfl
  have chosen : choices? shortChoices = some [.string "ab", .string "long"] := rfl
  obtain ⟨own, stripped, enforced⟩ := choices_enforced_iff (by decide) rfl chosen (by simp) built
  have refused : own.accepts (.string "long") = false := by
    obtain ⟨own', stripped', refused⟩ : ∃ own, ofSchema (.object (Keyword.withoutChoices shortChoices)) = .ok own ∧
      own.accepts (.string "long") = false := exists_of_admits? (by decide +kernel)
    rwa [Except.ok.inj (stripped'.symm.trans stripped)] at refused
  refine ⟨_, own, built, stripped, by decide +kernel, refused, fun holds => ?_⟩
  exact Bool.false_ne_true (refused.symm.trans (enforced.mp holds (.string "long") (by simp) rfl))

end ValueType

end SchemaProbe
