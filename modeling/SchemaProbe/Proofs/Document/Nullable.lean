import SchemaProbe.Proofs.Document.Meaning
import SchemaProbe.Proofs.JsonSchema.Null
import SchemaProbe.Proofs.ValueType.Required

set_option autoImplicit false

namespace SchemaProbe

namespace ValueType

theorem accepts_null (t : ValueType) : t.accepts .null = (t.nullable || t.isAny) := by
  cases t <;> simp [accepts, nullable, isAny]

theorem accepts_null_orNull (n : Bool) (t : ValueType) : (t.orNull n).accepts .null = (t.accepts .null || n) := by
  cases t <;> simp [accepts, orNull, nullable]

-- A type that is built under a name admits null as it is told to, but for the types that admit everything.
theorem Named.accepts_null {inner : Json → Except TypeFault ValueType} {ms : Members} {patterns : List String} {n : Bool}
    {name : Option String} {t : ValueType} (named : Named inner ms patterns n name t) :
    t.accepts .null = (n || t.isAny) := by
  cases named <;> simp [accepts, nullable, isAny]

theorem accepts_null_of_allOf {ms : Members} (composed : NameMap.contains ms "allOf" = true)
    (unmarked : Keyword.isNullable ms = false) {t : ValueType} (built : ofSchema (.object ms) = .ok t) :
    t.accepts .null = t.isAny := by
  rw [ofSchema_eq] at built
  obtain ⟨r, resolved, made⟩ := bind_eq_ok_iff.mp built
  simp only [Resolved.resolve, Resolved.ofSchema, composed, if_true, unmarked] at resolved
  obtain ⟨qs, -, rest⟩ := bind_eq_ok_iff.mp resolved
  obtain ⟨⟨keywords, further⟩, merged, done⟩ := bind_eq_ok_iff.mp rest
  cases done
  obtain ⟨type, step, -, -, at?⟩ := Merge.get?_merge merged
  obtain ⟨⟨name, hasNull⟩, declared, named⟩ := bind_eq_ok_iff.mp made
  have typed : NameMap.get? keywords "type" = type.map .string := at? "type" (by decide)
  have absent : hasNull = false := by
    rw [declaredName, typed] at declared
    cases type <;> cases declared <;> rfl
  have accepted := (ofName_eq_ok_iff.mp named).accepts_null
  simpa [absent] using accepted

theorem accepts_null_of_typed {ms : Members} (plain : NameMap.contains ms "allOf" = false)
    (single : Resolved.variantList? ms = none) {ts : List Json} (typed : NameMap.get? ms "type" = some (.array ts))
    (null : .string "null" ∈ ts) {t : ValueType} (built : ofSchema (.object ms) = .ok t) : t.accepts .null = true := by
  rw [ofSchema_eq, Resolved.resolve_plain plain single] at built
  obtain ⟨_, resolved, made⟩ := bind_eq_ok_iff.mp built
  cases resolved
  obtain ⟨⟨name, hasNull⟩, declared, named⟩ := bind_eq_ok_iff.mp made
  have admitted : hasNull = true := by
    rw [declaredName, typed] at declared
    obtain ⟨-, rfl⟩ := Prod.mk.inj (Except.ok.inj declared)
    exact List.contains_iff_mem.mpr (List.mem_filterMap.mpr ⟨_, null, rfl⟩)
  simpa [admitted] using (ofName_eq_ok_iff.mp named).accepts_null

end ValueType

namespace Normal

open JsonSchema

-- What JSON Schema asks of the type of a schema, of its choices and of the schemas it is composed of.
structure Shaped (ms : Members) : Prop where
  type : (NameMap.get? ms "type").all isTypeValue = true
  choices : (NameMap.get? ms "enum").all (fun w => w.array?.isSome) = true
  compositions : ∀ k ∈ Keyword.compositions, (NameMap.get? ms k).all (fun w => w.array?.isSome) = true

def typeKeywords : List String := ["type", "enum", "nullable", "x-nullable"]

def heededKeywords : List String := typeKeywords ++ nullKeywords

def besideType (ms : Members) : Members := ms.filter fun m => m.1 ∉ typeKeywords

theorem get?_besideType (ms : Members) {k : String} (kept : k ∉ typeKeywords) :
    NameMap.get? (besideType ms) k = NameMap.get? ms k := by
  rw [besideType, NameMap.get?_filter ms k (· ∉ typeKeywords), if_pos (by simpa using kept)]

theorem get?_besideType_none (ms : Members) {k : String} (dropped : k ∈ typeKeywords) :
    NameMap.get? (besideType ms) k = none := by
  rw [besideType, NameMap.get?_filter ms k (· ∉ typeKeywords), if_neg (by simpa using dropped)]

theorem get?_nullChoice (ms : Members) {k : String} (other : k ≠ "enum") :
    NameMap.get? (nullChoice ms) k = NameMap.get? ms k := by
  unfold nullChoice
  split
  · rw [NameMap.get?_insert, if_neg other]
  · rfl

theorem admitsNull_nullChoice {ms : Members} (choices : (NameMap.get? ms "enum").all (fun w => w.array?.isSome) = true) :
    admitsNull (nullChoice ms) "enum" = true := by
  unfold nullChoice
  split
  next vs _ =>
    rw [admitsNull, NameMap.get?_insert, if_pos rfl, Option.all_some, holds_enum_array, addOnce]
    split
    next here =>
      obtain ⟨w, member, same⟩ := List.contains_iff_exists_mem_beq.mp here
      refine List.any_eq_true.mpr ⟨w, member, ?_⟩
      cases w <;> first | rfl | cases same
    next => exact List.any_eq_true.mpr ⟨.null, by simp, rfl⟩
  next other =>
    cases found : NameMap.get? ms "enum" with
    | none => rw [admitsNull, found]; rfl
    | some w =>
      rw [found, Option.all_some] at choices
      cases w with
      | array vs => exact absurd found (other vs)
      | _ => cases choices

def withTypes (ms : Members) (ts : List Json) : Members :=
  NameMap.insert (nullChoice (finalMembers ms)) "type" (.array ts)

theorem isNullable_withTypes (ms : Members) (ts : List Json) : Keyword.isNullable (withTypes ms ts) = false := by
  have absent {k : String} (flag : k ∈ ["nullable", "x-nullable"]) :
      NameMap.get? (withTypes ms ts) k = none := by
    have apart : ∀ k ∈ ["nullable", "x-nullable"], k ≠ "type" ∧ k ≠ "enum" := by decide
    obtain ⟨notType, notEnum⟩ := apart k flag
    rw [withTypes, NameMap.get?_insert, if_neg notType, get?_nullChoice _ notEnum, finalMembers, NameMap.get?_erase,
      NameMap.get?_erase]
    simp only [List.mem_cons, List.not_mem_nil, or_false] at flag
    rcases flag with rfl | rfl <;> simp
  simp [Keyword.isNullable, Keyword.flag, absent]

-- The normal form where the whole schema has null beside it.
def orNullType (ms : Members) : Members :=
  [("anyOf", .array [.object (nullChoice (finalMembers ms)), .object [("type", .string "null")]])]

-- What stands beside the type leaves null to the type that is built: allOf where that type accepts everything, and
-- variants where the one it narrows to accepts null, or one of them is null.
def LeavesNull (ms : Members) (t : ValueType) : Prop :=
  if NameMap.contains ms "allOf" then t.isAny = true else
    ∀ vs, Resolved.variantList? ms = some vs →
      ∃ s, ValueType.ofSchema (Resolved.narrowed (vs.map normalize)) = .ok s ∧
        (s.accepts .null = true ∨ (vs.map normalize).any Keyword.isNullType = true)

namespace Shaped

variable {ms : Members} (shaped : Shaped ms)
include shaped

theorem value?_isSome {k : String} (member : k ∈ heededKeywords) {w : Json}
    (found : NameMap.get? ms k = some w) : (value? k w).isSome = true := by
  have known : ∀ k ∈ heededKeywords,
      position k = .data ∨ position k = .schema ∨ position k = .schemas ∧ k ∈ Keyword.compositions := by decide
  rcases known k member with data | schema | ⟨schemas, composition⟩
  · simp [value?, data]
  · cases w <;> simp [value?, schema]
  · have list := shaped.compositions k composition
    rw [found, Option.all_some] at list
    cases w <;> simp_all [value?, Json.array?]

theorem get?_plain {k : String} (member : k ∈ heededKeywords) :
    NameMap.get? (plainMembers (normalMembers ms)) k = (NameMap.get? ms k).bind (value? k) := by
  have normal {k : String} (member : k ∈ heededKeywords) :
      NameMap.get? (normalMembers ms) k = (NameMap.get? ms k).bind (value? k) :=
    NameMap.get?_filterMap fun _ found => shaped.value?_isSome member found
  have typed : NameMap.get? (normalMembers ms) "type" ≠ some (.string "file") := by
    rw [normal (by decide), value?_data (by decide), Option.bind_fun_some]
    intro file
    have type := shaped.type
    rw [file] at type
    exact absurd type (by decide)
  have untouched : ∀ k ∈ heededKeywords, k ≠ "discriminator" ∧ k ∉ boundKeywords := by decide
  obtain ⟨kept, free⟩ := untouched k member
  rw [get?_plainMembers kept typed, get?_bounds free, normal member]

theorem get?_final {k : String} (member : k ∈ "type" :: "enum" :: nullKeywords) :
    NameMap.get? (finalMembers ms) k = (NameMap.get? ms k).bind (value? k) := by
  have apart : ∀ k ∈ "type" :: "enum" :: nullKeywords, k ≠ "nullable" ∧ k ≠ "x-nullable" ∧
      k ∈ heededKeywords := by decide
  obtain ⟨first, second, known⟩ := apart k member
  rw [finalMembers, NameMap.get?_erase, NameMap.get?_erase, if_neg second, if_neg first, shaped.get?_plain known]

theorem isTrue_plain {k : String} (flag : k ∈ ["nullable", "x-nullable"]) :
    isTrue (plainMembers (normalMembers ms)) k = isTrue ms k := by
  have known : ∀ k ∈ ["nullable", "x-nullable"], k ∈ heededKeywords ∧ position k = .data := by decide
  obtain ⟨heeded, data⟩ := known k flag
  rw [isTrue, shaped.get?_plain heeded, value?_data data, Option.bind_fun_some, isTrue]

theorem normalize_eq : normalize (.object ms) = if isTrue ms "nullable" || isTrue ms "x-nullable" then
    admitNull (finalMembers ms) else .object (finalMembers ms) := by
  rw [normalize_object, ← normalMembers, nullByType, shaped.isTrue_plain (by decide), shaped.isTrue_plain (by decide)]
  rfl

theorem beside : Shaped (besideType ms) where
  type := by rw [get?_besideType_none ms (by decide)]; rfl
  choices := by rw [get?_besideType_none ms (by decide)]; rfl
  compositions k composition := by
    have apart : ∀ k ∈ Keyword.compositions, k ∉ typeKeywords := by decide
    rw [get?_besideType ms (apart k composition)]
    exact shaped.compositions k composition

theorem normalize_besideType : normalize (.object (besideType ms)) = .object (finalMembers (besideType ms)) := by
  have unmarked {k : String} (dropped : k ∈ typeKeywords) : isTrue (besideType ms) k = false := by
    rw [isTrue, get?_besideType_none ms dropped]; rfl
  rw [shaped.beside.normalize_eq, unmarked (by decide), unmarked (by decide)]
  rfl

theorem admitNull_final : NameMap.get? ms "type" = none ∧ admitNull (finalMembers ms) = .object (orNullType ms) ∨
    NameMap.get? ms "type" ≠ none ∧ ∃ ts, .string "null" ∈ ts ∧
      admitNull (finalMembers ms) = .object (withTypes ms ts) := by
  have chosen : NameMap.get? (nullChoice (finalMembers ms)) "type" = NameMap.get? ms "type" := by
    rw [get?_nullChoice _ (by decide), shaped.get?_final (by decide), value?_data (by decide), Option.bind_fun_some]
  have type := shaped.type
  unfold admitNull
  dsimp only
  rw [chosen]
  cases found : NameMap.get? ms "type" with
  | none => exact .inl ⟨rfl, rfl⟩
  | some w =>
    rw [found, Option.all_some] at type
    refine .inr ⟨nofun, ?_⟩
    cases w with
    | string t => exact ⟨_, by simp, rfl⟩
    | array ts =>
      refine ⟨_, ?_, rfl⟩
      unfold addOnce
      split
      next here => exact Json.contains_string_iff.mp here
      next => simp
    | _ => cases type

theorem get?_typed (ts : List Json) {k : String} (member : k ∈ nullKeywords) :
    NameMap.get? (withTypes ms ts) k =
      (NameMap.get? ms k).bind (value? k) := by
  have apart : ∀ k ∈ nullKeywords, k ≠ "type" ∧ k ≠ "enum" ∧ k ∈ "type" :: "enum" :: nullKeywords := by decide
  obtain ⟨notType, notEnum, known⟩ := apart k member
  rw [withTypes, NameMap.get?_insert, if_neg notType, get?_nullChoice _ notEnum, shaped.get?_final known]

theorem accepts_null_typed {ts : List Json} (null : .string "null" ∈ ts) :
    accepts (.object (withTypes ms ts)) .null =
      accepts (normalize (.object (besideType ms))) .null := by
  have absent {k : String} (dropped : k ∈ typeKeywords) (known : k ∈ "type" :: "enum" :: nullKeywords) :
      admitsNull (finalMembers (besideType ms)) k = true := by
    rw [admitsNull, shaped.beside.get?_final known, get?_besideType_none ms dropped]
    rfl
  rw [shaped.normalize_besideType]
  refine accepts_null_congr (fun k member => ?_) ?_ ?_
  · have apart : ∀ k ∈ nullKeywords, k ∉ typeKeywords := by decide
    rw [shaped.get?_typed ts member, shaped.beside.get?_final (List.mem_cons_of_mem _ (List.mem_cons_of_mem _ member)),
      get?_besideType ms (apart k member)]
  · rw [absent (by decide) (by decide), admitsNull, withTypes, NameMap.get?_insert, if_pos rfl, Option.all_some,
      holds_type_array, List.any_eq_true]
    exact ⟨"null", List.mem_filterMap.mpr ⟨_, null, rfl⟩, rfl⟩
  · rw [absent (by decide) (by decide), admitsNull, withTypes, NameMap.get?_insert, if_neg (by decide), ← admitsNull]
    refine admitsNull_nullChoice ?_
    rw [shaped.get?_final (by decide), value?_data (by decide), Option.bind_fun_some]
    exact shaped.choices

theorem contains_typed (ts : List Json) : NameMap.contains (withTypes ms ts) "allOf" =
    NameMap.contains ms "allOf" := by
  rw [NameMap.contains_eq_isSome, NameMap.contains_eq_isSome, shaped.get?_typed ts (by decide)]
  cases found : NameMap.get? ms "allOf" with
  | none => rfl
  | some w => exact shaped.value?_isSome (by decide) found

theorem variantList?_typed (ts : List Json) : Resolved.variantList? (withTypes ms ts) =
    (Resolved.variantList? ms).map (List.map normalize) := by
  have list {k : String} (composition : k ∈ Keyword.compositions) :
      ((NameMap.get? ms k).bind (value? k)).bind Json.array? =
        ((NameMap.get? ms k).bind Json.array?).map (List.map normalize) := by
    have schemas : ∀ k ∈ Keyword.compositions, position k = .schemas := by decide
    cases NameMap.get? ms k with
    | none => rfl
    | some w => cases w <;> simp [value?, schemas k composition, Json.array?]
  rw [Resolved.variantList?, shaped.get?_typed ts (by decide), shaped.get?_typed ts (by decide), list (by decide),
    list (by decide), Resolved.variantList?]
  cases (NameMap.get? ms "anyOf").bind Json.array? <;> rfl

theorem accepts_null_type {ts : List Json} (null : .string "null" ∈ ts) {t : ValueType}
    (built : ValueType.ofSchema (.object (withTypes ms ts)) = .ok t) :
    t.accepts .null = true ↔ LeavesNull ms t := by
  have composed := shaped.contains_typed ts
  have listed := shaped.variantList?_typed ts
  have unmarked := isNullable_withTypes ms ts
  unfold LeavesNull
  cases allOf : NameMap.contains ms "allOf" with
  | true =>
    rw [allOf] at composed
    rw [ValueType.accepts_null_of_allOf composed unmarked built, if_pos rfl]
  | false =>
    rw [allOf] at composed
    rw [if_neg Bool.false_ne_true]
    cases variants : Resolved.variantList? ms with
    | none =>
      rw [variants, Option.map_none] at listed
      have typed : NameMap.get? (withTypes ms ts) "type" = some (.array ts) := by
        rw [withTypes, NameMap.get?_insert, if_pos rfl]
      exact iff_of_true (ValueType.accepts_null_of_typed composed listed typed null built) nofun
    | some vs =>
      rw [variants, Option.map_some] at listed
      rw [ValueType.ofSchema_variants composed listed, unmarked, Bool.false_or] at built
      obtain ⟨s, narrowed, rfl⟩ := map_eq_ok_iff.mp built
      rw [ValueType.accepts_null_orNull, Bool.or_eq_true]
      constructor
      · rintro accepted ws same
        cases same
        exact ⟨s, narrowed, accepted⟩
      · intro each
        obtain ⟨s', narrowed', accepted⟩ := each vs rfl
        cases narrowed.symm.trans narrowed'
        exact accepted

end Shaped

theorem accepts_null_orNullType (ms : Members) : accepts (.object (orNullType ms)) .null = true := by
  rw [orNullType, accepts_orNull]
  exact Bool.or_true _

theorem type_accepts_null_orNullType {ms : Members} {t : ValueType}
    (built : ValueType.ofSchema (.object (orNullType ms)) = .ok t) : t.accepts .null = true := by
  have listed : Resolved.variantList? (orNullType ms) =
      some [.object (nullChoice (finalMembers ms)), .object [("type", .string "null")]] := rfl
  rw [ValueType.ofSchema_variants rfl listed] at built
  obtain ⟨s, -, rfl⟩ := map_eq_ok_iff.mp built
  have null : Keyword.isNullType (.object [("type", .string "null")]) = true := by decide
  simp [ValueType.accepts_null_orNull, null]

/-- A schema that a flag makes nullable admits null where it has no type, and beside a type where its other keywords
admit it. The type built from its normal form accepts null where the schema has no type, and beside a type where what
stands there leaves it null. -/
theorem null_admitted_iff {ms : Members} (shaped : Shaped ms)
    (marked : NameMap.get? ms "nullable" = some (.bool true) ∨ NameMap.get? ms "x-nullable" = some (.bool true)) :
    (accepts (normalize (.object ms)) .null = true ↔
      NameMap.get? ms "type" = none ∨ accepts (normalize (.object (besideType ms))) .null = true) ∧
    ∀ t, ValueType.ofSchema (normalize (.object ms)) = .ok t →
      (t.accepts .null = true ↔ NameMap.get? ms "type" = none ∨ LeavesNull ms t) := by
  have flagged : (isTrue ms "nullable" || isTrue ms "x-nullable") = true := by
    rw [Bool.or_eq_true]
    exact marked.imp (fun found => by rw [isTrue, found]; rfl) (fun found => by rw [isTrue, found]; rfl)
  rw [shaped.normalize_eq, if_pos flagged]
  rcases shaped.admitNull_final with ⟨untyped, same⟩ | ⟨typed, ts, null, same⟩
  · rw [same]
    refine ⟨iff_of_true (accepts_null_orNullType ms) (.inl untyped), fun t built => ?_⟩
    exact iff_of_true (type_accepts_null_orNullType built) (.inl untyped)
  · rw [same, shaped.accepts_null_typed null]
    refine ⟨(or_iff_right typed).symm, fun t built => ?_⟩
    rw [or_iff_right typed]
    exact shaped.accepts_null_type null built

def optionalName : Members :=
  [("allOf", .array [.object [("type", .string "string")]]), ("nullable", .bool true), ("type", .string "string")]

theorem optionalName_refuses_null : Shaped optionalName ∧ NameMap.get? optionalName "nullable" = some (.bool true) ∧
    accepts (normalize (.object optionalName)) .null = false ∧
    ∃ t, ValueType.ofSchema (normalize (.object optionalName)) = .ok t ∧ t.accepts .null = false := by
  have shaped : Shaped optionalName := ⟨by decide, by decide, by decide⟩
  have marked : NameMap.get? optionalName "nullable" = some (.bool true) := rfl
  have beside : accepts (normalize (.object (besideType optionalName))) .null = false := by decide +kernel
  obtain ⟨validated, accepted⟩ := null_admitted_iff shaped (.inl marked)
  refine ⟨shaped, marked, Bool.eq_false_iff.mpr fun admitted => ?_, ?_⟩
  · rcases validated.mp admitted with untyped | admitted
    · exact absurd untyped (by decide)
    · rw [beside] at admitted
      cases admitted
  · have named : ((ValueType.ofSchema (normalize (.object optionalName))).toOption.map ValueType.isAny) = some false := by
      decide +kernel
    obtain ⟨t, found, text⟩ := Option.map_eq_some_iff.mp named
    have built := toOption_eq_some_iff.mp found
    refine ⟨t, built, Bool.eq_false_iff.mpr fun admitted => ?_⟩
    rcases (accepted t built).mp admitted with untyped | any
    · exact absurd untyped (by decide)
    · rw [LeavesNull, if_pos (by decide), text] at any
      cases any

end Normal

end SchemaProbe
