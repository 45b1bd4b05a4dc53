import SchemaProbe.Proofs.Document.Steps

set_option autoImplicit false

namespace SchemaProbe.Normal

open JsonSchema

def boundKeywords : List String := ["minimum", "exclusiveMinimum", "maximum", "exclusiveMaximum"]

def silentKeywords : List String := ["discriminator", "nullable", "x-nullable"]

def touchedKeywords : List String := boundKeywords ++ silentKeywords

def plainKeywords : List String := dataKeywords.filter (· ∉ boundKeywords)

def valueOf? {α : Type} (es : List (Entry α)) (k : String) : Option Json := (entryFor es k).map (·.value)

def directNode (es : List (Entry Reading)) : Reading := fun v =>
  (plainKeywords.all fun k => (valueOf? es k).all fun w => holds k w v) &&
    boundHolds "exclusiveMinimum" "minimum" (valueOf? es "exclusiveMinimum") (valueOf? es "minimum") v &&
    boundHolds "exclusiveMaximum" "maximum" (valueOf? es "exclusiveMaximum") (valueOf? es "maximum") v &&
    subschemasHold es v

/-- What a schema says as it is written: a flag beside a bound makes it exclusive, and what says whether null is admitted
or which of several schemas is meant says nothing of other values. -/
def direct : Json → Reading := fold JsonSchema.position (fun s _ => !(s == .bool false)) directNode

def isFlag (keyword : String) (v : Json) : Bool := ["exclusiveMinimum", "exclusiveMaximum"].contains keyword && v.isBool

def referenceKeywords : List String := ["$ref", "$dynamicRef"]

def isWellFormedEntry (e : Entry Bool) : Bool :=
  match JsonSchema.position e.keyword, e.sub with
  | .data, _ => !referenceKeywords.contains e.keyword && (isFlag e.keyword e.value || isShaped e.keyword e.value)
  | .schema, .one s => hosts.contains e.keyword && s
  | .schemas, .many ss => hosts.contains e.keyword && !ss.isEmpty && ss.all id
  | .named, .named ss => ss.isEmpty || (hosts.contains e.keyword && ss.all (·.2))
  | _, _ => false

/-- A schema whose keywords have the shapes of JSON Schema, or of the flags of interface documents, with subschemas
below the hosts only: none is referred to. -/
def isWellFormed : Json → Bool := fold JsonSchema.position Json.isBool fun es => es.all isWellFormedEntry

theorem valueOf?_entries {α : Type} (result : Json → α) (ms : Members) (k : String) :
    valueOf? (entries JsonSchema.position result ms) k = NameMap.get? ms k := by
  rw [valueOf?, entryFor_entries, Option.map_map]
  exact Option.map_id_fun' ▸ rfl

theorem direct_object (ms : Members) (v : Json) :
    direct (.object ms) v = (dataHold plainKeywords ms v &&
      boundHolds "exclusiveMinimum" "minimum" (NameMap.get? ms "exclusiveMinimum") (NameMap.get? ms "minimum") v &&
      boundHolds "exclusiveMaximum" "maximum" (NameMap.get? ms "exclusiveMaximum") (NameMap.get? ms "maximum") v &&
      subschemasHold (entries JsonSchema.position direct ms) v) := by
  rw [direct, fold_object]
  simp only [directNode, valueOf?_entries]
  rfl

theorem dataHold_split (ms : Members) (v : Json) :
    dataHold dataKeywords ms v = (dataHold plainKeywords ms v &&
      ((NameMap.get? ms "minimum").all (fun l => holds "minimum" l v) &&
        (NameMap.get? ms "exclusiveMinimum").all fun l => holds "exclusiveMinimum" l v) &&
      ((NameMap.get? ms "maximum").all (fun l => holds "maximum" l v) &&
        (NameMap.get? ms "exclusiveMaximum").all fun l => holds "exclusiveMaximum" l v)) := by
  have order : dataKeywords.Perm (plainKeywords ++ boundKeywords) := by decide
  rw [dataHold, order.all_eq, List.all_append]
  simp only [boundKeywords, List.all_cons, List.all_nil, Bool.and_true, dataHold, Bool.and_assoc]

inductive WellFormedValue (k : String) : Json → Prop where
  | data {w : Json} (position : JsonSchema.position k = .data) (shape : (isFlag k w || isShaped k w) = true) :
      WellFormedValue k w
  | schema {w : Json} (position : JsonSchema.position k = .schema) (host : k ∈ hosts) (whole : isWellFormed w = true) :
      WellFormedValue k w
  | schemas {xs : List Json} (position : JsonSchema.position k = .schemas) (host : k ∈ hosts)
      (each : ∀ x ∈ xs, isWellFormed x = true) : WellFormedValue k (.array xs)
  | none (position : JsonSchema.position k = .named) : WellFormedValue k (.object [])
  | named {ps : Members} (position : JsonSchema.position k = .named) (host : k ∈ hosts)
      (each : ∀ p ∈ ps, isWellFormed p.2 = true) : WellFormedValue k (.object ps)

theorem wellFormedValue {k : String} {w : Json}
    (entry : isWellFormedEntry ⟨k, w, Sub.ofValue JsonSchema.position isWellFormed k w⟩ = true) :
    WellFormedValue k w := by
  -- By the position of the keyword, and then by whether the value has the shape for it.
  unfold isWellFormedEntry Sub.ofValue at entry
  cases position : JsonSchema.position k with
  | data =>
    simp only [position, Bool.and_eq_true] at entry
    exact .data position entry.2
  | schema =>
    cases w with
    | array xs => simp [position] at entry
    | _ =>
      simp only [position, Bool.and_eq_true, List.contains_iff_mem] at entry
      exact .schema position entry.1 entry.2
  | schemas =>
    cases w with
    | array xs =>
      simp only [position, Bool.and_eq_true, List.contains_iff_mem, List.all_map, List.all_eq_true] at entry
      exact .schemas position entry.1.1 entry.2
    | _ => simp [position] at entry
  | named =>
    cases w with
    | object ps =>
      simp only [position, Bool.or_eq_true, Bool.and_eq_true, List.contains_iff_mem, List.isEmpty_map,
        List.isEmpty_iff, List.all_map, List.all_eq_true] at entry
      rcases entry with rfl | ⟨host, each⟩
      · exact .none position
      · exact .named position host each
    | _ => simp [position] at entry

theorem isWellFormed_object {ms : Members} (wellFormed : isWellFormed (.object ms) = true) :
    ∀ m ∈ ms, WellFormedValue m.1 m.2 := by
  intro m member
  rw [isWellFormed, fold_object, List.all_eq_true, entries] at wellFormed
  exact wellFormedValue (wellFormed _ (List.mem_map_of_mem member))

theorem position_eq_of_ne_data {k : String} (other : position k ≠ .data) : position k = JsonSchema.position k := by
  unfold position at other ⊢
  split at other <;> simp_all [JsonSchema.position]

theorem position_host {k : String} (host : k ∈ hosts) : position k = JsonSchema.position k := by
  simp only [hosts, List.mem_cons, List.not_mem_nil, or_false] at host
  rcases host with rfl | rfl | rfl | rfl | rfl | rfl | rfl | rfl <;> rfl

theorem normalize_object_isObject (ms : Members) : ∃ ms', normalize (.object ms) = .object ms' := by
  rw [normalize_object]
  simp only [nullByType, admitNull]
  repeat' split
  all_goals exact ⟨_, rfl⟩

theorem ofValue_normalize {α : Type} (result : Json → α) {k : String} {w : Json}
    (position : JsonSchema.position k = .schema) (whole : isWellFormed w = true) :
    Sub.ofValue JsonSchema.position result k (normalize w) = .one (result (normalize w)) := by
  cases w with
  | object ms =>
    obtain ⟨ms', same⟩ := normalize_object_isObject ms
    rw [same]
    simp [Sub.ofValue, position]
  | bool b => simp [Sub.ofValue, position, normalize, fold]
  | _ => cases whole

theorem value?_isSome {k : String} {w : Json} (wellFormed : WellFormedValue k w) : (value? k w).isSome = true := by
  unfold value?
  by_cases data : position k = .data
  · simp [data]
  · have same := position_eq_of_ne_data data
    cases wellFormed with
    | data position => exact absurd (same.trans position) data
    | schema position =>
      rw [same, position]
      cases w <;> rfl
    | schemas position => rw [same, position]; rfl
    | none position => rw [same, position]; rfl
    | named position => rw [same, position]; rfl

theorem ofValue_value? {α : Type} (result : Json → α) {k : String} (host : k ∈ hosts) {w : Json}
    (wellFormed : WellFormedValue k w) :
    (value? k w).map (Sub.ofValue JsonSchema.position result k) =
      some (Sub.ofValue JsonSchema.position (fun s => result (normalize s)) k w) := by
  have same := position_host host
  unfold value?
  cases wellFormed with
  | data position =>
    simp only [hosts, List.mem_cons, List.not_mem_nil, or_false] at host
    rcases host with rfl | rfl | rfl | rfl | rfl | rfl | rfl | rfl <;> cases position
  | schema position _ whole =>
    have one := ofValue_normalize result position whole
    rw [same, position]
    cases w with
    | array xs => cases whole
    | _ =>
      simp only [Option.map_some, one]
      simp [Sub.ofValue, position]
  | schemas position =>
    rw [same, position]
    simp [Sub.ofValue, position, Function.comp_def]
  | none position =>
    rw [same, position]
    simp [Sub.ofValue, position]
  | named position =>
    rw [same, position]
    simp [Sub.ofValue, position, Function.comp_def]

theorem ofValue_congr {α : Type} {f g : Json → α} {k : String} {w : Json} (wellFormed : WellFormedValue k w)
    (same : ∀ s, (s = w ∨ Json.Child s w) → isWellFormed s = true → f s = g s) :
    Sub.ofValue JsonSchema.position f k w = Sub.ofValue JsonSchema.position g k w := by
  unfold Sub.ofValue
  cases wellFormed with
  | data position => simp [position]
  | schema position _ whole =>
    rw [position]
    cases w with
    | array xs => cases whole
    | _ => simp [same _ (.inl rfl) whole]
  | @schemas xs position _ each =>
    rw [position]
    have elements : xs.map f = xs.map g :=
      List.map_congr_left fun x member => same x (.inr (.element member)) (each x member)
    simp [elements]
  | none position => simp [position]
  | @named ps position _ each =>
    rw [position]
    have members : (ps.map fun p => (p.1, f p.2)) = ps.map fun p => (p.1, g p.2) :=
      List.map_congr_left fun p member => by rw [same p.2 (.inr (.member member)) (each p member)]
    simp [members]

theorem value?_data {k : String} (data : position k = .data) : value? k = some := by
  funext w
  simp [value?, data]

theorem get?_bounds {ms : Members} {k : String} (untouched : k ∉ boundKeywords) :
    NameMap.get? (exclusiveBound "exclusiveMaximum" "maximum" (exclusiveBound "exclusiveMinimum" "minimum" ms)) k =
      NameMap.get? ms k := by
  simp only [boundKeywords, List.mem_cons, List.not_mem_nil, or_false, not_or] at untouched
  obtain ⟨low, lowFlag, high, highFlag⟩ := untouched
  rw [get?_exclusiveBound ⟨highFlag, high⟩, get?_exclusiveBound ⟨lowFlag, low⟩]

theorem get?_plainMembers {ms : Members} {k : String} (kept : k ≠ "discriminator")
    (typed : NameMap.get? ms "type" ≠ some (.string "file")) : NameMap.get? (plainMembers ms) k =
      NameMap.get? (exclusiveBound "exclusiveMaximum" "maximum" (exclusiveBound "exclusiveMinimum" "minimum" ms)) k := by
  rw [plainMembers, NameMap.get?_erase, if_neg kept, dropFileType]
  split
  next file =>
    rw [get?_bounds (by decide)] at file
    exact absurd file typed
  next => rfl

-- The members of the normal form before the flags about null go.
def normalMembers (ms : Members) : Members := ms.filterMap fun m => (value? m.1 m.2).map fun w => (m.1, w)

section
variable {ms : Members}

theorem get?_normalMembers (wellFormed : ∀ m ∈ ms, WellFormedValue m.1 m.2) (k : String) :
    NameMap.get? (normalMembers ms) k = (NameMap.get? ms k).bind (value? k) :=
  NameMap.get?_filterMap fun _ found => value?_isSome (wellFormed _ (NameMap.mem_of_get? found))

theorem get?_normalMembers_data (wellFormed : ∀ m ∈ ms, WellFormedValue m.1 m.2) {k : String}
    (data : position k = .data) : NameMap.get? (normalMembers ms) k = NameMap.get? ms k := by
  rw [get?_normalMembers wellFormed, value?_data data, Option.bind_fun_some]

-- The members of the normal form where null is not admitted.
def finalMembers (ms : Members) : Members :=
  NameMap.erase (NameMap.erase (plainMembers (normalMembers ms)) "nullable") "x-nullable"

theorem type_not_file (wellFormed : ∀ m ∈ ms, WellFormedValue m.1 m.2) :
    NameMap.get? ms "type" ≠ some (.string "file") := by
  intro file
  cases wellFormed _ (NameMap.mem_of_get? file) with
  | data _ shape => exact absurd shape (by decide)
  | schema position => cases position

theorem get?_finalMembers (wellFormed : ∀ m ∈ ms, WellFormedValue m.1 m.2) {k : String}
    (kept : k ∉ silentKeywords) :
    NameMap.get? (finalMembers ms) k = NameMap.get? (exclusiveBound "exclusiveMaximum" "maximum"
      (exclusiveBound "exclusiveMinimum" "minimum" (normalMembers ms))) k := by
  simp only [silentKeywords, List.mem_cons, List.not_mem_nil, or_false, not_or] at kept
  -- The type that stands for a file would go as well, but it is no type of JSON Schema.
  have typed : NameMap.get? (normalMembers ms) "type" ≠ some (.string "file") := by
    rw [get?_normalMembers_data wellFormed rfl]
    exact type_not_file wellFormed
  rw [finalMembers, NameMap.get?_erase, NameMap.get?_erase, if_neg kept.2.2, if_neg kept.2.1,
    get?_plainMembers kept.1 typed]

theorem get?_finalMembers_untouched (wellFormed : ∀ m ∈ ms, WellFormedValue m.1 m.2) {k : String}
    (kept : k ∉ touchedKeywords) : NameMap.get? (finalMembers ms) k = NameMap.get? (normalMembers ms) k := by
  obtain ⟨bounds, silent⟩ := not_or.mp (List.mem_append.not.mp kept)
  rw [get?_finalMembers wellFormed silent, get?_bounds bounds]

theorem finalMembers_lower (wellFormed : ∀ m ∈ ms, WellFormedValue m.1 m.2) (v : Json) :
    ((NameMap.get? (finalMembers ms) "minimum").all (fun l => holds "minimum" l v) &&
        (NameMap.get? (finalMembers ms) "exclusiveMinimum").all fun l => holds "exclusiveMinimum" l v) =
      boundHolds "exclusiveMinimum" "minimum" (NameMap.get? ms "exclusiveMinimum") (NameMap.get? ms "minimum") v := by
  have outer (k : String) (apart : k ≠ "exclusiveMaximum" ∧ k ≠ "maximum") :
      NameMap.get? (exclusiveBound "exclusiveMaximum" "maximum"
        (exclusiveBound "exclusiveMinimum" "minimum" (normalMembers ms))) k =
      NameMap.get? (exclusiveBound "exclusiveMinimum" "minimum" (normalMembers ms)) k := get?_exclusiveBound apart
  rw [get?_finalMembers wellFormed (by decide), get?_finalMembers wellFormed (by decide), outer _ (by decide),
    outer _ (by decide), boundHolds_exclusiveBound (by decide), get?_normalMembers_data wellFormed rfl,
    get?_normalMembers_data wellFormed rfl]

theorem finalMembers_upper (wellFormed : ∀ m ∈ ms, WellFormedValue m.1 m.2) (v : Json) :
    ((NameMap.get? (finalMembers ms) "maximum").all (fun l => holds "maximum" l v) &&
        (NameMap.get? (finalMembers ms) "exclusiveMaximum").all fun l => holds "exclusiveMaximum" l v) =
      boundHolds "exclusiveMaximum" "maximum" (NameMap.get? ms "exclusiveMaximum") (NameMap.get? ms "maximum") v := by
  rw [get?_finalMembers wellFormed (by decide), get?_finalMembers wellFormed (by decide),
    boundHolds_exclusiveBound (by decide), get?_exclusiveBound (by decide), get?_exclusiveBound (by decide),
    get?_normalMembers_data wellFormed rfl, get?_normalMembers_data wellFormed rfl]

theorem finalMembers_plain (wellFormed : ∀ m ∈ ms, WellFormedValue m.1 m.2) (v : Json) :
    dataHold plainKeywords (finalMembers ms) v = dataHold plainKeywords ms v := by
  have plain : ∀ k ∈ plainKeywords, k ∉ touchedKeywords ∧ position k = .data := by decide
  rw [dataHold, dataHold, Bool.eq_iff_iff, List.all_eq_true, List.all_eq_true]
  refine forall₂_congr fun k member => ?_
  obtain ⟨untouched, data⟩ := plain k member
  rw [get?_finalMembers_untouched wellFormed untouched, get?_normalMembers_data wellFormed data]

-- No data is well-formed at a keyword that has to hold subschemas, and such keywords hold them in their hosts only.
theorem confined_of_wellFormed (wellFormed : ∀ m ∈ ms, WellFormedValue m.1 m.2) : Confined ms := by
  have foreign : ∀ k ∈ foreignKeywords, JsonSchema.position k ≠ .data ∧ JsonSchema.position k ≠ .named ∧
      k ∉ hosts := by decide
  constructor
  · intro k member
    obtain ⟨notData, notNamed, elsewhere⟩ := foreign k member
    cases found : NameMap.get? ms k with
    | none => rfl
    | some w =>
      cases wellFormed _ (NameMap.mem_of_get? found) with
      | data position => exact absurd position notData
      | schema _ host => exact absurd host elsewhere
      | schemas _ host => exact absurd host elsewhere
      | none position => exact absurd position notNamed
      | named position => exact absurd position notNamed
  · intro w found
    cases wellFormed _ (NameMap.mem_of_get? found) with
    | data position => cases position
    | schema position => cases position
    | schemas position => cases position
    | none => rfl
    | named _ host => simp [hosts] at host

theorem finalMembers_confined (wellFormed : ∀ m ∈ ms, WellFormedValue m.1 m.2) : Confined (finalMembers ms) := by
  have data : ∀ k ∈ "dependentSchemas" :: foreignKeywords, k ∉ touchedKeywords ∧ position k = .data := by decide
  refine (confined_of_wellFormed wellFormed).congr fun k member => ?_
  rw [get?_finalMembers_untouched wellFormed (data k member).1, get?_normalMembers_data wellFormed (data k member).2]

theorem accepts_normalize_object (wellFormed : ∀ m ∈ ms, WellFormedValue m.1 m.2) {v : Json} (present : v ≠ .null) :
    accepts (normalize (.object ms)) v = (dataHold plainKeywords ms v &&
      boundHolds "exclusiveMinimum" "minimum" (NameMap.get? ms "exclusiveMinimum") (NameMap.get? ms "minimum") v &&
      boundHolds "exclusiveMaximum" "maximum" (NameMap.get? ms "exclusiveMaximum") (NameMap.get? ms "maximum") v &&
      subschemasHold (entries JsonSchema.position (fun s => accepts (normalize s)) ms) v) := by
  have confined := finalMembers_confined wellFormed
  have subschemas : subschemasHold (entries JsonSchema.position accepts (finalMembers ms)) =
      subschemasHold (entries JsonSchema.position (fun s => accepts (normalize s)) ms) := by
    refine subschemasHold_congr fun k host => ?_
    have untouched : ∀ k ∈ hosts, k ∉ touchedKeywords := by decide
    rw [subAt, subAt, get?_finalMembers_untouched wellFormed (untouched k host), get?_normalMembers wellFormed]
    cases found : NameMap.get? ms k with
    | none => rfl
    | some w => exact ofValue_value? accepts host (wellFormed _ (NameMap.mem_of_get? found))
  rw [normalize_object, ← normalMembers, accepts_nullByType confined present, ← finalMembers, accepts_object confined,
    dataHold_split, finalMembers_plain wellFormed, finalMembers_lower wellFormed, finalMembers_upper wellFormed,
    subschemas]

end

theorem accepts_normalize {schema : Json} (wellFormed : isWellFormed schema = true) {v : Json}
    (free : v.nullFree = true) : accepts (normalize schema) v = true ↔ direct schema v = true := by
  rw [← Bool.eq_iff_iff]
  -- For all values at once, since a subschema is asked about what lies inside the value. It is only asked about
  -- values without null, which `withoutNull` makes visible.
  induction schema using Json.inductionBelow generalizing v with
  | step schema ih =>
    cases schema with
    | object ms =>
      have values := isWellFormed_object wellFormed
      have present : v ≠ .null := by
        rintro rfl
        cases free
      have below : ∀ k ∈ hosts,
          subAt JsonSchema.position (fun s => withoutNull (accepts (normalize s))) ms k =
            subAt JsonSchema.position (fun s => withoutNull (direct s)) ms k := by
        intro k host
        rw [subAt, subAt]
        refine Option.map_congr fun w found => ofValue_congr (values _ (NameMap.mem_of_get? found)) ?_
        intro s place whole
        have child : Json.Child w (.object ms) := .member (NameMap.mem_of_get? found)
        have under : Relation.TransGen Json.Child s (.object ms) := by
          rcases place with rfl | inside
          · exact .single child
          · exact .tail (.single inside) child
        funext x
        cases inner : x.nullFree with
        | false => simp [withoutNull, inner]
        | true => rw [withoutNull, withoutNull, ih s under whole inner]
      rw [accepts_normalize_object values present, direct_object, ← subschemasHold_withoutNull free,
        subschemasHold_congr below, subschemasHold_withoutNull free]
    | bool b => cases b <;> rfl
    | _ => cases wellFormed

def positiveCount : Json :=
  .object [
    ("nullable", .bool true),
    ("properties", .object [
      ("count", .object [("exclusiveMinimum", .bool true), ("minimum", .ofInt 0), ("type", .string "integer")])])]

def counted (n : Int) : Json := .object [("count", .ofInt n)]

theorem accepts_normalize_positiveCount :
    isWellFormed positiveCount = true ∧ (counted 0).nullFree = true ∧ (counted 1).nullFree = true ∧
      ¬accepts (normalize positiveCount) (counted 0) = true ∧ accepts (normalize positiveCount) (counted 1) = true := by
  have wellFormed : isWellFormed positiveCount = true := by decide +kernel
  have none : ¬direct positiveCount (counted 0) = true := by decide +kernel
  have one : direct positiveCount (counted 1) = true := by decide +kernel
  exact ⟨wellFormed, rfl, rfl, mt (accepts_normalize wellFormed rfl).mp none, (accepts_normalize wellFormed rfl).mpr one⟩

end SchemaProbe.Normal
