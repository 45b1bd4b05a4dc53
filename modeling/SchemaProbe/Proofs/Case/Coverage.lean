import SchemaProbe.Proofs.Case.Values
import SchemaProbe.Proofs.Document.Keys
import SchemaProbe.Proofs.Document.WellFormed

set_option autoImplicit false

namespace SchemaProbe

def placed (given : List (Parameter × Option Json)) : List ParameterValue :=
  given.filterMap fun (p, v) => v.map fun v => ⟨p.name, p.location, v⟩

theorem placed_cons (p : Parameter) (v : Option Json) (given : List (Parameter × Option Json)) :
    placed ((p, v) :: given) = match v with
      | some v => ⟨p.name, p.location, v⟩ :: placed given
      | none => placed given := by
  cases v <;> rfl

theorem value?_placed {given : List (Parameter × Option Json)} {p : Parameter} {v : Option Json}
    (distinct : (given.map fun g => g.1.key).Nodup) (member : (p, v) ∈ given) :
    ((placed given).find? fun w => w.name == p.name && w.location == p.location).map (·.value) = v := by
  induction given with
  | nil => cases member
  | cons first rest ih =>
    obtain ⟨q, w⟩ := first
    obtain ⟨fresh, others⟩ := List.nodup_cons.mp distinct
    rw [placed_cons]
    rcases List.mem_cons.mp member with same | later
    · obtain ⟨rfl, rfl⟩ := Prod.mk.inj same
      cases v with
      | some v => simp
      | none =>
        rw [Option.map_eq_none_iff, List.find?_eq_none]
        intro x within found
        obtain ⟨⟨q, y⟩, listed, given⟩ := List.mem_filterMap.mp within
        obtain ⟨z, -, rfl⟩ := Option.map_eq_some_iff.mp given
        exact fresh (List.mem_map.mpr ⟨_, listed, by simpa [Parameter.key] using found⟩)
    · have missed : (q.name == p.name && q.location == p.location) = false := by
        rw [Bool.eq_false_iff]
        intro found
        have same : q.key = p.key := by simpa [Parameter.key] using found
        exact fresh (List.mem_map.mpr ⟨_, later, same.symm⟩)
      cases w with
      | some w => simpa [missed] using ih others later
      | none => exact ih others later

namespace TestCase

-- `given` tells for each parameter in turn what the case gives it.
def Assigns (c : TestCase) (given : List (Option Json)) : Prop :=
  given.length = c.operation.parameters.length ∧ c.values = placed (c.operation.parameters.zip given)

theorem Assigns.value? {c : TestCase} {given : List (Option Json)} (assigns : c.Assigns given) {k : Nat}
    {p : Parameter} {v : Option Json} (distinct : (c.operation.parameters.map Parameter.key).Nodup)
    (here : c.operation.parameters[k]? = some p) (stands : given[k]? = some v) :
    c.value? p.name p.location = v := by
  obtain ⟨length, values⟩ := assigns
  rw [TestCase.value?, values]
  refine value?_placed ?_ (List.mem_of_getElem? (List.getElem?_zip_eq_some.mpr ⟨here, stands⟩))
  have keys : (c.operation.parameters.zip given).map (fun g => g.1.key) =
      ((c.operation.parameters.zip given).map Prod.fst).map Parameter.key := by
    rw [List.map_map]
    rfl
  rwa [keys, List.map_fst_zip (by omega)]

end TestCase

namespace Slot

def given (slot : Slot) (i : Nat) (p : Parameter) : Option Json :=
  match slot with
  | .minimal | .random => minimalValue p
  | .full => Sample.fixed p.type .full
  | .pin j property v => if j = i then CasePlan.pinned p property v else minimalValue p

def assignment (slot : Slot) (settings : CaseSettings) (ps : List Parameter) : List (Option Json) :=
  ps.zipIdx.map fun (p, i) => (fixedValue settings p).or (slot.given i p)

theorem getElem?_assignment {slot : Slot} {settings : CaseSettings} {ps : List Parameter} {k : Nat} {p : Parameter}
    (here : ps[k]? = some p) :
    (slot.assignment settings ps)[k]? = some ((fixedValue settings p).or (slot.given k p)) := by
  simp [assignment, here]

theorem zip_assignment (slot : Slot) (settings : CaseSettings) (ps : List Parameter) :
    ps.zip (slot.assignment settings ps) =
      ps.zipIdx.map fun (p, i) => (p, (fixedValue settings p).or (slot.given i p)) := by
  calc ps.zip (slot.assignment settings ps)
    _ = (ps.zipIdx.map Prod.fst).zip (slot.assignment settings ps) := by rw [List.zipIdx_map_fst]
    _ = _ := List.zip_map'

theorem length_assignment (slot : Slot) (settings : CaseSettings) (ps : List Parameter) :
    (slot.assignment settings ps).length = ps.length := by
  simp [assignment]

theorem pins_plain {i : Nat} {p : Parameter} (plain : ∀ n ps, p.type ≠ .object n ps) :
    pins i p none = ((Sample.representatives p.type).drop 1).map (.pin i none) := by
  unfold pins
  cases type : p.type with
  | object n ps => exact absurd type (plain n ps)
  | _ => rfl

-- Written text is never read as an object.
theorem fixedValue_object {settings : CaseSettings} {p : Parameter} {n : Bool} {ps : List (Property ValueType)}
    (object : p.type = .object n ps) : fixedValue settings p = none := by
  unfold fixedValue
  split
  · rfl
  · rw [Option.filter_eq_none_iff]
    intro v read
    obtain ⟨text, -, rfl⟩ := Option.map_eq_some_iff.mp read
    simp [object, ValueType.read, ValueType.accepts, Json.object?]

theorem eq_of_kind_eq {slot other : Slot} (named : slot = .minimal ∨ slot = .full) (same : other.kind = slot.kind) :
    other = slot ∧ other.kind ≠ .random := by
  rcases named with rfl | rfl <;> cases other <;> simp_all [kind]

theorem kind_of_mem_leading {op : Operation} {fixed : List (Option Json)} {slot : Slot}
    (member : slot ∈ leading op fixed) : slot.kind ≠ .random := by
  rcases mem_leading_iff.mp member with rfl | ⟨rfl, -⟩ | ⟨i, p, f, -, pinned⟩
  · simp [kind]
  · simp [kind]
  · obtain ⟨property, v, rfl, -⟩ := pins_fit pinned
    simp [kind]

end Slot

namespace CasePlan

open Draw

theorem drawValues_settled {slot : Slot} (settled : slot.kind ≠ .random) (i : Nat)
    (ps : List (Parameter × Option Json)) : drawValues slot i ps =
      pure (placed ((ps.zipIdx i).map fun ((p, fixed), j) => (p, fixed.or (slot.given j p)))) := by
  have drawn (i : Nat) (p : Parameter) : draw slot i p = pure (slot.given i p) := by
    cases slot with
    | minimal | full | pin => rfl
    | random => exact absurd rfl settled
  induction ps generalizing i with
  | nil => rfl
  | cons first ps ih =>
    obtain ⟨p, fixed⟩ := first
    rw [drawValues_cons, drawn, ih, List.zipIdx_cons, List.map_cons, placed_cons]
    cases fixed <;> rfl

section
variable {op : Operation} {settings : CaseSettings}

theorem case?_settled {i : Nat} {slot : Slot} (stands : (ofOperation op settings).slots[i]? = some slot)
    (settled : slot.kind ≠ .random) : ∃ c, (ofOperation op settings).case? i = some (.ok c) ∧ c.kind = slot.kind ∧
      c.Assigns (slot.assignment settings op.parameters) := by
  have values : drawValues slot 0 (op.parameters.zip (ofOperation op settings).fixed) =
      pure (placed (op.parameters.zip (slot.assignment settings op.parameters))) := by
    rw [zip_fixed, drawValues_settled settled, Slot.zip_assignment, List.zipIdx_map, List.map_map]
    rfl
  refine exists_case? stands ?_ ?_
  · refine word_succeeds.bind fun id => Succeeds.bind ?_ fun given => succeeds_pure _
    rw [ofOperation_operation, values]
    exact succeeds_pure _
  · refine Yields.after fun id => Yields.bind
      (P := fun given => given = placed (op.parameters.zip (slot.assignment settings op.parameters))) ?_ ?_
    · rw [ofOperation_operation, values]
      exact yields_pure rfl
    · rintro given rfl
      exact yields_pure ⟨rfl, Slot.length_assignment slot settings op.parameters, rfl⟩

-- What the slot of the case makes for the `k`-th parameter, if anything.
def Gives (op : Operation) (settings : CaseSettings) (c : TestCase) (k : Nat) (v : Option Json) : Prop :=
  ∃ (i : Nat) (slot : Slot), (ofOperation op settings).slots[i]? = some slot ∧
    (ofOperation op settings).case? i = some (.ok c) ∧ c.Assigns (slot.assignment settings op.parameters) ∧
      (slot.assignment settings op.parameters)[k]? = some v

-- The case is given, and so are the cases before it: whoever asks for one after the other comes to it.
def Reaches (plan : CasePlan) (c : TestCase) : Prop :=
  ∃ i, plan.case? i = some (.ok c) ∧ ∀ j < i, ∃ before, plan.case? j = some (.ok before)

theorem Gives.value? {c : TestCase} {k : Nat} {p : Parameter} {v : Option Json} (gives : Gives op settings c k v)
    (distinct : (op.parameters.map Parameter.key).Nodup) (here : op.parameters[k]? = some p) :
    c.value? p.name p.location = v := by
  obtain ⟨i, slot, -, drawn, assigns, stands⟩ := gives
  have own : c.operation = op := (case?_eq_some_ok drawn).1
  exact assigns.value? (own ▸ distinct) (own ▸ here) stands

theorem Reaches.gives {c : TestCase} (reaches : (ofOperation op settings).Reaches c) {slot : Slot}
    (named : slot = .minimal ∨ slot = .full) (kind : c.kind = slot.kind) {k : Nat} {p : Parameter}
    (here : op.parameters[k]? = some p) (generated : Slot.fixedValue settings p = none) :
    Gives op settings c k (slot.given k p) := by
  obtain ⟨i, drawn, -⟩ := reaches
  obtain ⟨own, stands, told⟩ := exists_slot_of_case? drawn
  have same := told (fun c => c.kind = own.kind) (Yields.after fun _ => Yields.after fun _ => yields_pure rfl)
  obtain ⟨rfl, settled⟩ := Slot.eq_of_kind_eq named (same.symm.trans kind)
  obtain ⟨c, given, -, assigns⟩ := case?_settled stands settled
  cases drawn.symm.trans given
  exact ⟨i, _, stands, drawn, assigns, by rw [Slot.getElem?_assignment here, generated, Option.none_or]⟩

theorem full_mem_leading {p : Parameter} (member : p ∈ op.parameters) (generated : Slot.fixedValue settings p = none)
    (optional : p.required = false ∨ p.type.hasOptional = true) :
    Slot.full ∈ Slot.leading op (ofOperation op settings).fixed := by
  refine Slot.mem_leading_iff.mpr (.inr (.inl ⟨rfl, p, none, ?_, by simpa [Slot.hasOptional] using optional⟩))
  rw [zip_fixed, ← generated]
  exact List.mem_map_of_mem member

theorem pin_mem_leading {k : Nat} {p : Parameter} (here : op.parameters[k]? = some p) {slot : Slot}
    (pinned : slot ∈ Slot.pins k p (Slot.fixedValue settings p)) :
    slot ∈ Slot.leading op (ofOperation op settings).fixed := by
  refine Slot.mem_leading_iff.mpr (.inr (.inr ⟨k, p, _, ?_, pinned⟩))
  rw [zip_fixed, List.getElem?_map, here, Option.map_some]

section
variable (uncapped : settings.maxCases = none) (possible : (ofOperation op settings).unsatisfiable = none)
include uncapped possible

theorem slots_leading {i : Nat} {slot : Slot}
    (here : (Slot.leading op (ofOperation op settings).fixed)[i]? = some slot) :
    (ofOperation op settings).slots[i]? = some slot := by
  have all : (ofOperation op settings).slots = (Slot.leading op (ofOperation op settings).fixed ++
      List.replicate (Slot.randomCount op (ofOperation op settings).fixed settings) Slot.random).toArray := by
    rw [ofOperation_slots, possible]
    exact congrArg List.toArray (Slot.ofOperation_of_uncapped op _ settings uncapped)
  rw [all, List.getElem?_toArray, List.getElem?_append_left (List.getElem?_eq_some_iff.mp here).1, here]

theorem reaches_leading {slot : Slot} (member : slot ∈ Slot.leading op (ofOperation op settings).fixed) :
    ∃ c, (ofOperation op settings).Reaches c ∧ c.kind = slot.kind ∧
      ∀ k p, op.parameters[k]? = some p → Slot.fixedValue settings p = none →
        Gives op settings c k (slot.given k p) := by
  obtain ⟨i, here⟩ := List.mem_iff_getElem?.mp member
  have stands := slots_leading uncapped possible here
  obtain ⟨c, drawn, kind, assigns⟩ := case?_settled stands (Slot.kind_of_mem_leading member)
  refine ⟨c, ⟨i, drawn, fun j earlier => ?_⟩, kind, fun k p listed generated =>
    ⟨i, slot, stands, drawn, assigns, ?_⟩⟩
  · have within := (List.getElem?_eq_some_iff.mp here).1
    have before := List.getElem?_eq_getElem (Nat.lt_trans earlier within)
    obtain ⟨b, given, -⟩ := case?_settled (slots_leading uncapped possible before)
      (Slot.kind_of_mem_leading (List.mem_of_getElem? before))
    exact ⟨b, given⟩
  · rw [Slot.getElem?_assignment listed, generated, Option.none_or]

theorem representative_given {k : Nat} {p : Parameter} (here : op.parameters[k]? = some p)
    (generated : Slot.fixedValue settings p = none) (plain : ∀ n ps, p.type ≠ .object n ps) {r : Json}
    (member : r ∈ Sample.representatives p.type) :
    ∃ c, (ofOperation op settings).Reaches c ∧ Gives op settings c k (some r) := by
  have given {slot : Slot} (listed : slot ∈ Slot.leading op (ofOperation op settings).fixed)
      (same : slot.given k p = some r) :
      ∃ c, (ofOperation op settings).Reaches c ∧ Gives op settings c k (some r) := by
    obtain ⟨c, reaches, -, gives⟩ := reaches_leading uncapped possible listed
    exact ⟨c, reaches, same ▸ gives k p here generated⟩
  rcases Sample.head_or_later member with first | later
  · have filled (f : Fill) : Sample.fixed p.type f = some r := by rw [Sample.fixed_plain plain, first]
    cases required : p.required with
    | true =>
      have minimal : Slot.minimal.given k p = some r := by simp [Slot.given, Slot.minimalValue, required, filled]
      exact given (Slot.mem_leading_iff.mpr (.inl rfl)) minimal
    | false => exact given (full_mem_leading (List.mem_of_getElem? here) generated (.inl required)) (filled .full)
  · have pinned : Slot.pin k none r ∈ Slot.pins k p (Slot.fixedValue settings p) := by
      rw [generated, Slot.pins_plain plain]
      exact List.mem_map_of_mem later
    exact given (pin_mem_leading here pinned) (if_pos rfl)

theorem property_representative_given {k : Nat} {p : Parameter} (here : op.parameters[k]? = some p)
    (generated : Slot.fixedValue settings p = none) {n : Bool} {ps : List (Property ValueType)}
    (object : p.type = .object n ps) (names : (ps.map Property.name).Nodup)
    (found : (Sample.fixed p.type .minimal).isSome = true) {q : Property ValueType} (within : q ∈ ps)
    (scalar : q.type.isScalar = true) {r : Json} (member : r ∈ Sample.representatives q.type) :
    ∃ c ms, (ofOperation op settings).Reaches c ∧ Gives op settings c k (some (.object ms)) ∧
      NameMap.get? ms q.name = some r := by
  have given {slot : Slot} (listed : slot ∈ Slot.leading op (ofOperation op settings).fixed) {ms : Members}
      (same : slot.given k p = some (.object ms)) (has : NameMap.get? ms q.name = some r) :
      ∃ c ms, (ofOperation op settings).Reaches c ∧ Gives op settings c k (some (.object ms)) ∧
        NameMap.get? ms q.name = some r := by
    obtain ⟨c, reaches, -, gives⟩ := reaches_leading uncapped possible listed
    exact ⟨c, ms, reaches, same ▸ gives k p here generated, has⟩
  have filled {f : Fill} (some : (Sample.fixed p.type f).isSome = true) :
      ∃ ms, Sample.fixed p.type f = .some (.object ms) ∧
        ((Sample.representatives q.type).head? = .some r → q.required = true ∨ f = .full →
          NameMap.get? ms q.name = .some r) := by
    rw [object] at some ⊢
    obtain ⟨ms, members⟩ := Option.isSome_iff_exists.mp (Option.isSome_map ▸ some)
    refine ⟨ms, by rw [Sample.fixed, members, Option.map_some], fun first wanted => ?_⟩
    exact Sample.get?_fixedMembers names members within wanted ((Sample.fixedWithin_scalar scalar).trans first)
  rcases Sample.head_or_later member with first | later
  · -- The full case has it wherever there is one; without one the parameter and all its properties are required.
    by_cases optional : p.required = false ∨ p.type.hasOptional = true
    · obtain ⟨ms, same, has⟩ := filled (Sample.fixed_full_isSome found)
      exact given (full_mem_leading (List.mem_of_getElem? here) generated optional) same (has first (.inr rfl))
    · obtain ⟨required, all⟩ := not_or.mp optional
      have needed : q.required = true := by
        simp only [object, ValueType.hasOptional, ValueType.properties, List.any_eq_true, not_exists, not_and] at all
        simpa using all q within
      obtain ⟨ms, same, has⟩ := filled found
      have minimal : Slot.minimal.given k p = some (.object ms) := by
        simp [Slot.given, Slot.minimalValue, same, (Bool.not_eq_false _).mp required]
      exact given (Slot.mem_leading_iff.mpr (.inl rfl)) minimal (has first (.inl needed))
  · obtain ⟨ms, same, -⟩ := filled found
    have pinned : Slot.pin k (some q.name) r ∈ Slot.pins k p (Slot.fixedValue settings p) := by
      simp only [Slot.pins, generated, object]
      exact List.mem_flatMap.mpr ⟨q, within, List.mem_map_of_mem later⟩
    have set : (Slot.pin k (some q.name) r).given k p = some (.object (NameMap.insert ms q.name r)) := by
      simp [Slot.given, CasePlan.pinned, same, Json.set]
    exact given (pin_mem_leading here pinned) set (by simp [NameMap.get?_insert])

end

end

/-- For every operation of a document, as long as nothing caps its cases: each representative of a parameter that is
generated and no object is the value of the parameter in some case, each representative of a scalar property stands in
the object of some case, optional parameters are left out of the minimal case, and the full case has every one of them
that can be filled. -/
theorem representatives_covered {doc : Json} (document : doc.Ordered) {api : Api} (read : Document.read doc = .ok api)
    {op : Operation} (member : op ∈ api.operations) {settings : CaseSettings} (uncapped : settings.maxCases = none)
    (possible : (ofOperation op settings).unsatisfiable = none) :
    (∀ k p, op.parameters[k]? = some p → Slot.fixedValue settings p = none → (∀ n ps, p.type ≠ .object n ps) →
      ∀ r ∈ Sample.representatives p.type,
        ∃ c, (ofOperation op settings).Reaches c ∧ Gives op settings c k (some r)) ∧
    (∀ k p n ps, op.parameters[k]? = some p → p.type = .object n ps →
      (Sample.fixed p.type .minimal).isSome = true → ∀ q ∈ ps, q.type.isScalar = true →
        ∀ r ∈ Sample.representatives q.type, ∃ c ms, (ofOperation op settings).Reaches c ∧
          Gives op settings c k (some (.object ms)) ∧ NameMap.get? ms q.name = some r) ∧
    (∃ c, (ofOperation op settings).Reaches c ∧ c.kind = .minimal) ∧
    (∀ k p, op.parameters[k]? = some p → p.required = false →
      (∀ c, (ofOperation op settings).Reaches c → c.kind = .minimal → Gives op settings c k none) ∧
      (∃ c, (ofOperation op settings).Reaches c ∧ c.kind = .full) ∧
      ∀ c, (ofOperation op settings).Reaches c → c.kind = .full →
        Gives op settings c k (Sample.fixed p.type .full)) ∧
    ((op.parameters.map Parameter.key).Nodup → ∀ c, (ofOperation op settings).Reaches c → ∀ given,
      c.Assigns given → ∀ (k : Nat) p v, op.parameters[k]? = some p → given[k]? = some v →
        c.value? p.name p.location = v) := by
  refine ⟨fun k p here generated plain r => representative_given uncapped possible here generated plain,
    fun k p n ps here object found q within scalar r => ?_, ?_, fun k p here optional => ?_,
    fun distinct c reaches given assigns k p v here stands => ?_⟩
  · have names := Document.read_namesDistinct document read member p (List.mem_of_getElem? here)
    rw [object] at names
    cases names with | object names _ =>
    exact property_representative_given uncapped possible here (Slot.fixedValue_object object) object names found within
      scalar
  · obtain ⟨c, reaches, kind, -⟩ := reaches_leading uncapped possible (Slot.mem_leading_iff.mpr (.inl rfl))
    exact ⟨c, reaches, kind⟩
  · -- Path parameters are required, and no others are configured.
    have generated : Slot.fixedValue settings p = none := by
      have elsewhere : p.location ≠ .path := fun path => by
        have required := (Document.read_wellFormed read member).required p (List.mem_of_getElem? here) path
        rw [required] at optional
        cases optional
      simp [Slot.fixedValue, elsewhere]
    refine ⟨fun c reaches kind => ?_, ?_, fun c reaches kind => ?_⟩
    · have gives := reaches.gives (.inl rfl) kind here generated
      simpa [Slot.given, Slot.minimalValue, optional] using gives
    · obtain ⟨c, reaches, kind, -⟩ := reaches_leading uncapped possible
        (full_mem_leading (List.mem_of_getElem? here) generated (.inl optional))
      exact ⟨c, reaches, kind⟩
    · exact reaches.gives (.inr rfl) kind here generated
  · obtain ⟨i, drawn, -⟩ := reaches
    have own : c.operation = op := (case?_eq_some_ok drawn).1
    exact assigns.value? (own ▸ distinct) (own ▸ here) stands

def orders : Json :=
  .object [
    ("openapi", .string "3.0.0"),
    ("paths", .object [
      ("/orders", .object [
        ("post", .object [
          ("parameters", .array [
            .object [
              ("in", .string "query"),
              ("name", .string "page"),
              ("schema", .object [("maximum", .ofInt 9), ("minimum", .ofInt 2), ("type", .string "integer")])]]),
          ("requestBody", .object [
            ("content", .object [
              ("application/json", .object [
                ("schema", .object [
                  ("properties", .object [("kind", .object [("enum", .array [.string "new", .string "old"])])]),
                  ("type", .string "object")])])]),
            ("required", .bool true)]),
          ("responses", .object [("200", .object [("description", .string "An order.")])])])])])]

theorem orders_ordered : orders.Ordered := by
  decide +kernel

theorem orders_representatives_covered : ∃ api, Document.read orders = .ok api ∧ ∃ op ∈ api.operations,
    (ofOperation op {}).unsatisfiable = none ∧
    (∃ c page, (ofOperation op {}).Reaches c ∧ c.value? "page" .query = some page ∧ page.int? = some 9) ∧
    (∃ c, (ofOperation op {}).Reaches c ∧ c.value? "page" .query = none) ∧
    ∃ c ms, (ofOperation op {}).Reaches c ∧ c.value? "body" .body = some (.object ms) ∧
      (NameMap.get? ms "kind").any (fun kind => kind.string? == some "old") = true := by
  have run : (match Document.read orders with
      | .ok api => api.operations.any fun op => (ofOperation op {}).unsatisfiable.isNone &&
          op.parameters.map Parameter.key == [("page", .query), ("body", .body)] &&
          (op.parameters[0]?.any fun p => !p.required && p.type.isScalar &&
            (Sample.representatives p.type).any fun r => r.int? == some 9) &&
          op.parameters[1]?.any fun p => (Sample.fixed p.type .minimal).isSome && p.type.name == "object" &&
            p.type.properties.any fun q => q.name == "kind" && q.type.isScalar &&
              (Sample.representatives q.type).any fun r => r.string? == some "old"
      | .error _ => false) = true := by decide +kernel
  split at run
  next api read =>
    obtain ⟨op, member, shown⟩ := List.any_eq_true.mp run
    simp only [Bool.and_eq_true, Option.isNone_iff_eq_none, beq_iff_eq, Option.any_eq_true, List.any_eq_true,
      Bool.not_eq_true'] at shown
    obtain ⟨⟨⟨possible, keys⟩, p, first, ⟨optional, scalar⟩, r, tried, nine⟩, b, second, ⟨found, object⟩, q, within,
      ⟨named, plain⟩, r', tried', old⟩ := shown
    have key {k : Nat} {p : Parameter} (here : op.parameters[k]? = some p) :
        [("page", Location.query), ("body", .body)][k]? = some (p.name, p.location) := by
      rw [← keys, List.getElem?_map, here]
      rfl
    obtain ⟨page, query⟩ := Prod.mk.inj (Option.some.inj (key first))
    obtain ⟨body, inBody⟩ := Prod.mk.inj (Option.some.inj (key second))
    have generated : Slot.fixedValue {} p = none := by simp [Slot.fixedValue, ← query]
    obtain ⟨given, inObject, ⟨c₀, reaches₀, minimal⟩, left, values⟩ :=
      representatives_covered orders_ordered read member (show CaseSettings.maxCases {} = none from rfl) possible
    have value {c : TestCase} (reaches : (ofOperation op {}).Reaches c) {k : Nat} {p : Parameter} {v : Option Json}
        (here : op.parameters[k]? = some p) (gives : Gives op {} c k v) : c.value? p.name p.location = v := by
      obtain ⟨i, slot, -, -, assigns, stands⟩ := gives
      exact values (keys ▸ by decide) c reaches _ assigns k p v here stands
    refine ⟨api, read, op, member, possible, ?_, ?_, ?_⟩
    · have noObject : ∀ n ps, p.type ≠ .object n ps := fun n ps same => by simp [same, ValueType.isScalar] at scalar
      obtain ⟨c, reaches, gives⟩ := given 0 p first generated noObject r tried
      exact ⟨c, r, reaches, page ▸ query ▸ value reaches first gives, nine⟩
    · exact ⟨c₀, reaches₀, page ▸ query ▸
        value reaches₀ first ((left 0 p first optional).1 c₀ reaches₀ minimal)⟩
    · cases type : b.type with
      | object n ps =>
        rw [type] at within
        obtain ⟨c, ms, reaches, gives, has⟩ := inObject 1 b n ps second type found q within plain r' tried'
        exact ⟨c, ms, reaches, body ▸ inBody ▸ value reaches second gives, by simp [← named, has, old]⟩
      | _ => simp [type, ValueType.name] at object
  next => cases run

end CasePlan

end SchemaProbe
