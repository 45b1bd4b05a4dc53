import SchemaProbe.Proofs.Case.Slots
import SchemaProbe.Proofs.Document.Load
import SchemaProbe.Proofs.Document.Types
import SchemaProbe.Proofs.ValueType.Sample

set_option autoImplicit false

namespace SchemaProbe

-- `values` gives each parameter at most one value, in the order of the parameters: optional ones may go without, and
-- every value is accepted by the type of the parameter that it is for.
inductive Fills : List Parameter → List ParameterValue → Prop where
  | nil : Fills [] []
  | omit {p : Parameter} {ps : List Parameter} {values : List ParameterValue} (optional : p.required = false)
      (rest : Fills ps values) : Fills (p :: ps) values
  | give {p : Parameter} {ps : List Parameter} {values : List ParameterValue} {v : Json}
      (accepted : p.type.accepts v = true) (rest : Fills ps values) :
      Fills (p :: ps) (⟨p.name, p.location, v⟩ :: values)

theorem Fills.exists_value {ps : List Parameter} {values : List ParameterValue} (fills : Fills ps values)
    {p : Parameter} (member : p ∈ ps) (required : p.required = true) :
    ∃ v ∈ values, v.name = p.name ∧ v.location = p.location := by
  induction fills with
  | nil => cases member
  | «omit» optional _ ih =>
    rcases List.mem_cons.mp member with rfl | later
    · rw [required] at optional
      cases optional
    · exact ih later
  | give _ _ ih =>
    rcases List.mem_cons.mp member with rfl | later
    · exact ⟨_, List.mem_cons_self, rfl, rfl⟩
    · obtain ⟨v, within, same⟩ := ih later
      exact ⟨v, List.mem_cons_of_mem _ within, same⟩

theorem TestCase.value?_isSome_iff {c : TestCase} {name : String} {l : Location} :
    (c.value? name l).isSome = true ↔ ∃ v ∈ c.values, v.name = name ∧ v.location = l := by
  simp [value?]

def Parameter.Given (p : Parameter) : Option Json → Prop
  | some v => p.type.accepts v = true
  | none => p.required = false

namespace Slot

theorem fixedValue_accepted {settings : CaseSettings} {p : Parameter} {v : Json}
    (configured : fixedValue settings p = some v) : p.type.accepts v = true := by
  unfold fixedValue at configured
  split at configured
  · simp at configured
  · exact (Option.filter_eq_some_iff.mp configured).2

def PinFits (p : Parameter) (property : Option String) (v : Json) : Prop :=
  match property with
  | none => p.type.accepts v = true
  | some name => ∃ n ps, p.type = .object n ps ∧ ∃ q ∈ ps, q.name = name ∧ q.type.accepts v = true

def Fits (ps : List Parameter) : Slot → Prop
  | .pin i property v => ∀ p, ps[i]? = some p → PinFits p property v
  | _ => True

theorem pins_fit {i : Nat} {p : Parameter} {fixed : Option Json} {slot : Slot} (member : slot ∈ pins i p fixed) :
    ∃ property v, slot = .pin i property v ∧ PinFits p property v := by
  have accepted {t : ValueType} {v : Json} (dropped : v ∈ (Sample.representatives t).drop 1) : t.accepts v = true :=
    Sample.accepts_of_mem_representativesAt (List.mem_of_mem_drop dropped)
  unfold pins at member
  split at member
  · simp at member
  · split at member
    next n ps isObject =>
      obtain ⟨q, within, pinned⟩ := List.mem_flatMap.mp member
      obtain ⟨v, dropped, rfl⟩ := List.mem_map.mp pinned
      exact ⟨_, v, rfl, n, ps, isObject, q, within, rfl, accepted dropped⟩
    next =>
      obtain ⟨v, dropped, rfl⟩ := List.mem_map.mp member
      exact ⟨_, v, rfl, accepted dropped⟩

theorem mem_capped {settings : CaseSettings} {n : Nat} {slots : List Slot} {slot : Slot}
    (member : slot ∈ capped settings n slots) : slot ∈ slots := by
  unfold capped at member
  split at member
  · exact List.mem_of_mem_take member
  · exact member

theorem planned_fits {op : Operation} {fixed : List (Option Json)} {settings : CaseSettings} {slot : Slot}
    (member : slot ∈ planned op fixed settings) : slot.Fits op.parameters := by
  rw [planned_eq, List.mem_append, mem_leading_iff] at member
  rcases member with (rfl | ⟨rfl, -⟩ | ⟨i, p, f, stands, pinned⟩) | random
  · trivial
  · trivial
  · obtain ⟨property, v, rfl, fits⟩ := pins_fit pinned
    intro q here
    obtain ⟨own, -⟩ := List.getElem?_zip_eq_some.mp stands
    rw [own] at here
    cases here
    exact fits
  · rw [(List.mem_replicate.mp random).2]; trivial

theorem ofOperation_fits {op : Operation} {fixed : List (Option Json)} {settings : CaseSettings} {slot : Slot}
    (member : slot ∈ ofOperation op fixed settings) : slot.Fits op.parameters := by
  rcases List.mem_append.mp (mem_capped member) with plan | padding
  · exact planned_fits plan
  · rw [(List.mem_replicate.mp padding).2]; trivial

end Slot

namespace CasePlan

open Draw ValueType

theorem fixed_given {p : Parameter} (distinct : p.type.NamesDistinct) {f : Fill}
    (found : p.required = true → (Sample.fixed p.type f).isSome = true) : p.Given (Sample.fixed p.type f) := by
  cases filled : Sample.fixed p.type f with
  | some v => exact Sample.accepts_of_fixed distinct filled
  | none =>
    cases required : p.required with
    | true => simp [filled, required] at found
    | false => exact required

theorem minimalValue_given {p : Parameter} (distinct : p.type.NamesDistinct)
    (satisfiable : p.required = true → (Sample.fixed p.type .minimal).isSome = true) :
    p.Given (Slot.minimalValue p) := by
  unfold Slot.minimalValue
  split
  · exact fixed_given distinct satisfiable
  next optional => simpa [Parameter.Given] using optional

theorem accepts_set {n : Bool} {ps : List (Property ValueType)} (names : (ps.map Property.name).Nodup)
    {q : Property ValueType} (within : q ∈ ps) {v w : Json} (accepted : (object n ps).accepts v = true)
    (isObject : v.isObject = true) (value : q.type.accepts w = true) :
    (object n ps).accepts (v.set q.name w) = true := by
  cases v with
  | object ms =>
    rw [Json.set, accepts_members] at *
    intro p member
    refine (accepted p member).insert fun same => ?_
    rwa [eq_of_name_eq names member within same]
  | _ => simp [Json.isObject] at isObject

theorem fixed_isObject {n : Bool} {ps : List (Property ValueType)} {f : Fill} {v : Json}
    (filled : Sample.fixed (.object n ps) f = some v) : v.isObject = true := by
  obtain ⟨ms, -, rfl⟩ := Option.map_eq_some_iff.mp filled
  rfl

theorem pinned_given {p : Parameter} (distinct : p.type.NamesDistinct)
    (satisfiable : p.required = true → (Sample.fixed p.type .minimal).isSome = true) {property : Option String}
    {w : Json} (fits : Slot.PinFits p property w) : p.Given (pinned p property w) := by
  cases property with
  | none => exact fits
  | some name =>
    -- The pinned object is not filtered again: it is accepted as the minimal one is, but for one member.
    obtain ⟨n, ps, isObject, q, within, rfl, value⟩ := fits
    have given := fixed_given distinct satisfiable
    unfold pinned
    cases filled : Sample.fixed p.type .minimal with
    | none => simpa [filled] using given
    | some v =>
      rw [isObject] at distinct filled
      cases distinct with | object names each =>
      have accepted := accepts_set names within (Sample.accepts_of_fixed (.object names each) filled)
        (fixed_isObject filled) value
      simpa [Parameter.Given, isObject] using accepted

theorem draw_given {p : Parameter} {slot : Slot} {i : Nat} (distinct : p.type.NamesDistinct)
    (satisfiable : p.required = true → (Sample.fixed p.type .minimal).isSome = true)
    (fits : ∀ property v, slot = .pin i property v → Slot.PinFits p property v) : (draw slot i p).Yields p.Given := by
  cases slot with
  | minimal => exact yields_pure (minimalValue_given distinct satisfiable)
  | full => exact yields_pure (fixed_given distinct fun required => Sample.fixed_full_isSome (satisfiable required))
  | pin j property v =>
    refine yields_pure ?_
    -- The other parameters stay minimal, so that only the pinned one needs the pin to fit.
    split
    next same => subst same; exact pinned_given distinct satisfiable (fits property v rfl)
    next => exact minimalValue_given distinct satisfiable
  | random =>
    have chosen : (if p.required then pure true else coin).Yields fun wanted =>
        wanted = true ∨ p.required = false := by
      split
      next => exact yields_pure (.inl rfl)
      next optional => exact fun _ _ _ _ => .inr (by simpa using optional)
    rw [draw_random]
    refine chosen.bind fun wanted reason => ?_
    split
    next =>
      refine (Sample.fill_random_accepted p.type).bind fun r accepted => yields_pure ?_
      cases r with
      | none => exact minimalValue_given distinct satisfiable
      | some v => exact accepted v rfl
    next omitted => exact yields_pure (reason.resolve_left omitted)

theorem drawValues_fills {slot : Slot} {i : Nat} {ps : List (Parameter × Option Json)}
    (configured : ∀ p v, (p, some v) ∈ ps → p.type.accepts v = true)
    (drawn : ∀ k p, ps[k]? = some (p, none) → (draw slot (i + k) p).Yields p.Given) :
    (drawValues slot i ps).Yields (Fills (ps.map Prod.fst)) := by
  -- Over the parameters that are left, the first of which is the `i`-th of all.
  induction ps generalizing i with
  | nil => exact yields_pure .nil
  | cons first ps ih =>
    obtain ⟨p, fixed⟩ := first
    have later := ih (i := i + 1) (fun p v member => configured p v (List.mem_cons_of_mem _ member))
      (fun k p stands => by simpa [Nat.add_assoc, Nat.add_comm 1] using drawn (k + 1) p (by simpa using stands))
    rw [drawValues_cons]
    refine Yields.bind (P := p.Given) ?_ fun v given => later.bind fun values fills => yields_pure ?_
    · cases fixed with
      | some v => exact yields_pure (configured p v List.mem_cons_self)
      | none => exact drawn 0 p rfl
    · cases v with
      | some v => exact .give given fills
      | none => exact .omit given fills

theorem satisfiable_of_ofOperation {op : Operation} {settings : CaseSettings}
    (possible : (ofOperation op settings).unsatisfiable = none) {p : Parameter} (member : p ∈ op.parameters)
    (generated : Slot.fixedValue settings p = none) (required : p.required = true) :
    (Sample.fixed p.type .minimal).isSome = true := by
  have paired : (p, Slot.fixedValue settings p) ∈ op.parameters.zip (ofOperation op settings).fixed := by
    rw [zip_fixed]
    exact List.mem_map_of_mem member
  have fine := List.find?_eq_none.mp (Option.map_eq_none_iff.mp possible) _ paired
  simpa [Slot.isUnsatisfiable, generated, required, Option.isSome_iff_ne_none] using fine

theorem slot_of_ofOperation {op : Operation} {settings : CaseSettings} {i : Nat} {slot : Slot}
    (stands : (ofOperation op settings).slots[i]? = some slot) :
    (ofOperation op settings).unsatisfiable = none ∧ slot.Fits op.parameters := by
  rw [ofOperation_slots] at stands
  cases possible : (ofOperation op settings).unsatisfiable with
  | some u => simp [possible] at stands
  | none =>
    rw [possible] at stands
    have within : slot ∈ Slot.ofOperation op (op.parameters.map (Slot.fixedValue settings)) settings :=
      List.mem_of_getElem? (by simpa using stands)
    exact ⟨rfl, Slot.ofOperation_fits within⟩

theorem drawCase_fills {op : Operation} (distinct : ∀ p ∈ op.parameters, p.type.NamesDistinct)
    {settings : CaseSettings} {i : Nat} {slot : Slot} (stands : (ofOperation op settings).slots[i]? = some slot) :
    ((ofOperation op settings).drawCase i slot).Yields fun c => Fills op.parameters c.values := by
  obtain ⟨possible, fits⟩ := slot_of_ofOperation stands
  have configured : ∀ p v, (p, some v) ∈ op.parameters.map (fun p => (p, Slot.fixedValue settings p)) →
      p.type.accepts v = true := by
    intro p v paired
    obtain ⟨q, -, same⟩ := List.mem_map.mp paired
    obtain ⟨rfl, fixed⟩ := Prod.mk.inj same
    exact Slot.fixedValue_accepted fixed
  have drawn : ∀ k p, (op.parameters.map fun p => (p, Slot.fixedValue settings p))[k]? = some (p, none) →
      (draw slot (0 + k) p).Yields p.Given := by
    intro k p here
    rw [List.getElem?_map] at here
    obtain ⟨q, own, same⟩ := Option.map_eq_some_iff.mp here
    obtain ⟨rfl, generated⟩ := Prod.mk.inj same
    have member := List.mem_of_getElem? own
    refine draw_given (distinct q member) (satisfiable_of_ofOperation possible member generated) ?_
    rintro property v rfl
    exact fits q (by simpa using own)
  have filled := drawValues_fills (i := 0) configured drawn
  rw [List.map_map, show Prod.fst ∘ (fun p => (p, Slot.fixedValue settings p)) = id from rfl, List.map_id] at filled
  refine Yields.after fun id => Yields.bind (P := Fills op.parameters) ?_ fun values fills => yields_pure fills
  rwa [ofOperation_operation, zip_fixed]

theorem case?_fills {op : Operation} (distinct : ∀ p ∈ op.parameters, p.type.NamesDistinct) {settings : CaseSettings}
    {i : Nat} {c : TestCase} (drawn : (ofOperation op settings).case? i = some (.ok c)) :
    Fills op.parameters c.values := by
  obtain ⟨slot, stands, given⟩ := exists_slot_of_case? drawn
  exact given _ (drawCase_fills distinct stands)

theorem values_fill {doc : Json} (document : doc.Ordered) {api : Api} (read : Document.read doc = .ok api)
    {op : Operation} (member : op ∈ api.operations) (settings : CaseSettings) {i : Nat} {c : TestCase}
    (drawn : (ofOperation op settings).case? i = some (.ok c)) : Fills op.parameters c.values := by
  obtain ⟨slot, stands, done⟩ := Option.map_eq_some_iff.mp drawn
  obtain ⟨⟨c, rest⟩, run, rfl⟩ := map_eq_ok_iff.mp done
  exact drawCase_fills (Document.read_namesDistinct document read member) stands _ c rest run

theorem items_values_fill : ∃ api, Document.read Document.items = .ok api ∧ ∃ op ∈ api.operations, ∃ c,
    (ofOperation op {}).case? 1 = some (.ok c) ∧ Fills op.parameters c.values := by
  have run : (match Document.read Document.items with
      | .ok api => api.operations.any fun op => ((ofOperation op {}).case? 1).any fun c => c.toOption.isSome
      | .error _ => false) = true := by decide +kernel
  split at run
  next api read =>
    obtain ⟨op, member, some⟩ := List.any_eq_true.mp run
    obtain ⟨drawn, here, fine⟩ := (Option.any_eq_true _ _).mp some
    cases drawn with
    | ok c => exact ⟨api, read, op, member, c, here, values_fill Document.items_ordered read member {} here⟩
    | error fault => cases fine
  next => simp at run

end CasePlan

end SchemaProbe
