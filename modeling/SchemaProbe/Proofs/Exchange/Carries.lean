import SchemaProbe.Proofs.Exchange.Headers
import SchemaProbe.Proofs.Url.Query

set_option autoImplicit false

namespace SchemaProbe

def Headers.names (h : Headers) : List String := h.map Prod.fst

def Request.Carries (r : Request) (p : Parameter) : Prop :=
  match p.location with
  | .query => Text.bytes p.name ∈ r.url.queryNames
  | .form => ∃ pairs, r.body = .form pairs ∧ p.name ∈ pairs.map Prod.fst
  | .header => ∃ n, Headers.name? p.name = some n ∧ n ∈ r.headers.names
  | .path | .body => False

theorem Headers.mem_names_iff {h : Headers} {n : String} : n ∈ h.names ↔ h.values n ≠ [] := by
  simp [names, values]

namespace TestCase

variable {c : TestCase} {l : Location}

theorem pairsOf_eq_nil_iff {q : Parameter} {v : Json} : pairsOf q v = [] ↔ q.style = .repeated ∧ v = .array [] := by
  unfold pairsOf
  cases q.style <;> cases v <;> simp

theorem name_of_mem_pairsOf {q : Parameter} {v : Json} {e : String × String} (member : e ∈ pairsOf q v) :
    e.1 = q.name := by
  unfold pairsOf at member
  split at member
  · obtain ⟨w, -, rfl⟩ := List.mem_map.mp member
    rfl
  · rw [List.mem_singleton.mp member]

theorem mem_valuesIn_iff {q : Parameter} {v : Json} :
    (q, v) ∈ c.valuesIn l ↔ q ∈ c.operation.parameters ∧ q.location = l ∧ c.value? q.name l = some v := by
  simp only [valuesIn, Operation.parametersIn, List.mem_filterMap, List.mem_filter, beq_iff_eq,
    Option.map_eq_some_iff, Prod.mk.injEq]
  constructor
  · rintro ⟨q', ⟨listed, place⟩, v', value, rfl, rfl⟩
    exact ⟨listed, place, value⟩
  · rintro ⟨listed, place, value⟩
    exact ⟨q, ⟨listed, place⟩, v, value, rfl, rfl⟩

theorem mem_pairsIn_names_iff {name : String} {v : Json} (value : c.value? name l = some v) :
    name ∈ (c.pairsIn l).map Prod.fst ↔ ∃ q ∈ c.operation.parameters, (q.name = name ∧ q.location = l) ∧
      ¬ (q.style = .repeated ∧ v = .array []) := by
  simp only [pairsIn, List.mem_map, List.mem_flatMap, ← pairsOf_eq_nil_iff]
  constructor
  · rintro ⟨e, ⟨⟨q, w⟩, within, member⟩, rfl⟩
    obtain ⟨listed, place, given⟩ := mem_valuesIn_iff.mp within
    have same := name_of_mem_pairsOf member
    rw [same, given, Option.some.injEq] at value
    subst value
    exact ⟨q, listed, ⟨same.symm, place⟩, List.ne_nil_of_mem member⟩
  · rintro ⟨q, listed, ⟨rfl, place⟩, some⟩
    obtain ⟨e, member⟩ := List.exists_mem_of_ne_nil _ some
    exact ⟨e, ⟨(q, v), mem_valuesIn_iff.mpr ⟨listed, place, value⟩, member⟩, name_of_mem_pairsOf member⟩

theorem body_of_no_body (without : ∀ q ∈ c.operation.parameters, q.location ≠ .body) (pairs : List (String × String)) :
    c.body = .form pairs ↔ c.pairsIn .form = pairs ∧ pairs ≠ [] := by
  have nothing : c.valuesIn .body = [] := by
    refine List.eq_nil_iff_forall_not_mem.mpr fun (q, v) within => ?_
    obtain ⟨listed, place, -⟩ := mem_valuesIn_iff.mp within
    exact without q listed place
  rw [body, nothing, List.getLast?_nil]
  cases form : c.pairsIn .form with
  | nil => simp
  | cons e es =>
    simp only [RequestBody.form.injEq]
    exact ⟨fun same => ⟨same, same ▸ List.cons_ne_nil e es⟩, And.left⟩

end TestCase

theorem Service.carries_iff {service : Service} {c : TestCase} {p : Parameter} {v : Json}
    (listed : p ∈ c.operation.parameters) (value : c.value? p.name p.location = some v)
    (place : p.location = .query ∨ p.location = .form ∨ p.location = .header)
    (apart : p.location = .form → ∀ q ∈ c.operation.parameters, q.location ≠ .body)
    (valid : p.location = .header →
      (Headers.name? p.name).isSome = true ∧ Headers.isSendable (v.rendered p.style) = true) :
    (service.request c).Carries p ↔ p.location = .header ∨
      p.location = .query ∧ Text.bytes p.name ∈ service.base.queryNames ∨
      ∃ q ∈ c.operation.parameters, (q.name = p.name ∧ q.location = p.location) ∧
        ¬ (q.style = .repeated ∧ v = .array []) := by
  have names := TestCase.mem_pairsIn_names_iff value
  rcases place with query | form | header
  · have added : Text.bytes p.name ∈ (c.pairsIn .query).map (fun e => Text.bytes e.1) ↔
        p.name ∈ (c.pairsIn .query).map Prod.fst := by
      simp only [List.mem_map, Text.bytes_inj]
    rw [query] at names
    rw [Request.Carries, query]
    simp only [request, url, Url.queryNames_addPairs, Url.queryNames_below, List.mem_append, added, names]
    simp
  · rw [form] at names
    rw [Request.Carries, form]
    simp only [request, TestCase.body_of_no_body (apart form), ← names]
    constructor
    · rintro ⟨pairs, ⟨rfl, -⟩, member⟩
      exact .inr (.inr member)
    · rintro (other | ⟨other, -⟩ | member)
      · cases other
      · cases other
      · exact ⟨_, ⟨rfl, List.ne_nil_of_mem member ∘ fun none => by rw [none]; rfl⟩, member⟩
  · obtain ⟨named, sendable⟩ := valid header
    obtain ⟨n, named⟩ := Option.isSome_iff_exists.mp named
    have within := TestCase.mem_valuesIn_iff.mpr ⟨listed, header, header ▸ value⟩
    have given : (p.name, v.rendered p.style) ∈ c.givenHeaders := List.mem_map.mpr ⟨(p, v), within, rfl⟩
    have written : Headers.writes n (p.name, v.rendered p.style) = true := by simp [Headers.writes, named, sendable]
    obtain ⟨own, last⟩ := Option.isSome_iff_exists.mp (NameMap.lastWhere?_isSome given written)
    have carried : n ∈ (service.request c).headers.names := by
      rw [Headers.mem_names_iff, Service.request_values, TestCase.ownHeader?, Headers.lastWritten?, last]
      exact List.cons_ne_nil _ _
    rw [Request.Carries, header]
    exact ⟨fun _ => .inl rfl, fun _ => ⟨n, named, carried⟩⟩

/-- The request of a case carries a required parameter, unless its value is an empty list that is repeated. -/
theorem Service.carries_required_iff {doc : Json} (document : doc.Ordered) {api : Api}
    (done : Document.read doc = .ok api) {op : Operation} (member : op ∈ api.operations)
    (apart : (∃ q ∈ op.parameters, q.location = .form) → ∀ q ∈ op.parameters, q.location ≠ .body)
    {settings : CaseSettings} {i : Nat} {c : TestCase}
    (drawn : (CasePlan.ofOperation op settings).case? i = some (.ok c)) (service : Service) {p : Parameter}
    (listed : p ∈ op.parameters) (required : p.required = true)
    (place : p.location = .query ∨ p.location = .form ∨ p.location = .header)
    (valid : p.location = .header → (Headers.name? p.name).isSome = true ∧
      ∀ v, c.value? p.name .header = some v → Headers.isSendable (v.rendered p.style) = true) :
    ∃ request v, service.prepare c = .ok request ∧ c.value? p.name p.location = some v ∧
      (request.Carries p ↔ p.location = .header ∨
        p.location = .query ∧ Text.bytes p.name ∈ service.base.queryNames ∨
        ∃ q ∈ op.parameters, (q.name = p.name ∧ q.location = p.location) ∧
          ¬ (q.style = .repeated ∧ v = .array [])) := by
  have own : c.operation = op := (CasePlan.case?_eq_some_ok drawn).1
  have fills := CasePlan.case?_fills (Document.read_namesDistinct document done member) drawn
  have given := TestCase.value?_isSome_iff.mpr (fills.exists_value listed required)
  obtain ⟨v, value⟩ := Option.isSome_iff_exists.mp given
  subst own
  refine ⟨service.request c, v, service.prepare_eq_ok c, value, ?_⟩
  refine carries_iff listed value place (fun form => apart ⟨p, listed, form⟩) fun header => ?_
  exact ⟨(valid header).1, (valid header).2 v (header ▸ value)⟩

def tagged : Json :=
  .object [
    ("openapi", .string "3.0.0"),
    ("paths", .object [
      ("/notes", .object [
        ("get", .object [
          ("parameters", .array [
            .object [
              ("in", .string "query"),
              ("name", .string "tags"),
              ("required", .bool true),
              ("schema", .object [("items", .object [("type", .string "string")]), ("type", .string "array")])]]),
          ("responses", .object [("200", .object [("description", .string "Some notes.")])])])])])]

def loopback : Service where
  base := { scheme := "http", authority := some { host := "127.0.0.1", tcpPort := some 1 }, segments := [""] }
  headers := []

def Json.isEmptyArray : Json → Bool
  | .array vs => vs.isEmpty
  | _ => false

theorem Json.isEmptyArray_iff {v : Json} : v.isEmptyArray = true ↔ v = .array [] := by
  cases v <;> simp [isEmptyArray]

-- Whether the tags of a case are an empty list; none if there is no such case or it has no tags.
def noTags? (op : Operation) (i : Nat) : Option Bool :=
  match (CasePlan.ofOperation op {}).case? i with
  | some (.ok c) => (c.value? "tags" .query).map Json.isEmptyArray
  | _ => none

theorem exists_of_noTags? {op : Operation} {i : Nat} {b : Bool} (drawn : noTags? op i = some b) :
    ∃ c v, (CasePlan.ofOperation op {}).case? i = some (.ok c) ∧ c.value? "tags" .query = some v ∧
      v.isEmptyArray = b := by
  unfold noTags? at drawn
  split at drawn
  next c here =>
    obtain ⟨v, value, same⟩ := Option.map_eq_some_iff.mp drawn
    exact ⟨c, v, here, value, same⟩
  next => cases drawn

theorem tagged_read : ∃ api op p, Document.read tagged = .ok api ∧ op ∈ api.operations ∧ op.parameters = [p] ∧
    p.name = "tags" ∧ p.location = .query ∧ p.required = true ∧ p.style = .repeated ∧
    noTags? op 0 = some false ∧ noTags? op 1 = some true := by
  refine ⟨_, _, _, rfl, List.mem_cons_self, rfl, rfl, rfl, rfl, rfl, ?_, ?_⟩
  · decide +kernel
  · decide +kernel

theorem Service.tagged_carries_required : ∃ api op p, Document.read tagged = .ok api ∧ op ∈ api.operations ∧
    p ∈ op.parameters ∧ p.required = true ∧ p.location = .query ∧
    (∃ c request, (CasePlan.ofOperation op {}).case? 0 = some (.ok c) ∧ loopback.prepare c = .ok request ∧
      request.Carries p) ∧
    ∃ c request, (CasePlan.ofOperation op {}).case? 1 = some (.ok c) ∧ loopback.prepare c = .ok request ∧
      ¬ request.Carries p := by
  obtain ⟨api, op, p, read, member, only, name, place, required, style, some, none⟩ := tagged_read
  have listed : p ∈ op.parameters := by simp [only]
  have apart : (∃ q ∈ op.parameters, q.location = .form) → ∀ q ∈ op.parameters, q.location ≠ .body := by
    simp [only, place]
  have outcome {i : Nat} {b : Bool} (drawn : noTags? op i = .some b) : ∃ c request,
      (CasePlan.ofOperation op {}).case? i = .some (.ok c) ∧ loopback.prepare c = .ok request ∧
        (request.Carries p ↔ b = false) := by
    obtain ⟨c, v, here, value, rfl⟩ := exists_of_noTags? drawn
    obtain ⟨request, v', prepared, value', carries⟩ := Service.carries_required_iff (by decide +kernel) read member
      apart here loopback listed required (.inl place) (by simp [place])
    rw [name, place, value] at value'
    obtain rfl := Option.some.inj value'
    have base : loopback.base.queryNames = [] := rfl
    refine ⟨c, request, here, prepared, carries.trans ?_⟩
    simp [only, place, style, base, ← Json.isEmptyArray_iff]
  obtain ⟨c, request, drawn, prepared, carried⟩ := outcome some
  obtain ⟨c', request', drawn', prepared', lost⟩ := outcome none
  exact ⟨api, op, p, read, member, listed, required, place, ⟨c, request, drawn, prepared, carried.mpr rfl⟩, c', request',
    drawn', prepared', fun carried' => Bool.noConfusion (lost.mp carried')⟩

end SchemaProbe
