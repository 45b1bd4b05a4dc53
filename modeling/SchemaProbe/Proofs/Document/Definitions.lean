import SchemaProbe.Proofs.Document.Responses
import SchemaProbe.Proofs.Document.Types
import SchemaProbe.Proofs.Reference.Place

set_option autoImplicit false

namespace SchemaProbe

namespace Document

def operationObject? (doc : Json) (op : Operation) : Option Json := do
  let paths ← doc.get? "paths"
  let item ← (Reference.follow doc "" (← paths.get? op.path)).toOption
  item.get? op.method.key

def definition? (doc : Json) (op : Operation) (status : Nat) : Option Json := do
  let definition ← (definitions (← operationObject? doc op)).find? status
  (Reference.follow doc "" definition).toOption

theorem schema_anywhere {s : Source} {place : String} (place' : String) {v w : Json} (done : s.schema place v = .ok w) :
    s.schema place' v = .ok w := by
  obtain ⟨inlined, replaced, rfl⟩ := map_eq_ok_iff.mp done
  exact map_eq_ok_iff.mpr ⟨inlined, Reference.inline_anywhere place' replaced, rfl⟩

theorem pathItems_eq_ok {doc : Json} {items : Members} (found : pathItems doc = .ok items) :
    doc.get? "paths" = some (.object items) := by
  unfold pathItems at found
  split at found
  · cases found
  next here => cases found; exact here
  · cases found

theorem operationObject?_eq_some {doc : Json} (document : doc.Ordered) {api : Api} (done : read doc = .ok api)
    {op : Operation} (member : op ∈ api.operations) {v : Json} (found : operationObject? doc op = some v) :
    ∃ shared, operation ⟨doc, api.dialect⟩ op.path op.method shared v = .ok op := by
  obtain ⟨items, raw, item, shared, v', listed, stands, pathRead, under, made⟩ := mem_read_operations done member
  have paths := pathItems_eq_ok listed
  have own : NameMap.get? items op.path = some raw := (pathItems_ordered document listed).sorted.get?_of_mem stands
  have followed := Reference.follow_anywhere "" pathRead.followed
  have inItem : (do let item ← (Reference.follow doc "" raw).toOption; item.get? op.method.key) = some v' :=
    Option.bind_eq_some_iff.mpr ⟨item, toOption_eq_some_iff.mpr followed, under⟩
  have inPaths : (do
      let item ← (Reference.follow doc "" (← (Json.object items).get? op.path)).toOption
      item.get? op.method.key) = some v' :=
    Option.bind_eq_some_iff.mpr ⟨raw, own, inItem⟩
  have same : operationObject? doc op = some v' := Option.bind_eq_some_iff.mpr ⟨.object items, paths, inPaths⟩
  obtain rfl := Option.some.inj (found.symm.trans same)
  exact ⟨shared, made⟩

theorem response_of_definition {doc : Json} (document : doc.Ordered) {api : Api} (done : read doc = .ok api)
    {op : Operation} (member : op ∈ api.operations) {status : Nat} {d : Json}
    (defined : definition? doc op status = some d) :
    ∃ r produced place, op.response? status = some r ∧ response ⟨doc, api.dialect⟩ produced place d = .ok r := by
  obtain ⟨v, described, defined⟩ := Option.bind_eq_some_iff.mp defined
  obtain ⟨raw, found, defined⟩ := Option.bind_eq_some_iff.mp defined
  obtain ⟨shared, made⟩ := operationObject?_eq_some document done member described
  have alike := (responses_describes (operation_eq_ok made).documented).find? status
  rw [found] at alike
  cases documented : op.responses.find? status with
  | none => rw [documented] at alike; cases alike
  | some r =>
    rw [documented] at alike
    cases alike with
    | some describes =>
      obtain ⟨place, d', followed, read⟩ := describes
      have same : Reference.follow doc "" raw = .ok d' := Reference.follow_anywhere "" followed
      rw [same] at defined
      obtain rfl := Option.some.inj defined
      exact ⟨r, _, place, documented, read⟩

end Document

end SchemaProbe
