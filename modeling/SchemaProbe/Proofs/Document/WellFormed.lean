import SchemaProbe.Proofs.Document.Labels
import SchemaProbe.Proofs.Document.Responses

set_option autoImplicit false

namespace SchemaProbe

structure Response.WellFormed (r : Response) : Prop where
  body : ∀ schema, r.schema = some schema → JsonSchema.isSchema schema = true
  headers : ∀ h ∈ r.headers, ∀ schema, h.schema = some schema → JsonSchema.isSchema schema = true

structure Operation.WellFormed (op : Operation) : Prop where
  method : ∃ m ∈ Method.all, op.method.text.toList = m.key.toList.map Char.toUpper
  slash : Text.startsWith "/" op.path = true
  required : ∀ p ∈ op.parameters, p.location = .path → p.required = true
  template : ∀ name ∈ templateNames op.path, ∃ p ∈ op.parameters, p.location = .path ∧ p.name = name
  responses : ∀ e ∈ op.responses, e.2.WellFormed

namespace Document

theorem parameters_required {s : Source} {place : String} {list : Option Json} {ps : List Parameter}
    (read : parameters s place list = .ok ps) {p : Parameter} (member : p ∈ ps) (path : p.location = .path) :
    p.required = true := by
  obtain ⟨vs, -, v, -, here, w, -, made⟩ := mem_parameters read member
  simp [(parameter_eq_some made).required, path]

theorem requestBody_location {s : Source} {label : String} {v : Json} {body : RequestBody}
    (read : requestBody s label v = .ok body) {p : Parameter} (member : p ∈ body.given) :
    p.location = .body ∨ p.location = .form := by
  rcases requestBody_eq_ok read with none | ⟨content, name, media, place, schema, type, -, -, -, -, json | form⟩
  · simp [none] at member
  · left
    rw [json, List.mem_singleton] at member
    rw [member]
  · right
    cases type with
    | object n ps =>
      obtain ⟨q, -, rfl⟩ := List.mem_map.mp (Except.ok.inj form ▸ member)
      rfl
    | _ => cases form

theorem bodyOf_location {s : Source} {label : String} {op : Json} {body : RequestBody}
    (read : bodyOf s label op = .ok body) {p : Parameter} (member : p ∈ body.given) :
    p.location = .body ∨ p.location = .form := by
  unfold bodyOf at read
  split at read
  · cases read; simp [RequestBody.given] at member
  · obtain ⟨w, -, made⟩ := bind_eq_ok_iff.mp read
    exact requestBody_location made member

theorem defined_of_checkTemplate {label path : String} {ps : List Parameter} (fine : checkTemplate label path ps = .ok ())
    {name : String} (member : name ∈ templateNames path) : ∃ p ∈ ps, p.location = .path ∧ p.name = name := by
  unfold checkTemplate at fine
  split at fine
  · cases fine
  next missing =>
    have defined := List.find?_eq_none.mp missing name member
    simpa using defined

theorem operation_required {s : Source} {path : String} {m : Method} {shared : List Parameter} {v : Json}
    {op : Operation} (read : operation s path m shared v = .ok op)
    (common : ∀ p ∈ shared, p.location = .path → p.required = true) :
    ∀ p ∈ op.parameters, p.location = .path → p.required = true := by
  intro p member here
  rcases mem_operation_parameters read member with kept | ⟨own, listed, mine⟩ | ⟨body, given, inBody⟩
  · exact common p kept here
  · exact parameters_required listed mine here
  · rcases bodyOf_location given inBody with elsewhere | elsewhere <;> simp [here] at elsewhere

theorem describes_wellFormed {s : Source} {produced : List String} {v : Json} {r : Response}
    (described : Describes s produced v r) : r.WellFormed := by
  obtain ⟨place, definition, -, read⟩ := described
  obtain ⟨-, fine, listed⟩ := response_eq_ok read
  refine ⟨fun schema here => isSchema_of_checkSchema fine here, fun h member schema here => ?_⟩
  obtain ⟨place', checked⟩ := headers_checked listed member
  exact isSchema_of_checkSchema checked here

theorem operation_responses_wellFormed {s : Source} {path : String} {m : Method} {shared : List Parameter} {v : Json}
    {op : Operation} (read : operation s path m shared v = .ok op) : ∀ e ∈ op.responses, e.2.WellFormed := by
  intro e member
  obtain ⟨definition, -, -, described⟩ := (responses_describes (operation_eq_ok read).documented).exists_of_mem member
  exact describes_wellFormed described

theorem read_wellFormed {doc : Json} {api : Api} (done : read doc = .ok api) {op : Operation}
    (member : op ∈ api.operations) : op.WellFormed := by
  obtain ⟨items, raw, item, shared, v, -, -, pathRead, -, made⟩ := mem_read_operations done member
  exact {
    method := ⟨op.method, by cases op.method <;> decide, by cases op.method <;> decide⟩
    slash := pathRead.slash
    required := operation_required made fun p => parameters_required pathRead.parameters
    template := fun name => defined_of_checkTemplate (operation_eq_ok made).template
    responses := operation_responses_wellFormed made }

theorem read_statuses_nodup {doc : Json} {api : Api} (done : read doc = .ok api) {op : Operation}
    (member : op ∈ api.operations) : op.statuses.Nodup := by
  obtain ⟨items, raw, item, shared, v, -, -, -, -, made⟩ := mem_read_operations done member
  exact (responses_sorted (operation_eq_ok made).documented).nodup

end Document

end SchemaProbe
