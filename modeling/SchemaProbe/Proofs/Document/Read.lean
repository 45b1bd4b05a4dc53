import SchemaProbe.Proofs.Document.Ordered
import SchemaProbe.Proofs.ValueType.OfSchema

set_option autoImplicit false

namespace SchemaProbe.Document

theorem mem_parametersFrom {s : Source} {place : String} {i : Nat} {vs : List Json} {ps : List Parameter}
    (read : parametersFrom s place i vs = .ok ps) {p : Parameter} (member : p ∈ ps) :
    ∃ v ∈ vs, ∃ here w, s.follow here v = .ok w ∧ parameter s here w = .ok (some p) := by
  induction vs generalizing i ps with
  | nil => cases read; simp at member
  | cons v vs ih =>
    obtain ⟨w, followed, read⟩ := bind_eq_ok_iff.mp read
    obtain ⟨first, made, read⟩ := bind_eq_ok_iff.mp read
    obtain ⟨rest, others, done⟩ := bind_eq_ok_iff.mp read
    cases done
    rcases List.mem_append.mp member with here | later
    · rw [Option.mem_toList.mp here] at made
      exact ⟨v, List.mem_cons_self, _, w, followed, made⟩
    · obtain ⟨v', within, found⟩ := ih others later
      exact ⟨v', List.mem_cons_of_mem _ within, found⟩

theorem mem_parameters {s : Source} {place : String} {list : Option Json} {ps : List Parameter}
    (read : parameters s place list = .ok ps) {p : Parameter} (member : p ∈ ps) :
    ∃ vs, list = some (.array vs) ∧
      ∃ v ∈ vs, ∃ here w, s.follow here v = .ok w ∧ parameter s here w = .ok (some p) := by
  unfold parameters at read
  split at read
  · cases read; simp at member
  next vs => exact ⟨vs, rfl, mem_parametersFrom read member⟩
  · simp at read

structure ParameterRead (s : Source) (v : Json) (p : Parameter) : Prop where
  typed : ∃ place raw, rawSchema s.dialect place p.location v = .ok raw ∧ s.schema place raw = .ok p.schema ∧
    typeOf place p.schema = .ok p.type
  required : p.required = (p.location == .path || flag v "required")

theorem parameter_eq_some {s : Source} {place : String} {v : Json} {p : Parameter}
    (read : parameter s place v = .ok (some p)) : ParameterRead s v p := by
  obtain ⟨name, -, read⟩ := bind_eq_ok_iff.mp read
  obtain ⟨l, -, read⟩ := bind_eq_ok_iff.mp read
  split at read
  · cases read
  next l =>
    obtain ⟨raw, given, read⟩ := bind_eq_ok_iff.mp read
    split at read
    · split at read <;> cases read
    · obtain ⟨schema, inlined, read⟩ := bind_eq_ok_iff.mp read
      obtain ⟨type, built, done⟩ := bind_eq_ok_iff.mp read
      cases done
      exact ⟨⟨_, raw, given, inlined, built⟩, rfl⟩

theorem requestBody_eq_ok {s : Source} {label : String} {v : Json} {body : RequestBody}
    (read : requestBody s label v = .ok body) : body.given = [] ∨
      ∃ content name media place schema type, (v.get? "content").bind Json.object? = some content ∧
        (name, media) ∈ content ∧ s.schema place ((media.get? "schema").getD emptySchema) = .ok schema ∧
        typeOf place schema = .ok type ∧
        (body.given = [{ name := "body", location := .body, required := flag v "required", type, schema }] ∨
          formFields place schema type = .ok body.given) := by
  unfold requestBody at read
  dsimp only at read
  split at read
  next => cases read; exact .inl rfl
  next content found =>
    split at read
    next name media first =>
      obtain ⟨schema, inlined, read⟩ := bind_eq_ok_iff.mp read
      obtain ⟨type, built, done⟩ := bind_eq_ok_iff.mp read
      cases done
      exact .inr ⟨content, name, media, _, schema, type, found, List.mem_of_find?_eq_some first, inlined, built, .inl rfl⟩
    next =>
      split at read
      next media form =>
        obtain ⟨schema, inlined, read⟩ := bind_eq_ok_iff.mp read
        obtain ⟨type, built, read⟩ := bind_eq_ok_iff.mp read
        obtain ⟨fields, listed, done⟩ := bind_eq_ok_iff.mp read
        cases done
        exact .inr ⟨content, _, media, _, schema, type, found, NameMap.mem_of_get? form, inlined, built, .inr listed⟩
      next =>
        split at read
        · split at read <;> (cases read; exact .inl rfl)
        · cases read; exact .inl rfl

structure OperationRead (s : Source) (path : String) (m : Method) (shared : List Parameter) (v : Json) (op : Operation) :
    Prop where
  given : ∃ own body, parameters s (m.text ++ " " ++ path) (v.get? "parameters") = .ok own ∧
    bodyOf s (m.text ++ " " ++ path) v = .ok body ∧ op.parameters = override shared own ++ body.given
  template : checkTemplate (m.text ++ " " ++ path) path op.parameters = .ok ()
  documented : responses s (m.text ++ " " ++ path) v = .ok op.responses
  method : op.method = m
  path : op.path = path

theorem operation_eq_ok {s : Source} {path : String} {m : Method} {shared : List Parameter} {v : Json} {op : Operation}
    (read : operation s path m shared v = .ok op) : OperationRead s path m shared v op := by
  obtain ⟨own, listed, read⟩ := bind_eq_ok_iff.mp read
  obtain ⟨body, described, read⟩ := bind_eq_ok_iff.mp read
  obtain ⟨_, fine, read⟩ := bind_eq_ok_iff.mp read
  obtain ⟨rs, documented, done⟩ := bind_eq_ok_iff.mp read
  cases done
  exact ⟨⟨own, body, listed, described, rfl⟩, fine, documented, rfl, rfl⟩

theorem mem_operation_parameters {s : Source} {path : String} {m : Method} {shared : List Parameter} {v : Json}
    {op : Operation} (read : operation s path m shared v = .ok op) {p : Parameter} (member : p ∈ op.parameters) :
    p ∈ shared ∨
      (∃ own, parameters s (m.text ++ " " ++ path) (v.get? "parameters") = .ok own ∧ p ∈ own) ∨
      ∃ body, bodyOf s (m.text ++ " " ++ path) v = .ok body ∧ p ∈ body.given := by
  obtain ⟨own, body, listed, described, all⟩ := (operation_eq_ok read).given
  rw [all, override, List.mem_append, List.mem_append] at member
  rcases member with (kept | mine) | given
  · exact .inl (List.mem_filter.mp kept).1
  · exact .inr (.inl ⟨own, listed, mine⟩)
  · exact .inr (.inr ⟨body, described, given⟩)

theorem operationAt_eq_some {s : Source} {path : String} {shared : List Parameter} {item : Json} {m : Method}
    {op : Operation} (read : operationAt s path shared item m = .ok (some op)) :
    ∃ v, item.get? m.key = some v ∧ operation s path m shared v = .ok op := by
  unfold operationAt at read
  split at read
  · cases read
  next v found =>
    split at read
    · obtain ⟨op', made, same⟩ := map_eq_ok_iff.mp read
      cases same
      exact ⟨v, found, made⟩
    · cases read

theorem mem_operationsOf {s : Source} {path : String} {shared : List Parameter} {item : Json} {ms : List Method}
    {ops : List Operation} (read : operationsOf s path shared item ms = .ok ops) {op : Operation}
    (member : op ∈ ops) : ∃ m ∈ ms, operationAt s path shared item m = .ok (some op) := by
  induction ms generalizing ops with
  | nil => cases read; simp at member
  | cons m ms ih =>
    obtain ⟨here, first, read⟩ := bind_eq_ok_iff.mp read
    obtain ⟨rest, others, done⟩ := bind_eq_ok_iff.mp read
    cases done
    rcases List.mem_append.mp member with found | later
    · rw [Option.mem_toList.mp found] at first
      exact ⟨m, List.mem_cons_self, first⟩
    · obtain ⟨m', within, found⟩ := ih others later
      exact ⟨m', List.mem_cons_of_mem _ within, found⟩

structure PathRead (s : Source) (path : String) (raw item : Json) (shared : List Parameter) : Prop where
  slash : Text.startsWith "/" path = true
  followed : s.follow ("path " ++ path) raw = .ok item
  parameters : parameters s path (item.get? "parameters") = .ok shared

theorem pathOperations_eq_ok {s : Source} {path : String} {raw : Json} {ops : List Operation}
    (read : pathOperations s path raw = .ok ops) :
    ∃ item shared, PathRead s path raw item shared ∧ operationsOf s path shared item Method.all = .ok ops := by
  unfold pathOperations at read
  split at read
  · cases read
  next slash =>
    obtain ⟨item, followed, read⟩ := bind_eq_ok_iff.mp read
    split at read
    · cases read
    · obtain ⟨shared, listed, read⟩ := bind_eq_ok_iff.mp read
      exact ⟨item, shared, ⟨by simpa using slash, followed, listed⟩, read⟩

theorem read_eq_ok {doc : Json} {api : Api} (done : read doc = .ok api) :
    ∃ items operations, pathItems doc = .ok items ∧
      items.mapM (fun m => pathOperations ⟨doc, api.dialect⟩ m.1 m.2) = .ok operations ∧
      api.operations = operations.flatten := by
  unfold read at done
  split at done
  · cases done
  · obtain ⟨dialect, -, done⟩ := bind_eq_ok_iff.mp done
    obtain ⟨items, found, done⟩ := bind_eq_ok_iff.mp done
    obtain ⟨operations, each, done⟩ := bind_eq_ok_iff.mp done
    cases done
    exact ⟨items, operations, found, each, rfl⟩

theorem mem_read_operations {doc : Json} {api : Api} (done : read doc = .ok api) {op : Operation}
    (member : op ∈ api.operations) :
    ∃ items raw item shared v, pathItems doc = .ok items ∧ (op.path, raw) ∈ items ∧
      PathRead ⟨doc, api.dialect⟩ op.path raw item shared ∧ item.get? op.method.key = some v ∧
      operation ⟨doc, api.dialect⟩ op.path op.method shared v = .ok op := by
  obtain ⟨items, operations, found, each, same⟩ := read_eq_ok done
  rw [same] at member
  obtain ⟨ops, listed, within⟩ := List.mem_flatten.mp member
  obtain ⟨⟨path, raw⟩, stands, step⟩ := exists_of_mem_mapM each listed
  obtain ⟨item, shared, pathRead, made⟩ := pathOperations_eq_ok step
  obtain ⟨m, -, here⟩ := mem_operationsOf made within
  obtain ⟨v, under, read⟩ := operationAt_eq_some here
  obtain ⟨-, -, -, rfl, rfl⟩ := operation_eq_ok read
  exact ⟨items, raw, item, shared, v, found, stands, pathRead, under, read⟩

end SchemaProbe.Document
