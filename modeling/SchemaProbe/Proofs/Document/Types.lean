import SchemaProbe.Proofs.Document.Read

set_option autoImplicit false

namespace SchemaProbe.Document

theorem schema_ordered {s : Source} (document : s.doc.Ordered) {place : String} {raw w : Json} (ordered : raw.Ordered)
    (read : s.schema place raw = .ok w) : w.Ordered := by
  obtain ⟨inlined, replaced, rfl⟩ := map_eq_ok_iff.mp read
  exact Normal.normalize_ordered (Reference.inline_ordered document ordered replaced)

theorem follow_ordered {s : Source} (document : s.doc.Ordered) {place : String} {v w : Json} (ordered : v.Ordered)
    (followed : s.follow place v = .ok w) : w.Ordered :=
  Reference.followFrom_ordered document ordered _ followed

theorem typeOf_namesDistinct {place : String} {schema : Json} (ordered : schema.Ordered) {t : ValueType}
    (built : typeOf place schema = .ok t) : t.NamesDistinct :=
  ValueType.ofSchema_namesDistinct ordered (mapError_eq_ok_iff.mp built)

theorem inlineSchema_ordered {v : Json} (ordered : v.Ordered) : (inlineSchema v).Ordered := by
  unfold inlineSchema
  cases isObject : v.object? with
  | none => simp [Members.Ordered.nil]
  | some ms => exact Json.ordered_object_iff.mpr ((ordered.object? isObject).filter _)

theorem contentSchema_ordered {v w : Json} (ordered : v.Ordered) (found : contentSchema? v = some w) : w.Ordered := by
  obtain ⟨m, first, schema⟩ := Option.bind_eq_some_iff.mp found
  obtain ⟨ms, content, head⟩ := Option.bind_eq_some_iff.mp first
  obtain ⟨c, member, isObject⟩ := Option.bind_eq_some_iff.mp content
  have inside := (ordered.get? member).object? isObject
  exact (inside.each m (List.mem_of_head? head)).get? schema

theorem rawSchema_ordered {dialect : Dialect} {place : String} {l : Location} {v raw : Json} (ordered : v.Ordered)
    (given : rawSchema dialect place l v = .ok raw) : raw.Ordered := by
  unfold rawSchema at given
  split at given
  next =>
    split at given
    next found => cases given; exact ordered.get? found
    next => cases given
  next => cases given; exact inlineSchema_ordered ordered
  next =>
    cases given
    cases own : v.get? "schema" with
    | some w => exact ordered.get? own
    | none =>
      cases content : contentSchema? v with
      | some w => simpa [own, content] using contentSchema_ordered ordered content
      | none => simpa [own, content, stringSchema] using Members.Ordered.singleton "type" (.string "string")

theorem parameters_namesDistinct {s : Source} (document : s.doc.Ordered) {place : String} {list : Option Json}
    (ordered : ∀ v, list = some v → v.Ordered) {ps : List Parameter} (read : parameters s place list = .ok ps) :
    ∀ p ∈ ps, p.type.NamesDistinct := by
  intro p member
  obtain ⟨vs, rfl, v, element, here, w, followed, made⟩ := mem_parameters read member
  obtain ⟨place, raw, given, inlined, built⟩ := (parameter_eq_some made).typed
  have entry : v.Ordered := Json.ordered_array_iff.mp (ordered _ rfl) v element
  have schema := rawSchema_ordered (follow_ordered document entry followed) given
  exact typeOf_namesDistinct (schema_ordered document schema inlined) built

theorem formFields_namesDistinct {place : String} {schema : Json} {t : ValueType} (distinct : t.NamesDistinct)
    {ps : List Parameter} (fields : formFields place schema t = .ok ps) : ∀ p ∈ ps, p.type.NamesDistinct := by
  cases distinct with
  | object names each =>
    cases fields
    intro p member
    obtain ⟨q, within, rfl⟩ := List.mem_map.mp member
    exact each q within
  | _ => cases fields

theorem mediaSchema_ordered {s : Source} (document : s.doc.Ordered) {media : Json} (ordered : media.Ordered)
    {place : String} {schema : Json} (read : s.schema place ((media.get? "schema").getD emptySchema) = .ok schema) :
    schema.Ordered := by
  refine schema_ordered document ?_ read
  cases found : media.get? "schema" with
  | some w => exact ordered.get? found
  | none => simp [emptySchema, Members.Ordered.nil]

theorem requestBody_namesDistinct {s : Source} (document : s.doc.Ordered) {label : String} {v : Json}
    (ordered : v.Ordered) {body : RequestBody} (read : requestBody s label v = .ok body) :
    ∀ p ∈ body.given, p.type.NamesDistinct := by
  rcases requestBody_eq_ok read with
    none | ⟨content, name, media, place, schema, type, found, within, inlined, built, given⟩
  · simp [none]
  · obtain ⟨c, member, isObject⟩ := Option.bind_eq_some_iff.mp found
    have ordered := ((ordered.get? member).object? isObject).each _ within
    have distinct := typeOf_namesDistinct (mediaSchema_ordered document ordered inlined) built
    rcases given with json | form
    · simpa [json] using distinct
    · exact formFields_namesDistinct distinct form

theorem pathItems_ordered {doc : Json} (document : doc.Ordered) {items : Members} (found : pathItems doc = .ok items) :
    Members.Ordered items := by
  unfold pathItems at found
  split at found
  · cases found
  next here => cases found; exact Json.ordered_object_iff.mp (document.get? here)
  · cases found

theorem read_namesDistinct {doc : Json} (document : doc.Ordered) {api : Api} (done : read doc = .ok api)
    {op : Operation} (member : op ∈ api.operations) : ∀ p ∈ op.parameters, p.type.NamesDistinct := by
  obtain ⟨items, raw, item, shared, v, found, stands, pathRead, under, made⟩ := mem_read_operations done member
  have itemOrdered : item.Ordered :=
    follow_ordered document ((pathItems_ordered document found).each _ stands) pathRead.followed
  have described : v.Ordered := itemOrdered.get? under
  intro p within
  rcases mem_operation_parameters made within with common | ⟨own, listed, mine⟩ | ⟨body, given, inBody⟩
  · exact parameters_namesDistinct document (fun _ here => itemOrdered.get? here) pathRead.parameters p common
  · exact parameters_namesDistinct document (fun _ here => described.get? here) listed p mine
  · unfold bodyOf at given
    split at given
    next => cases given; simp [RequestBody.given] at inBody
    next raw here =>
      obtain ⟨w, followed, read⟩ := bind_eq_ok_iff.mp given
      exact requestBody_namesDistinct document (follow_ordered document (described.get? here) followed) read p inBody

end SchemaProbe.Document
