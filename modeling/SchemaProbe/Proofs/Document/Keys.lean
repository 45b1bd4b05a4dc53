import Mathlib.Data.List.Find
import SchemaProbe.Proofs.Document.Definitions
import SchemaProbe.Proofs.Document.WellFormed

set_option autoImplicit false

namespace SchemaProbe

def Parameter.key (p : Parameter) : String × Location := (p.name, p.location)

theorem Parameter.sameKey_iff {p q : Parameter} : p.sameKey q = true ↔ p.key = q.key := by
  simp [sameKey, key]

namespace Document

def keys (ps : List Parameter) : List (String × Location) := ps.map Parameter.key

def defined? (ps : List Parameter) (k : String × Location) : Option Parameter := ps.find? fun p => p.key = k

theorem defined?_isSome_iff {ps : List Parameter} {k : String × Location} :
    (defined? ps k).isSome = true ↔ k ∈ keys ps := by
  simp [defined?, keys, List.find?_isSome]

-- The shared definitions that are left beside an operation's own.
def remaining (shared own : List Parameter) : List Parameter := shared.filter fun p => p.key ∉ keys own

theorem override_eq (shared own : List Parameter) : override shared own = remaining shared own ++ own := by
  unfold override remaining
  congr 1
  refine List.filter_congr fun p _ => ?_
  have mine : own.any p.sameKey = true ↔ p.key ∈ keys own := by
    simp only [List.any_eq_true, Parameter.sameKey_iff, keys, List.mem_map]
    exact exists_congr fun q => and_congr_right fun _ => eq_comm
  by_cases same : p.key ∈ keys own
  · simp [mine.mpr same, same]
  · simp [mine.not.mpr same, same]

theorem not_mem_keys_remaining {shared own : List Parameter} {k : String × Location} (mine : k ∈ keys own) :
    k ∉ keys (remaining shared own) := by
  intro kept
  obtain ⟨p, member, rfl⟩ := List.mem_map.mp kept
  have apart := (List.mem_filter.mp member).2
  simp [mine] at apart

theorem mem_keys_override_iff {shared own : List Parameter} {k : String × Location} :
    k ∈ keys (override shared own) ↔ k ∈ keys (shared ++ own) := by
  rw [override_eq, keys, keys, List.map_append, List.map_append, List.mem_append, List.mem_append]
  by_cases mine : k ∈ keys own
  · exact iff_of_true (.inr mine) (.inr mine)
  · refine or_congr_left (List.mem_map.trans (Iff.trans ?_ List.mem_map.symm))
    constructor
    · rintro ⟨p, member, same⟩
      exact ⟨p, (List.mem_filter.mp member).1, same⟩
    · rintro ⟨p, member, rfl⟩
      exact ⟨p, List.mem_filter.mpr ⟨member, by simpa using mine⟩, rfl⟩

theorem override_keys_nodup_iff {shared own : List Parameter} :
    (keys (override shared own)).Nodup ↔ (keys own).Nodup ∧ (keys (remaining shared own)).Nodup := by
  rw [override_eq, keys, List.map_append, List.nodup_append']
  constructor
  · intro distinct
    exact ⟨distinct.2.1, distinct.1⟩
  · intro distinct
    refine ⟨distinct.2, distinct.1, ?_⟩
    intro k kept mine
    exact not_mem_keys_remaining mine kept

theorem keys_nodup_iff {shared own given : List Parameter} (fields : (keys given).Nodup) :
    (keys (override shared own ++ given)).Nodup ↔
      (keys own).Nodup ∧ (keys (remaining shared own)).Nodup ∧ ∀ k ∈ keys given, k ∉ keys (shared ++ own) := by
  have apart : List.Disjoint (keys (override shared own)) (keys given) ↔ ∀ k ∈ keys given, k ∉ keys (shared ++ own) := by
    rw [List.disjoint_comm]
    exact forall₂_congr fun k _ => not_congr mem_keys_override_iff
  rw [keys, List.map_append, List.nodup_append', ← keys, ← keys, override_keys_nodup_iff, apart, and_assoc]
  simp [fields]

theorem defined?_append (ps qs : List Parameter) (k : String × Location) :
    defined? (ps ++ qs) k = (defined? ps k).or (defined? qs k) := List.find?_append

theorem defined?_override (shared own : List Parameter) (k : String × Location) :
    defined? (override shared own) k = (defined? own k).or (defined? shared k) := by
  rw [override_eq, defined?_append]
  by_cases mine : k ∈ keys own
  · have none : defined? (remaining shared own) k = .none := by
      rw [← Option.not_isSome_iff_eq_none, defined?_isSome_iff]
      exact not_mem_keys_remaining mine
    obtain ⟨p, found⟩ := Option.isSome_iff_exists.mp (defined?_isSome_iff.mpr mine)
    rw [none, found]
    rfl
  · have none : defined? own k = .none := by
      rw [← Option.not_isSome_iff_eq_none, defined?_isSome_iff]
      exact mine
    have kept : defined? (remaining shared own) k = defined? shared k := by
      rw [defined?, remaining, List.find?_filter]
      apply List.find?_congr
      intro p _
      by_cases same : p.key = k
      · simp [same, mine]
      · simp [same]
    rw [none, kept, Option.or_none]
    rfl

theorem requestBody_keys_nodup {s : Source} (document : s.doc.Ordered) {label : String} {v : Json} (ordered : v.Ordered)
    {body : RequestBody} (read : requestBody s label v = .ok body) : (keys body.given).Nodup := by
  rcases requestBody_eq_ok read with
    none | ⟨content, name, media, place, schema, type, found, within, inlined, built, given⟩
  · simp [none, keys]
  · obtain ⟨c, member, isObject⟩ := Option.bind_eq_some_iff.mp found
    have entry := ((ordered.get? member).object? isObject).each _ within
    rcases given with json | form
    · simp [json, keys]
    · have distinct := typeOf_namesDistinct (mediaSchema_ordered document entry inlined) built
      cases distinct with
      | object names _ =>
        rw [← Except.ok.inj form, keys, List.map_map]
        rw [List.Nodup, List.pairwise_map] at names ⊢
        exact names.imp fun differ same => differ (congrArg Prod.fst same)
      | _ => cases form

theorem bodyOf_keys_nodup {s : Source} (document : s.doc.Ordered) {label : String} {v : Json} (ordered : v.Ordered)
    {body : RequestBody} (read : bodyOf s label v = .ok body) : (keys body.given).Nodup := by
  unfold bodyOf at read
  split at read
  next => cases read; exact List.nodup_nil
  next raw here =>
    obtain ⟨w, followed, read⟩ := bind_eq_ok_iff.mp read
    exact requestBody_keys_nodup document (follow_ordered document (ordered.get? here) followed) read

def pathItem? (doc : Json) (op : Operation) : Option Json := do
  let paths ← doc.get? "paths"
  (Reference.follow doc "" (← paths.get? op.path)).toOption

-- What the parameters of an operation are put together from: those that stand at its path, its own, and those that its
-- request body gives.
structure Gathers (doc : Json) (api : Api) (op : Operation) (shared own given : List Parameter) : Prop where
  shared : ∃ item, pathItem? doc op = some item ∧
    parameters ⟨doc, api.dialect⟩ op.path (item.get? "parameters") = .ok shared
  own : ∃ v, operationObject? doc op = some v ∧
    parameters ⟨doc, api.dialect⟩ op.label (v.get? "parameters") = .ok own ∧
    ∃ body, bodyOf ⟨doc, api.dialect⟩ op.label v = .ok body ∧ body.given = given

theorem Gathers.unique {doc : Json} {api : Api} {op : Operation} {shared own given shared' own' given' : List Parameter}
    (gathers : Gathers doc api op shared own given) (gathers' : Gathers doc api op shared' own' given') :
    shared' = shared ∧ own' = own ∧ given' = given := by
  obtain ⟨⟨item, atPath, listed⟩, v, object, read, body, described, rfl⟩ := gathers
  obtain ⟨⟨item', atPath', listed'⟩, v', object', read', body', described', rfl⟩ := gathers'
  cases atPath.symm.trans atPath'
  cases object.symm.trans object'
  cases listed.symm.trans listed'
  cases read.symm.trans read'
  cases described.symm.trans described'
  exact ⟨rfl, rfl, rfl⟩

theorem exists_gathers {doc : Json} (document : doc.Ordered) {api : Api} (done : read doc = .ok api) {op : Operation}
    (member : op ∈ api.operations) : ∃ shared own given, Gathers doc api op shared own given ∧
      op.parameters = override shared own ++ given ∧ (keys given).Nodup := by
  obtain ⟨items, raw, item, shared, v, listed, stands, pathRead, under, made⟩ := mem_read_operations done member
  obtain ⟨own, body, read, described, all⟩ := (operation_eq_ok made).given
  have inPaths : NameMap.get? items op.path = some raw := (pathItems_ordered document listed).sorted.get?_of_mem stands
  have followed : Reference.follow doc "" raw = .ok item := Reference.follow_anywhere "" pathRead.followed
  have atPath : pathItem? doc op = some item := by
    refine Option.bind_eq_some_iff.mpr ⟨_, pathItems_eq_ok listed, Option.bind_eq_some_iff.mpr ⟨raw, inPaths, ?_⟩⟩
    exact toOption_eq_some_iff.mpr followed
  have object : operationObject? doc op = some v := by
    refine Option.bind_eq_some_iff.mpr ⟨_, pathItems_eq_ok listed, Option.bind_eq_some_iff.mpr ⟨raw, inPaths, ?_⟩⟩
    exact Option.bind_eq_some_iff.mpr ⟨item, toOption_eq_some_iff.mpr followed, under⟩
  refine ⟨shared, own, body.given, ?_, all, ?_⟩
  · exact ⟨⟨item, atPath, pathRead.parameters⟩, v, object, read, body, described, rfl⟩
  · have itemOrdered : item.Ordered :=
      follow_ordered document ((pathItems_ordered document listed).each _ stands) pathRead.followed
    exact bodyOf_keys_nodup document (itemOrdered.get? under) described

/-- The parameters of an operation have keys of their own if and only if neither list defines a key twice, but for shared
definitions that the operation's own replace, and its request body gives no key that either list defines. A key means the
operation's own definition, or else the shared one, or else that of the request body. -/
theorem keys_unique_iff {doc : Json} (document : doc.Ordered) {api : Api} (done : read doc = .ok api) {op : Operation}
    (member : op ∈ api.operations) : ∃ shared own given, Gathers doc api op shared own given ∧
      ((keys op.parameters).Nodup ↔
        (keys own).Nodup ∧ (keys (remaining shared own)).Nodup ∧ ∀ k ∈ keys given, k ∉ keys (shared ++ own)) ∧
      ∀ k, defined? op.parameters k = ((defined? own k).or (defined? shared k)).or (defined? given k) := by
  obtain ⟨shared, own, given, gathers, all, fields⟩ := exists_gathers document done member
  refine ⟨shared, own, given, gathers, ?_, ?_⟩
  · rw [all]
    exact keys_nodup_iff fields
  · intro k
    rw [all, defined?_append, defined?_override]

def twoBodies : Json :=
  .object [
    ("openapi", .string "3.0.0"),
    ("paths", .object [
      ("/notes", .object [
        ("parameters", .array [
          .object [
            ("in", .string "body"),
            ("name", .string "body"),
            ("required", .bool true),
            ("schema", .object [("type", .string "string")])]]),
        ("post", .object [
          ("requestBody", .object [
            ("content", .object [
              ("application/json", .object [("schema", .object [("type", .string "integer")])])]),
            ("required", .bool true)]),
          ("responses", .object [("200", .object [("description", .string "Some notes.")])])])])])]

theorem twoBodies_read : ∃ api op p q, read twoBodies = .ok api ∧ op ∈ api.operations ∧ op.parameters = [p, q] ∧
    Gathers twoBodies api op [p] [] [q] ∧ p.key = ("body", .body) ∧ q.key = ("body", .body) ∧
    p.type.name = "string" ∧ q.type.name = "integer" := by
  refine ⟨_, _, _, _, rfl, List.mem_cons_self, rfl, ⟨?_, ?_⟩, rfl, rfl, rfl, rfl⟩
  · exact ⟨_, rfl, rfl⟩
  · exact ⟨_, rfl, rfl, _, rfl, rfl⟩

-- The definition of the operation itself comes last, and its key means the shared one.
theorem twoBodies_keys_repeated : ∃ api op p q, read twoBodies = .ok api ∧ op ∈ api.operations ∧
    op.parameters = [p, q] ∧ Gathers twoBodies api op [p] [] [q] ∧ p.type.name = "string" ∧ q.type.name = "integer" ∧
    ¬ (keys op.parameters).Nodup ∧ defined? op.parameters q.key = some p := by
  obtain ⟨api, op, p, q, read, member, both, gathers, first, second, text, integer⟩ := twoBodies_read
  obtain ⟨shared, own, given, gathers', unique, meant⟩ := keys_unique_iff (by decide +kernel) read member
  obtain ⟨rfl, rfl, rfl⟩ := gathers.unique gathers'
  refine ⟨api, op, p, q, read, member, both, gathers, text, integer, ?_, ?_⟩
  · intro distinct
    have apart := (unique.mp distinct).2.2
    simp [keys, first, second] at apart
  · rw [meant]
    simp [defined?, first, second]

end Document

end SchemaProbe
