import SchemaProbe.Api.Load
import SchemaProbe.Proofs.Except
import SchemaProbe.Proofs.Json.Ordered

set_option autoImplicit false

namespace SchemaProbe

namespace Yaml

theorem float?_ordered {s : String} {v : Json} (read : float? s = some v) : v.Ordered := by
  simp only [float?] at read
  split at read
  · cases read; exact .null
  · obtain ⟨x, -, finite⟩ := Option.bind_eq_some_iff.mp (Option.ite_none_left_eq_some.mp read).2
    cases (Option.ite_none_right_eq_some.mp finite).2
    exact .number _

theorem number?_ordered {s : String} {v : Json} (read : number? s = some (some v)) : v.Ordered := by
  unfold number? at read
  split at read
  next i _ =>
    split at read
    · cases read; exact .number _
    · split at read
      · simp at read
      · exact float?_ordered (by simpa using read)
  next =>
    split at read
    · simp at read
    · exact float?_ordered (by simpa using read)

theorem plain?_ordered {s : String} {v : Json} (read : plain? s = some v) : v.Ordered := by
  unfold plain? at read
  split at read
  · cases read; exact .null
  · split at read
    · cases read; exact .bool _
    · split at read
      next r found => subst read; exact number?_ordered found
      next => cases read; exact .string _

theorem scalar?_ordered {tag : Option String} {s : String} {plain : Bool} {v : Json}
    (read : scalar? tag s plain = some v) : v.Ordered := by
  unfold scalar? at read
  split at read
  · split at read
    · exact plain?_ordered read
    · cases read; exact .string _
  · repeat' split at read
    all_goals try cases read
    · obtain ⟨b, -, rfl⟩ := Option.map_eq_some_iff.mp read
      exact .bool b
    · obtain ⟨i, -, found⟩ := Option.bind_eq_some_iff.mp read
      exact number?_ordered (Option.join_eq_some_iff.mp found)
    · exact float?_ordered read
    · exact .null
    · exact .string _

mutual
theorem toJson?_ordered : ∀ {n : Node} {v : Json}, n.toJson? = some v → v.Ordered
  | .scalar tag s plain, v, read => scalar?_ordered read
  | .sequence tag items, v, read => by
    rw [Node.toJson?] at read
    split at read
    · simp at read
    · obtain ⟨vs, elements, rfl⟩ := Option.map_eq_some_iff.mp read
      exact .array fun x member => itemsToJson?_ordered elements x member
  | .mapping tag pairs, v, read => by
    rw [Node.toJson?] at read
    split at read
    · simp at read
    · obtain ⟨ms, members, rfl⟩ := Option.map_eq_some_iff.mp read
      refine Json.ordered_object_iff.mpr ⟨NameMap.ofList_sorted ms, fun m member => ?_⟩
      exact pairsToJson?_ordered members m (NameMap.mem_ofList member)

theorem itemsToJson?_ordered : ∀ {items : List Node} {vs : List Json}, itemsToJson? items = some vs →
    ∀ x ∈ vs, x.Ordered
  | [], vs, read => by simp_all [itemsToJson?]
  | n :: ns, vs, read => by
    simp only [itemsToJson?, Option.bind_eq_bind, Option.bind_eq_some_iff, Option.some.injEq, pure] at read
    obtain ⟨v, first, ws, rest, rfl⟩ := read
    exact List.forall_mem_cons.mpr ⟨toJson?_ordered first, itemsToJson?_ordered rest⟩

theorem pairsToJson?_ordered : ∀ {pairs : List (Node × Node)} {ms : List (String × Json)},
    pairsToJson? pairs = some ms → ∀ m ∈ ms, m.2.Ordered
  | [], ms, read => by simp_all [pairsToJson?]
  | (.scalar _ k _, n) :: ps, ms, read => by
    simp only [pairsToJson?, Option.bind_eq_bind, Option.bind_eq_some_iff, Option.some.injEq, pure] at read
    obtain ⟨v, first, ws, rest, rfl⟩ := read
    exact List.forall_mem_cons.mpr ⟨toJson?_ordered first, pairsToJson?_ordered rest⟩
  | (.sequence .., _) :: _, _, read => by simp [pairsToJson?] at read
  | (.mapping .., _) :: _, _, read => by simp [pairsToJson?] at read
end

end Yaml

namespace Document

theorem parse_ordered {extension : Option String} {text : String} {doc : Json}
    (read : parse extension text = .ok doc) : doc.Ordered := by
  unfold parse at read
  split at read
  · rw [mapError_eq_ok_iff, Json.parse, map_eq_ok_iff] at read
    obtain ⟨v, -, rfl⟩ := read
    exact v.sorted_ordered
  · split at read
    next v found =>
      cases read
      simp only [Yaml.parse?, Option.bind_eq_bind, Option.bind_eq_some_iff] at found
      obtain ⟨ts, -, n, -, v, converted, kept⟩ := found
      split at kept
      · cases kept
        exact Yaml.toJson?_ordered converted
      · simp at kept
    next => simp at read

-- A loaded document is one of those that other statements ask to be ordered.
theorem load_eq_ok {location : SchemaLocation} {text : String} {api : Api} (loaded : load location text = .ok api) :
    ∃ doc : Json, doc.Ordered ∧ read doc = .ok api := by
  simp only [load, bind_eq_ok_iff, mapError_eq_ok_iff] at loaded
  obtain ⟨doc, parsed, done⟩ := loaded
  exact ⟨doc, parse_ordered parsed, done⟩

def items : Json :=
  .object [
    ("openapi", .string "3.0.0"),
    ("paths", .object [
      ("/items/\x7bid\x7d", .object [
        ("get", .object [
          ("parameters", .array [
            .object [
              ("in", .string "path"),
              ("name", .string "id"),
              ("required", .bool true),
              ("schema", .object [("type", .string "integer")])]]),
          ("responses", .object [("200", .object [("description", .string "An item.")])])])])])]

theorem items_ordered : items.Ordered := by
  decide +kernel

end Document

end SchemaProbe
