import SchemaProbe.Proofs.Document.Types

set_option autoImplicit false

namespace SchemaProbe

theorem Method.text_append_inj {m n : Method} {path path' : String}
    (same : m.text ++ " " ++ path = n.text ++ " " ++ path') : m = n ∧ path = path' := by
  -- No method has a blank in it, so the first blank of a label is where its method ends.
  have chars := congrArg String.toList same
  simp only [String.toList_append, List.append_assoc] at chars
  cases m <;> cases n <;> simp_all [Method.text, ← String.toList_inj]

namespace Document

theorem operationsOf_keys {s : Source} {path : String} {shared : List Parameter} {item : Json} {ms : List Method}
    {ops : List Operation} (read : operationsOf s path shared item ms = .ok ops) :
    (ops.map Operation.method).Sublist ms ∧ ∀ op ∈ ops, op.path = path := by
  induction ms generalizing ops with
  | nil => cases read; simp
  | cons m ms ih =>
    obtain ⟨here, first, read⟩ := bind_eq_ok_iff.mp read
    obtain ⟨rest, others, done⟩ := bind_eq_ok_iff.mp read
    cases done
    obtain ⟨within, paths⟩ := ih others
    cases here with
    | none => exact ⟨within.cons m, paths⟩
    | some op =>
      obtain ⟨v, -, made⟩ := operationAt_eq_some first
      obtain ⟨-, -, -, rfl, rfl⟩ := operation_eq_ok made
      exact ⟨within.cons_cons _, by simpa using paths⟩

theorem pathOperations_labels {s : Source} {path : String} {raw : Json} {ops : List Operation}
    (read : pathOperations s path raw = .ok ops) :
    (ops.map Operation.label).Nodup ∧ ∀ op ∈ ops, op.path = path := by
  obtain ⟨item, shared, -, read⟩ := pathOperations_eq_ok read
  obtain ⟨within, paths⟩ := operationsOf_keys read
  have methods : (ops.map Operation.method).Nodup := within.nodup (by decide)
  refine ⟨?_, paths⟩
  rw [List.Nodup, List.pairwise_map] at methods ⊢
  exact methods.imp fun different same => different (Method.text_append_inj same).1

theorem flatten_labels {s : Source} {items : Members} {operations : List (List Operation)}
    (sorted : NameMap.Sorted items) (each : items.mapM (fun m => pathOperations s m.1 m.2) = .ok operations) :
    (operations.flatten.map Operation.label).Nodup := by
  rw [mapM_eq_ok_iff] at each
  induction each with
  | nil => simp
  | @cons m ops items operations first rest ih =>
    obtain ⟨before, sorted⟩ := List.pairwise_cons.mp sorted
    obtain ⟨here, paths⟩ := pathOperations_labels first
    rw [List.flatten_cons, List.map_append, List.nodup_append]
    refine ⟨here, ih sorted, ?_⟩
    -- Behind the first path item every other one has a greater path.
    rintro label own label' other rfl
    obtain ⟨op, member, rfl⟩ := List.mem_map.mp own
    obtain ⟨op', later, same⟩ := List.mem_map.mp other
    obtain ⟨ops', listed, within⟩ := List.mem_flatten.mp later
    obtain ⟨m', stands, step⟩ := exists_of_mem_mapM (mapM_eq_ok_iff.mpr rest) listed
    have path : m'.1 = m.1 := by
      rw [← (pathOperations_labels step).2 op' within, (Method.text_append_inj same).2, paths op member]
    exact String.lt_irrefl _ (path ▸ before m' stands)

theorem read_labels_nodup {doc : Json} (document : doc.Ordered) {api : Api} (done : read doc = .ok api) :
    (api.operations.map Operation.label).Nodup := by
  obtain ⟨items, operations, found, each, same⟩ := read_eq_ok done
  rw [same]
  exact flatten_labels (pathItems_ordered document found).sorted each

end Document

end SchemaProbe
