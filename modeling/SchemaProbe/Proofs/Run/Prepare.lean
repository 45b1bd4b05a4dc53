import SchemaProbe.Proofs.Case.Batch
import SchemaProbe.Proofs.Case.Values
import SchemaProbe.Proofs.Document.WellFormed
import SchemaProbe.Run.Basic

set_option autoImplicit false

namespace SchemaProbe

theorem Method.isToken_text (m : Method) : Headers.isToken m.text = true := by
  cases m <;> decide

theorem Service.prepare_eq_ok (service : Service) (c : TestCase) : service.prepare c = .ok (service.request c) :=
  if_pos c.operation.method.isToken_text

namespace Check

theorem bodyFault?_ne_unusableSchema {documented : Json} (usable : JsonSchema.isSchema documented = true) (typed : Bool)
    (body : String) : bodyFault? documented typed body ≠ some .unusableSchema := by
  unfold bodyFault?
  split
  · simp
  · split
    · split <;> simp
    · rw [usable]
      simp only [Bool.not_true, Bool.false_eq_true, if_false]
      split <;> simp

theorem schemaFault?_ne_unusableSchema {op : Operation} (wellFormed : ∀ e ∈ op.responses, e.2.WellFormed) (r : Reply) :
    schemaFault? op r ≠ some .unusableSchema := by
  unfold schemaFault?
  split
  · simp
  next documented found =>
    obtain ⟨response, stands, schema⟩ := Option.bind_eq_some_iff.mp found
    obtain ⟨k, member⟩ := ByStatus.mem_of_find? stands
    have fine := bodyFault?_ne_unusableSchema ((wellFormed _ member).body documented schema)
    split
    · simp
    · split
      · split
        · exact fine true r.body
        · simp
      · exact fine false r.body

end Check

theorem Operation.WellFormed.value? {op : Operation} (wellFormed : op.WellFormed) {c : TestCase}
    (fills : Fills op.parameters c.values) {name : String} (member : name ∈ templateNames op.path) :
    (c.value? name .path).isSome = true := by
  obtain ⟨p, listed, path, rfl⟩ := wellFormed.template name member
  rw [TestCase.value?_isSome_iff, ← path]
  exact fills.exists_value listed (wellFormed.required p listed path)

theorem Document.read_is_usable {doc : Json} (document : doc.Ordered) {api : Api} (done : Document.read doc = .ok api) :
    (api.operations.map Operation.label).Nodup ∧ (∀ op ∈ api.operations, op.WellFormed) ∧
      (∀ op ∈ api.operations, ∀ settings i c, (CasePlan.ofOperation op settings).case? i = some (.ok c) →
        (∀ base headers service, Service.open base headers = .ok service →
          ∃ request, service.prepare c = .ok request) ∧
        ∀ name ∈ templateNames c.operation.path, (c.value? name .path).isSome = true) ∧
      ∀ op ∈ api.operations, ∀ r, Check.schemaFault? op r ≠ some .unusableSchema := by
  refine ⟨read_labels_nodup document done, fun op member => read_wellFormed done member, ?_, ?_⟩
  · intro op member settings i c drawn
    refine ⟨fun base headers service _ => ⟨_, service.prepare_eq_ok c⟩, fun name listed => ?_⟩
    have own : c.operation = op := (CasePlan.case?_eq_some_ok drawn).1
    rw [own] at listed
    have fills := CasePlan.case?_fills (read_namesDistinct document done member) drawn
    exact (read_wellFormed done member).value? fills listed
  · intro op member r
    exact Check.schemaFault?_ne_unusableSchema (read_wellFormed done member).responses r

theorem Document.items_is_usable : ∃ api service, Document.read Document.items = .ok api ∧
    Service.open "http://127.0.0.1:1" [] = .ok service ∧ ∃ op ∈ api.operations, op.WellFormed ∧ ∃ c request,
      (CasePlan.ofOperation op {}).case? 1 = some (.ok c) ∧ service.prepare c = .ok request ∧
      templateNames c.operation.path = ["id"] ∧ (c.value? "id" .path).isSome = true := by
  have checked : (match Document.read Document.items with
      | .ok api => api.operations.any fun op => ((CasePlan.ofOperation op {}).case? 1).any fun c =>
          c.toOption.any fun c => templateNames c.operation.path == ["id"]
      | .error _ => false) = true := by decide +kernel
  have reached : (Service.open "http://127.0.0.1:1" []).toOption.isSome = true := by decide +kernel
  cases opened : Service.open "http://127.0.0.1:1" [] with
  | error fault => rw [opened] at reached; cases reached
  | ok service =>
    split at checked
    next api read =>
      obtain ⟨op, member, some⟩ := List.any_eq_true.mp checked
      obtain ⟨drawn, here, fine⟩ := (Option.any_eq_true _ _).mp some
      cases drawn with
      | error fault => cases fine
      | ok c =>
        have names : templateNames c.operation.path = ["id"] := beq_iff_eq.mp fine
        obtain ⟨-, wellFormed, cases, -⟩ := Document.read_is_usable Document.items_ordered read
        obtain ⟨prepared, values⟩ := cases op member {} 1 c here
        obtain ⟨request, ready⟩ := prepared _ _ service opened
        exact ⟨api, service, read, rfl, op, member, wellFormed op member, c, request, here, ready, names,
          values "id" (by simp [names])⟩
    next => cases checked

end SchemaProbe
