import SchemaProbe.Proofs.JsonSchema.Keywords

set_option autoImplicit false

namespace SchemaProbe.JsonSchema

-- Whether the value of a keyword, if it stands, admits null.
def admitsNull (ms : Members) (keyword : String) : Bool := (NameMap.get? ms keyword).all fun w => holds keyword w .null

def nullData : List String := ["type", "enum", "const"]

def nullKeywords : List String := ["const", "allOf", "anyOf", "oneOf", "not", "if", "then", "else"]

theorem holds_null {keyword : String} (silent : keyword ∉ nullData) (w : Json) : holds keyword w .null = true := by
  simp only [nullData, List.mem_cons, List.not_mem_nil, or_false, not_or] at silent
  unfold holds reading dataCheck
  split
  case h_18 => split <;> rfl
  all_goals first | rfl | simp at silent

theorem dataHold_null (ms : Members) : dataHold dataKeywords ms .null = nullData.all (admitsNull ms) := by
  have order : dataKeywords.Perm (nullData ++ dataKeywords.filter (· ∉ nullData)) := by decide
  have silent : (dataKeywords.filter (· ∉ nullData)).all (admitsNull ms) = true := by
    rw [List.all_eq_true]
    intro k member
    have silent : k ∉ nullData := by simpa using (List.mem_filter.mp member).2
    simp [admitsNull, holds_null silent]
  rw [dataHold, order.all_eq, List.all_append]
  exact (congrArg (_ && ·) silent).trans (Bool.and_true _)

-- Null has neither members nor elements that a schema might be asked about.
theorem checkMembers_null (es : List (Entry Evaluation)) : Evaluation.checkMembers es .null = [] := by
  unfold Evaluation.checkMembers
  cases subOne? es "unevaluatedProperties" <;> rfl

theorem checkElements_null (es : List (Entry Evaluation)) : Evaluation.checkElements es .null = [] := by
  unfold Evaluation.checkElements
  cases subOne? es "unevaluatedItems" <;> rfl

theorem accepts_null_congr {ms ms' : Members} (same : ∀ k ∈ nullKeywords, NameMap.get? ms k = NameMap.get? ms' k)
    (type : admitsNull ms "type" = admitsNull ms' "type") (choices : admitsNull ms "enum" = admitsNull ms' "enum") :
    accepts (.object ms) .null = accepts (.object ms') .null := by
  have checked (ms : Members) : accepts (.object ms) .null = (node (entries position check ms) .null).isEmpty := by
    rw [accepts, check_object, checkMembers_null, checkElements_null, List.append_nil, List.append_nil]
  have data (ms : Members) : (dataKeywords.all fun k => (entryFor (entries position check ms) k).all fun e =>
      holds k e.value .null) = dataHold dataKeywords ms .null := by
    simp only [entryFor_entries, Option.all_map, dataHold]
  have sub (k : String) (member : k ∈ nullKeywords) : subAt position check ms k = subAt position check ms' k := by
    rw [subAt, subAt, same k member]
  have condition : conditionCheck (entries position check ms) .null =
      conditionCheck (entries position check ms') .null := by
    have one (k : String) (member : k ∈ nullKeywords) :
        subOne? (entries position check ms) k = subOne? (entries position check ms') k := by
      rw [subOne?_entries, subOne?_entries, sub k member]
    have branch (b : Bool) : subOne? (entries position check ms) (if b then "then" else "else") =
        subOne? (entries position check ms') (if b then "then" else "else") := by
      cases b <;> exact one _ (by decide)
    simp only [conditionCheck, one "if" (by decide), branch]
  have held : nullData.all (admitsNull ms) = nullData.all (admitsNull ms') := by
    have const : admitsNull ms "const" = admitsNull ms' "const" := by rw [admitsNull, admitsNull, same _ (by decide)]
    simp only [nullData, List.all_cons, List.all_nil, type, choices, const]
  rw [checked, checked, node_isEmpty, node_isEmpty, data, data, dataHold_null, dataHold_null, held, condition]
  simp only [subMany_entries, subOne?_entries, isSome_entryFor_entries, sub "allOf" (by decide), sub "anyOf" (by decide),
    sub "oneOf" (by decide), sub "not" (by decide)]
  rfl

end SchemaProbe.JsonSchema
