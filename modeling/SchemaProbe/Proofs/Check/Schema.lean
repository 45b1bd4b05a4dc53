import SchemaProbe.Check.Judge
import SchemaProbe.Proofs.Document.Definitions
import SchemaProbe.Proofs.Document.Load
import SchemaProbe.Proofs.Document.WellFormed
import SchemaProbe.Proofs.Text.Split

set_option autoImplicit false

namespace SchemaProbe

namespace Text

theorem blank_of_trim_isEmpty {s : String} (empty : (trim s).isEmpty = true) :
    ∀ c ∈ s.toList, Category.isBlank c = true := by
  have ends : trimEnd (trimStart s.toList) = [] := by
    have text := congrArg String.toList (String.isEmpty_iff.mp empty)
    simpa [trim] using text
  rw [trimEnd, List.reverse_eq_nil_iff, List.dropWhile_eq_nil_iff] at ends
  -- What is left behind the blanks at the start does not begin with one, so nothing is left.
  have start : trimStart s.toList = [] := by
    by_contra left
    have first := List.head_dropWhile_not Category.isBlank left
    exact absurd (ends _ (List.mem_reverse.mpr (List.head_mem left))) (by simp [trimStart, first])
  exact List.dropWhile_eq_nil_iff.mp start

end Text

namespace Json

-- No value begins with a blank of any script, so a text of blanks holds none.
theorem readValue_of_blank {cs : List Char} (blank : ∀ c ∈ cs, Category.isBlank c = true) (fuel levels : Nat)
    (read : Json × List Char) : readValue fuel levels cs ≠ .ok read := by
  cases fuel with
  | zero => simp [readValue, faultAt]
  | succ fuel =>
    rw [readValue]
    cases left : skipBlanks cs with
    | nil => simp [faultAt]
    | cons c rest =>
      have within : c ∈ cs := (List.dropWhile_sublist isBlank).mem (by rw [← skipBlanks, left]; exact List.mem_cons_self)
      have here := blank c within
      split <;> rename_i same
      case h_1 => cases same
      case h_9 =>
        obtain ⟨rfl, -⟩ := List.cons.inj same
        rw [Category.not_isDigit_of_isBlank here]
        simp [faultAt]
      -- Behind one of the characters that a value begins with.
      all_goals
        obtain ⟨rfl, -⟩ := List.cons.inj same
        exact absurd here (by decide)

theorem trim_isEmpty_of_parse {s : String} {v : Json} (parsed : parse s = .ok v) : (Text.trim s).isEmpty = false := by
  rw [Bool.eq_false_iff]
  intro empty
  obtain ⟨w, written, -⟩ := map_eq_ok_iff.mp parsed
  unfold parseAsWritten at written
  dsimp only at written
  split at written
  next read =>
    obtain ⟨value, here, -⟩ := bind_eq_ok_iff.mp read
    exact readValue_of_blank (Text.blank_of_trim_isEmpty empty) _ _ _ here
  next => cases written

end Json

namespace Check

theorem judge_eq_pass_iff {op : Operation} {r : Reply} {c : Check} : judge op r c = .pass c ↔ c.fault? op r = none := by
  unfold judge
  cases c.fault? op r <;> simp [CheckResult.pass, CheckResult.fail]

theorem bodyFault?_eq_none_iff {documented : Json} (usable : JsonSchema.isSchema documented = true) {body : String} :
    bodyFault? documented true body = none ↔ ∃ v, Json.parse body = .ok v ∧ JsonSchema.accepts documented v = true := by
  unfold bodyFault?
  cases parsed : Json.parse body with
  | error fault => split <;> simp
  | ok v =>
    have taken : (JsonSchema.check documented v).take mostViolations = [] ↔ JsonSchema.accepts documented v = true := by
      simp [List.take_eq_nil_iff, mostViolations, JsonSchema.accepts]
    simp only [Json.trim_isEmpty_of_parse parsed, usable, Bool.not_true, Bool.false_eq_true, if_false, Except.ok.injEq,
      exists_eq_left', ← taken]
    cases (JsonSchema.check documented v).take mostViolations <;> simp

end Check

namespace Document

def chosenSchema? (content : Members) : Option Json :=
  ((content.find? fun m => Media.isJson m.1 && m.2.has "schema").orElse fun _ =>
    content.find? fun m => m.2.has "schema").bind fun m => m.2.get? "schema"

theorem response_schema {doc : Json} {produced : List String} {place : String} {d : Json} {r : Response}
    (read : response ⟨doc, .openApi3⟩ produced place d = .ok r) {content : Members}
    (declared : (d.get? "content").bind Json.object? = some content) :
    optionalSchema ⟨doc, .openApi3⟩ place (chosenSchema? content) = .ok r.schema := by
  obtain ⟨body, -, -⟩ := response_eq_ok read
  simp only [responseBody, declared] at body
  obtain ⟨schema, inlined, same⟩ := map_eq_ok_iff.mp body
  obtain ⟨-, rfl⟩ := Prod.mk.inj same
  rw [← inlined, chosenSchema?, List.find?_filter, List.head?_filter]
  simp only [Bool.decide_and, Bool.decide_coe, Bool.and_comm]

end Document

/-- A reply with a JSON media type passes the schema check just when its body matches the one schema of its response. -/
theorem Check.schema_passes_iff {doc : Json} (document : doc.Ordered) {api : Api} (done : Document.read doc = .ok api)
    (openApi3 : api.dialect = .openApi3) {op : Operation} (member : op ∈ api.operations) (bodied : op.method ≠ .head)
    {r : Reply} {d : Json} (defined : Document.definition? doc op r.status.toNat = some d) {content : Members}
    (declared : (d.get? "content").bind Json.object? = some content) {media : String}
    (typed : r.contentType? = some media) (json : Media.isJson media = true) :
    (Document.chosenSchema? content = none → judge op r .schema = .pass .schema) ∧
      ∀ raw, Document.chosenSchema? content = some raw → ∃ documented,
        (∀ place, Document.Source.schema ⟨doc, .openApi3⟩ place raw = .ok documented) ∧
        (judge op r .schema = .pass .schema ↔
          ∃ v, Json.parse r.body = .ok v ∧ JsonSchema.accepts documented v = true) := by
  obtain ⟨response, produced, place, found, read⟩ := Document.response_of_definition document done member defined
  rw [openApi3] at read
  have kept := Document.response_schema read declared
  have looked : schemaFault? op r =
      response.schema.bind fun documented => bodyFault? documented true r.body := by
    rw [schemaFault?, found, Option.bind_some]
    cases response.schema <;> simp [bodied, typed, json]
  have passes : judge op r .schema = .pass .schema ↔ schemaFault? op r = none := by
    rw [judge_eq_pass_iff, fault?, Option.map_eq_none_iff]
  constructor
  · intro none
    rw [none] at kept
    have without : Option.none = response.schema := Except.ok.inj kept
    rw [passes, looked, ← without]
    rfl
  · intro raw chosen
    rw [chosen] at kept
    obtain ⟨documented, inlined, has⟩ := map_eq_ok_iff.mp kept
    refine ⟨documented, fun place' => Document.schema_anywhere place' inlined, ?_⟩
    have usable : JsonSchema.isSchema documented = true :=
      Document.isSchema_of_checkSchema (Document.response_eq_ok read).2.1 has.symm
    rw [passes, looked, ← has]
    exact bodyFault?_eq_none_iff usable

def ofType (name : String) : Json := .object [("type", .string name)]

def noteContent : Members :=
  [("application/json", .object [("schema", ofType "object")]),
    ("application/problem+json", .object [("schema", ofType "string")]),
    ("application/vnd.note+json", .object [])]

def noteDefinition : Json := .object [("content", .object noteContent)]

def notes : Json :=
  .object [
    ("openapi", .string "3.0.0"),
    ("paths", .object [
      ("/notes", .object [("get", .object [("responses", .object [("200", noteDefinition)])])])])]

def noteReply (media body : String) : Reply :=
  { status := 200, headers := [("content-type", media)], body, elapsedMicros := 0 }

theorem notes_read : ∃ api op, Document.read notes = .ok api ∧ api.dialect = .openApi3 ∧ op ∈ api.operations ∧
    op.method ≠ .head ∧ Document.definition? notes op 200 = some noteDefinition ∧
    op.response? 200 = some { contentTypes := NameMap.names noteContent, schema := some (ofType "object") } :=
  ⟨_, _, rfl, rfl, List.mem_cons_self, nofun, rfl, rfl⟩

theorem Json.parse_of_any {body : String} {p : Json → Bool} (fine : (parse body).toOption.any p = true) :
    ∃ v, parse body = .ok v ∧ p v = true := by
  cases parsed : parse body with
  | ok v => exact ⟨v, rfl, by simpa [parsed, Except.toOption] using fine⟩
  | error fault => simp [parsed, Except.toOption] at fine

theorem Check.notes_schema_passes_iff : ∃ api op, Document.read notes = .ok api ∧ op ∈ api.operations ∧
    Check.judge op (noteReply "application/problem+json" "\x7b\x7d") .schema = .pass .schema := by
  obtain ⟨api, op, read, openApi3, member, bodied, defined, -⟩ := notes_read
  obtain ⟨-, chosen⟩ := Check.schema_passes_iff (r := noteReply "application/problem+json" "\x7b\x7d")
    (by decide +kernel) read openApi3 member bodied defined rfl rfl rfl
  obtain ⟨documented, inlined, passes⟩ := chosen (ofType "object") rfl
  have same : Document.Source.schema ⟨notes, .openApi3⟩ "" (ofType "object") = .ok (ofType "object") := rfl
  obtain rfl := Except.ok.inj ((inlined "").symm.trans same)
  exact ⟨api, op, read, member, passes.mpr (Json.parse_of_any (by decide +kernel))⟩

-- A body that matches the schema of its own media type fails, and so does one whose media type has no schema.
theorem Check.own_schema_is_passed_over : ∃ api op content v, Document.read notes = .ok api ∧ api.dialect = .openApi3 ∧
    op ∈ api.operations ∧ op.method ≠ .head ∧
    (Document.definition? notes op 200).bind (fun d => (d.get? "content").bind Json.object?) = some content ∧
    Json.parse "\"x\"" = .ok v ∧
    (∃ media raw documented, ("application/problem+json", media) ∈ content ∧
      Media.isJson "application/problem+json" = true ∧ media.get? "schema" = some raw ∧
      Document.Source.schema ⟨notes, .openApi3⟩ "" raw = .ok documented ∧ JsonSchema.accepts documented v = true ∧
      judge op (noteReply "application/problem+json" "\"x\"") .schema ≠ .pass .schema) ∧
    ∃ media, ("application/vnd.note+json", media) ∈ content ∧ Media.isJson "application/vnd.note+json" = true ∧
      media.get? "schema" = none ∧ judge op (noteReply "application/vnd.note+json" "\"x\"") .schema ≠ .pass .schema := by
  obtain ⟨api, op, read, openApi3, member, bodied, defined, responds⟩ := notes_read
  obtain ⟨v, parsed, text⟩ := @Json.parse_of_any "\"x\""
    (fun v => JsonSchema.accepts (ofType "string") v && !JsonSchema.accepts (ofType "object") v) (by decide +kernel)
  rw [Bool.and_eq_true, Bool.not_eq_true'] at text
  have fails (media : String) (typed : (noteReply media "\"x\"").contentType? = some media)
      (json : Media.isJson media = true) : judge op (noteReply media "\"x\"") .schema ≠ .pass .schema := by
    have looked : schemaFault? op (noteReply media "\"x\"") = bodyFault? (ofType "object") true "\"x\"" := by
      rw [schemaFault?, show op.response? (noteReply media "\"x\"").status.toNat = _ from responds]
      simp only [Option.bind_some, bodied, if_false, typed, json, if_true]
      rfl
    rw [Ne, judge_eq_pass_iff, fault?, Option.map_eq_none_iff, looked, bodyFault?_eq_none_iff (by decide +kernel)]
    rintro ⟨w, here, matched⟩
    obtain rfl := Except.ok.inj (parsed.symm.trans here)
    rw [text.2] at matched
    cases matched
  refine ⟨api, op, noteContent, v, read, openApi3, member, bodied, by rw [defined]; rfl, parsed, ?_, ?_⟩
  · exact ⟨_, ofType "string", ofType "string", List.mem_cons_of_mem _ List.mem_cons_self, by decide, rfl, rfl, text.1,
      fails _ rfl (by decide)⟩
  · exact ⟨_, List.mem_cons_of_mem _ (List.mem_cons_of_mem _ List.mem_cons_self), by decide, rfl, fails _ rfl (by decide)⟩

end SchemaProbe
