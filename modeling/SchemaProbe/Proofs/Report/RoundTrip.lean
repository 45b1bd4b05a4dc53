import SchemaProbe.Proofs.Json.Decode
import SchemaProbe.Report.Written

set_option autoImplicit false

namespace SchemaProbe

namespace Written

def textMap? (m : NameMap String) : Option Json := if m.isEmpty then none else some (textMap m)

theorem optionalMap_eq (name : String) (m : NameMap String) :
    optionalMap name m = ((textMap? m).map (Prod.mk name)).toList := by
  unfold optionalMap textMap?
  split <;> rfl

end Written

namespace Fields

open Decoder

variable {entry : String → Option Json} {name : String}

theorem textMap_reads {m : NameMap String} (sorted : NameMap.Sorted m) (at? : entry name = Written.textMap? m) :
    (defaulted name (map string) []).Reads entry m := by
  cases m with
  | nil => exact defaulted_reads (fun v found => nomatch at?.symm.trans found) fun _ => rfl
  | cons e m => exact single_reads at? (reads_map sorted)

theorem text_reads {s : Option String} (at? : entry name = s.map .string) :
    (defaulted name (nullable string) none).Reads entry s := by
  cases s with
  | none => exact defaulted_reads (fun v found => nomatch at?.symm.trans found) fun _ => rfl
  | some s => exact single_reads at? (reads_nullable_string s)

theorem natural_reads {α : Type} {ofNat : Nat → α} {n largest : Nat} {expected : String}
    {absent : Nat → Except FieldMisfit Nat} {a : α} (found : entry name = some (.ofNat n)) (fits : n < largest + 1)
    (same : ofNat n = a) : (ofNat <$> single name (natural largest expected) absent).Reads entry a :=
  same ▸ map_reads ofNat (single_reads found (reads_natural (Nat.le_of_lt_succ fits) expected))

end Fields

open Fields

theorem RequestRecord.reads {r : RequestRecord} (sorted : NameMap.Sorted r.headers) : decode.Reads r.toJson r := by
  have written : r.toJson = .object (NameMap.given [("method", some (.string r.method)), ("url", some (.string r.url)),
      ("headers", Written.textMap? r.headers), ("body", r.body.map .string)]) := by
    simp [toJson, NameMap.given, Written.optionalMap_eq, Written.optional]
  rw [written]
  refine decode_given_reads (by simp [NameMap.names]) ?_
  refine seq_reads (seq_reads (seq_reads (map_reads _ ?_) ?_) ?_) ?_
  · exact single_reads rfl (Decoder.reads_string r.method)
  · exact single_reads rfl (Decoder.reads_string r.url)
  · exact textMap_reads sorted rfl
  · exact text_reads rfl

theorem ReplyRecord.reads {r : ReplyRecord} (sorted : NameMap.Sorted r.headers) : decode.Reads r.toJson r := by
  have written : r.toJson = .object (NameMap.given [("status_code", some (.ofNat r.status.toNat)),
      ("headers", Written.textMap? r.headers), ("body", r.body.map .string),
      ("elapsed_ms", some (.ofNat r.elapsedMillis.toNat))]) := by
    simp [toJson, NameMap.given, Written.optionalMap_eq, Written.optional]
  rw [written]
  refine decode_given_reads (by simp [NameMap.names]) ?_
  refine seq_reads (seq_reads (seq_reads (map_reads _ ?_) ?_) ?_) ?_
  · exact natural_reads rfl r.status.toNat_lt UInt16.ofNat_toNat
  · exact textMap_reads sorted rfl
  · exact text_reads rfl
  · exact natural_reads rfl r.elapsedMillis.toNat_lt UInt64.ofNat_toNat

theorem Check.named_name (c : Check) : Decoder.named Check.named c.name = .ok c := by
  cases c <;> rfl

theorem CheckResult.reads (r : CheckResult) : decode.Reads r.toJson r := by
  have written : r.toJson = .object (NameMap.given [("check", some (.string r.check.name)),
      ("passed", some (.bool r.passed)), ("message", r.message.map .string)]) := by
    simp [toJson, NameMap.given, Written.optional]
  rw [written]
  refine decode_given_reads (by simp [NameMap.names]) ?_
  refine seq_reads (seq_reads (map_reads _ ?_) ?_) ?_
  · exact single_reads rfl fun f re => by rw [re.string]; exact r.check.named_name
  · exact single_reads rfl (Decoder.reads_bool r.passed)
  · exact text_reads rfl

namespace Outcome

theorem reads_of_kind {ms : Members} (distinct : (NameMap.names ms).Nodup) {kind : String} {fields : Fields Outcome}
    {names : List String} {expected : String} (tagged : NameMap.get? ms "kind" = some (.string kind))
    (known : Decoder.named kinds kind = .ok (fields.decode names expected)) {o : Outcome}
    (reads : fields.Reads (fun name => if name = "kind" then none else NameMap.get? ms name) o) :
    decode.Reads (.object ms) o := fun f re => by
  obtain ⟨ns, moved, distinct, at?⟩ := re.object ms distinct
  have tag : (required "kind" decodeKind).read ns = .ok (fields.decode names expected) :=
    single_reads tagged (fun f re => by rw [re.string]; exact known) f re ns distinct at?
  have others : fields.read (ns.filter (·.1 != "kind")) = .ok o := by
    refine reads f re _ (distinct.sublist (List.filter_sublist.map Prod.fst)) fun name => ?_
    rw [NameMap.get?_filter ns name (· != "kind"), at?]
    by_cases same : name = "kind" <;> simp [same]
  rw [moved, decode, tag]
  change (fields.read (ns.filter (·.1 != "kind"))).mapError (·.misfit) = _
  rw [others]
  rfl

-- The header maps that an outcome has.
def HeadersSorted : Outcome → Prop
  | checked reply _ => NameMap.Sorted reply.headers
  | _ => True

theorem reads {o : Outcome} (sorted : o.HeadersSorted) : decode.Reads o.toJson o := by
  cases o with
  | checked reply results =>
    refine reads_of_kind (by simp [NameMap.names]) rfl rfl (seq_reads (map_reads _ ?_) ?_)
    · exact single_reads rfl (ReplyRecord.reads sorted)
    · exact single_reads rfl (Decoder.reads_list fun r _ => r.reads)
  | failed message =>
    exact reads_of_kind (by simp [NameMap.names]) rfl rfl (map_reads _ (single_reads rfl (Decoder.reads_string message)))
  | inconclusive reason =>
    exact reads_of_kind (by simp [NameMap.names]) rfl rfl (map_reads _ (single_reads rfl (Decoder.reads_string reason)))

end Outcome

def CaseRecord.HeadersSorted (c : CaseRecord) : Prop := NameMap.Sorted c.request.headers ∧ c.outcome.HeadersSorted

theorem CaseRecord.reads {c : CaseRecord} (sorted : c.HeadersSorted) : decode.Reads c.toJson c := by
  have written : c.toJson = .object (NameMap.given [("id", some (.string c.id)),
      ("operation", some (.string c.operation)), ("index", some (.ofNat c.index.toNat)),
      ("target_status", c.target.map .string), ("request", some c.request.toJson),
      ("outcome", some c.outcome.toJson)]) := by
    simp [toJson, NameMap.given, Written.optional]
  rw [written]
  refine decode_given_reads (by simp [NameMap.names]) ?_
  refine seq_reads (seq_reads (seq_reads (seq_reads (seq_reads (map_reads _ ?_) ?_) ?_) ?_) ?_) ?_
  · exact single_reads rfl (Decoder.reads_string c.id)
  · exact single_reads rfl (Decoder.reads_string c.operation)
  · exact natural_reads rfl c.index.toNat_lt UInt32.ofNat_toNat
  · exact text_reads rfl
  · exact single_reads rfl (RequestRecord.reads sorted.1)
  · exact single_reads rfl (Outcome.reads sorted.2)

theorem Skipped.reads (s : Skipped) : decode.Reads s.toJson s := by
  refine decode_reads (by simp [NameMap.names]) (seq_reads (map_reads _ ?_) ?_)
  · exact single_reads rfl (Decoder.reads_string s.operation)
  · exact single_reads rfl (Decoder.reads_string s.reason)

namespace RunReport

theorem reads {r : RunReport} (finite : r.seconds.isFinite = true) (sorted : ∀ c ∈ r.cases, c.HeadersSorted) :
    decode.Reads r.toJson r := by
  refine decode_reads (by simp [NameMap.names]) ?_
  refine seq_reads (seq_reads (seq_reads (seq_reads (seq_reads (seq_reads (seq_reads (seq_reads (map_reads _ ?_)
    ?_) ?_) ?_) ?_) ?_) ?_) ?_) ?_
  · exact single_reads rfl (Decoder.reads_string r.baseUrl)
  · exact single_reads rfl (Decoder.reads_string r.schema)
  · have names : Written.texts (r.checks.map Check.name) = .array (r.checks.map fun c => .string c.name) := by
      simp [Written.texts]
    refine single_reads rfl (names ▸ Decoder.reads_list fun c _ f re => ?_)
    rw [re.string]
    exact c.named_name
  · exact single_reads rfl (Decoder.reads_list fun s _ => Decoder.reads_string s)
  · exact single_reads rfl (Decoder.reads_list fun c member => CaseRecord.reads (sorted c member))
  · exact single_reads rfl (Decoder.reads_list fun s _ => s.reads)
  · exact single_reads rfl (Decoder.reads_binary64 finite)
  · exact natural_reads rfl r.seed.toNat_lt UInt64.ofNat_toNat
  · exact single_reads rfl (Decoder.reads_bool r.timedOut)

theorem decode_toJson {r : RunReport} (finite : r.seconds.isFinite = true)
    (sorted : ∀ c ∈ r.cases, c.HeadersSorted) : decode r.toJson = .ok r ∧ decode r.toJson.sorted = .ok r :=
  ⟨reads finite sorted id Json.rearranges_id, reads finite sorted Json.sorted Json.rearranges_sorted⟩

-- A case of each kind, with and without the fields that may be left out.
def notesReport : RunReport where
  baseUrl := "http://service.test"
  schema := "notes.json"
  checks := [.status, .schema]
  operations := ["GET /notes", "POST /notes"]
  cases := [
    { id := "00", operation := "GET /notes", index := 0, target := some "200"
      request := { method := "GET", url := "http://service.test/notes", headers := [("accept", "*/*"), ("x-trace", "1")] }
      outcome := .checked { status := 500, body := some "{}", elapsedMillis := 18446744073709551615 }
        [⟨.status, true, none⟩, ⟨.schema, false, some "not a list"⟩] },
    { id := "01", operation := "POST /notes", index := 1
      request := { method := "POST", url := "http://service.test/notes", body := some "" }
      outcome := .failed "refused" },
    { id := "02", operation := "POST /notes", index := 2
      request := { method := "POST", url := "http://service.test/notes" }, outcome := .inconclusive "out of time" }]
  skipped := [⟨"PUT /notes", "no values"⟩]
  seconds := 1
  seed := 18446744073709551615
  timedOut := true

theorem notesReport_decode_toJson : notesReport.seconds.isFinite = true ∧
    (∀ c ∈ notesReport.cases, c.HeadersSorted) ∧ decode notesReport.toJson = .ok notesReport ∧
    decode notesReport.toJson.sorted = .ok notesReport := by
  have finite : notesReport.seconds.isFinite = true := by decide
  have named : NameMap.Sorted [("accept", "*/*"), ("x-trace", "1")] := List.pairwise_pair.mpr (by decide)
  have sorted : ∀ c ∈ notesReport.cases, c.HeadersSorted := by
    simp only [notesReport, List.forall_mem_cons]
    exact ⟨⟨named, .nil⟩, ⟨.nil, trivial⟩, ⟨.nil, trivial⟩, nofun⟩
  exact ⟨finite, sorted, decode_toJson finite sorted⟩

end RunReport

end SchemaProbe
