import Mathlib.Data.List.Nodup
import SchemaProbe.Proofs.Run.Prepare

set_option autoImplicit false

namespace SchemaProbe

namespace Headers

-- A header as it is given, before its name is brought to lower case.
abbrev Given := String × String

def values (h : Headers) (n : String) : List String := (h.filter (·.1 == n)).map Prod.snd

-- Whether setting the header writes under the name.
def writes (n : String) (e : Given) : Bool := name? e.1 == some n && isSendable e.2

def lastWritten? (n : String) (entries : List Given) : Option String := NameMap.lastWhere? (writes n) entries

theorem name?_eq_some_iff {name n : String} : name? name = some n ↔ isToken name = true ∧ Text.lowerAscii name = n := by
  unfold name?
  split <;> simp_all

theorem writes_iff {n : String} {e : Given} :
    writes n e = true ↔ (isToken e.1 = true ∧ Text.lowerAscii e.1 = n) ∧ isSendable e.2 = true := by
  rw [writes, Bool.and_eq_true, beq_iff_eq, name?_eq_some_iff]

theorem values_put (h : Headers) (m n v : String) : (h.put m v).values n = if m = n then [v] else h.values n := by
  rw [put, values, List.filter_append, List.map_append, List.filter_filter]
  by_cases same : m = n
  · simp [same]
  · have kept : h.filter (fun e => e.1 == n && e.1 != m) = h.filter (·.1 == n) := by
      refine List.filter_congr fun e _ => ?_
      by_cases here : e.1 = n <;> simp [here, Ne.symm same]
    simp [same, kept, values]

theorem values_set (h : Headers) (n : String) (e : Given) :
    (h.set e.1 e.2).values n = if writes n e then [e.2] else h.values n := by
  unfold set
  cases named : name? e.1 with
  | none => simp [writes, named]
  | some m =>
    cases sendable : isSendable e.2 with
    | false => simp [writes, named, sendable]
    | true => simp [writes, named, sendable, values_put]

theorem values_foldl_set (h : Headers) (n : String) (entries : List Given) :
    (entries.foldl (fun h e => h.set e.1 e.2) h).values n = (lastWritten? n entries).elim (h.values n) ([·]) := by
  induction entries generalizing h with
  | nil => rfl
  | cons e entries ih =>
    rw [List.foldl_cons, ih, values_set, lastWritten?, lastWritten?, NameMap.lastWhere?_cons]
    cases NameMap.lastWhere? (writes n) entries with
    | some later => rfl
    | none => split <;> rfl

theorem lastWritten?_of_distinct {entries : List Given}
    (distinct : (entries.map fun e => Text.lowerAscii e.1).Nodup) {e : Given} (member : e ∈ entries) {n : String}
    (written : writes n e = true) : lastWritten? n entries = some e.2 := by
  obtain ⟨v, stands⟩ := Option.isSome_iff_exists.mp (NameMap.lastWhere?_isSome member written)
  obtain ⟨e', member', written', rfl⟩ := NameMap.exists_of_lastWhere? stands
  have same : Text.lowerAscii e'.1 = Text.lowerAscii e.1 :=
    (writes_iff.mp written').1.2.trans (writes_iff.mp written).1.2.symm
  rw [lastWritten?, stands, List.inj_on_of_nodup_map distinct member' member same]

end Headers

theorem Service.open_values {base : String} {headers : NameMap String} {service : Service}
    (opened : Service.open base headers = .ok service) (n : String) :
    service.headers.values n = (Headers.lastWritten? n headers).toList := by
  obtain ⟨url, -, done⟩ := bind_eq_ok_iff.mp opened
  cases done
  rw [Headers.values_foldl_set]
  cases Headers.lastWritten? n headers <;> rfl

namespace TestCase

def givenHeaders (c : TestCase) : List Headers.Given :=
  (c.valuesIn .header).map fun (p, v) => (p.name, v.rendered p.style)

-- What the header parameters of a case write under a name: the text of the last of them that can be sent.
def ownHeader? (c : TestCase) (n : String) : Option String := Headers.lastWritten? n c.givenHeaders

end TestCase

theorem Service.request_values (service : Service) (c : TestCase) (n : String) :
    (service.request c).headers.values n = (c.ownHeader? n).elim (service.headers.values n) ([·]) := by
  have folded : (service.request c).headers = c.givenHeaders.foldl (fun h e => h.set e.1 e.2) service.headers := by
    rw [TestCase.givenHeaders, List.foldl_map]
    rfl
  rw [folded, Headers.values_foldl_set, TestCase.ownHeader?]

/-- A configured header is sent with its value and no other, unless the case has a header of its own under that name;
then that one is sent in its place. -/
theorem Service.sends_configured_iff {base : String} {headers : NameMap String} {service : Service}
    (opened : Service.open base headers = .ok service)
    (valid : ∀ e ∈ headers, Headers.isToken e.1 = true ∧ Headers.isSendable e.2 = true)
    (distinct : (headers.map fun e => Text.lowerAscii e.1).Nodup) {e : Headers.Given} (configured : e ∈ headers)
    (c : TestCase) :
    ∃ request, service.prepare c = .ok request ∧
      request.headers.values (Text.lowerAscii e.1) = [(c.ownHeader? (Text.lowerAscii e.1)).getD e.2] ∧
      (request.headers.values (Text.lowerAscii e.1) = [e.2] ↔
        ∀ own, c.ownHeader? (Text.lowerAscii e.1) = some own → own = e.2) := by
  obtain ⟨token, sendable⟩ := valid e configured
  have stands := Headers.lastWritten?_of_distinct distinct configured (Headers.writes_iff.mpr ⟨⟨token, rfl⟩, sendable⟩)
  have sent : (service.request c).headers.values (Text.lowerAscii e.1) =
      [(c.ownHeader? (Text.lowerAscii e.1)).getD e.2] := by
    rw [Service.request_values, Service.open_values opened, stands]
    cases c.ownHeader? (Text.lowerAscii e.1) <;> rfl
  refine ⟨service.request c, service.prepare_eq_ok c, sent, ?_⟩
  rw [sent, List.singleton_inj]
  cases c.ownHeader? (Text.lowerAscii e.1) <;> simp

def keyed : Json :=
  .object [
    ("openapi", .string "3.0.0"),
    ("paths", .object [
      ("/notes", .object [
        ("get", .object [
          ("parameters", .array [
            .object [
              ("in", .string "header"),
              ("name", .string "X-Api-Key"),
              ("required", .bool true),
              ("schema", .object [("type", .string "string")])]]),
          ("responses", .object [("200", .object [("description", .string "Some notes.")])])])])])]

def credentials : NameMap String := [("X-Api-Key", "k-1"), ("X-Trace", "t-1")]

-- The first case of the first operation of a document.
def Document.firstCase? (doc : Json) : Option TestCase :=
  (Document.read doc).toOption.bind fun api => api.operations.head?.bind fun op =>
    ((CasePlan.ofOperation op {}).case? 0).bind Except.toOption

theorem Document.exists_of_firstCase? {doc : Json} {c : TestCase} (first : Document.firstCase? doc = some c) :
    ∃ api, Document.read doc = .ok api ∧ ∃ op ∈ api.operations, (CasePlan.ofOperation op {}).case? 0 = some (.ok c) := by
  obtain ⟨api, read, first⟩ := Option.bind_eq_some_iff.mp first
  obtain ⟨op, head, first⟩ := Option.bind_eq_some_iff.mp first
  obtain ⟨drawn, here, done⟩ := Option.bind_eq_some_iff.mp first
  rw [toOption_eq_some_iff] at read done
  subst done
  exact ⟨api, read, op, List.mem_of_head? head, here⟩

theorem Service.keyed_sends_configured : ∃ api op c service request, Document.read keyed = .ok api ∧
    op ∈ api.operations ∧ (CasePlan.ofOperation op {}).case? 0 = some (.ok c) ∧
    Service.open "http://127.0.0.1:1" credentials = .ok service ∧ service.prepare c = .ok request ∧
    request.headers.values "x-trace" = ["t-1"] ∧ request.headers.values "x-api-key" = ["sample"] ∧
    request.headers.values "x-api-key" ≠ ["k-1"] := by
  have own : (Document.firstCase? keyed).map (fun c => (c.ownHeader? "x-api-key", c.ownHeader? "x-trace")) =
      some (some "sample", none) := by decide +kernel
  have reached : (Service.open "http://127.0.0.1:1" credentials).toOption.isSome = true := by decide +kernel
  have valid : ∀ e ∈ credentials, Headers.isToken e.1 = true ∧ Headers.isSendable e.2 = true := by decide +kernel
  have distinct : (credentials.map fun e => Text.lowerAscii e.1).Nodup := by decide +kernel
  have key : Text.lowerAscii "X-Api-Key" = "x-api-key" := by decide +kernel
  have trace : Text.lowerAscii "X-Trace" = "x-trace" := by decide +kernel
  obtain ⟨c, first, both⟩ := Option.map_eq_some_iff.mp own
  obtain ⟨ownKey, ownTrace⟩ := Prod.mk.inj both
  obtain ⟨api, read, op, member, drawn⟩ := Document.exists_of_firstCase? first
  obtain ⟨service, opened⟩ := Option.isSome_iff_exists.mp reached
  rw [toOption_eq_some_iff] at opened
  obtain ⟨request, prepared, sentKey, unchanged⟩ := Service.sends_configured_iff opened valid distinct
    (e := ("X-Api-Key", "k-1")) (by simp [credentials]) c
  obtain ⟨request', prepared', sentTrace, -⟩ := Service.sends_configured_iff opened valid distinct
    (e := ("X-Trace", "t-1")) (by simp [credentials]) c
  obtain rfl : request = request' := Except.ok.inj (prepared.symm.trans prepared')
  simp only [key, ownKey] at sentKey unchanged
  simp only [trace, ownTrace] at sentTrace
  refine ⟨api, op, c, service, request, read, member, drawn, opened, prepared, sentTrace, sentKey, fun kept => ?_⟩
  exact absurd (unchanged.mp kept "sample" rfl) (by decide)

end SchemaProbe
