import SchemaProbe.Proofs.Exchange.Headers
import SchemaProbe.Proofs.Text.Replace
import SchemaProbe.Proofs.Url.Segments

set_option autoImplicit false

namespace SchemaProbe

structure PlainPath (path : String) (stops : List String) : Prop where
  written : path = Url.pathOf stops
  nonempty : stops ≠ []
  plain : ∀ s ∈ stops, Url.Plain s

namespace PlainPath

variable {path : String} {stops : List String}

theorem apart (follows : PlainPath path stops) : Url.Apart stops :=
  fun s member => (follows.plain s member).not_mem (by decide)

theorem path_eq_slash_iff (follows : PlainPath path stops) : path = "/" ↔ stops = [""] := by
  have root : Url.Apart [""] := Url.apart_singleton (by simp)
  rw [follows.written]
  exact Url.pathOf_inj follows.apart root

end PlainPath

theorem TestCase.fillSegment_plain (c : TestCase) {segment : String} (plain : Url.Plain segment) :
    c.fillSegment segment = segment := by
  have kept (name text : String) : Text.replaceAll (placeholder name) text segment = segment := by
    have starts : (placeholder name).toList.head? = some '\x7b' := by simp [placeholder]
    exact Text.replaceAll_of_not_mem starts text (plain.not_mem (by decide))
  unfold fillSegment
  induction c.operation.parametersIn .path with
  | nil => rfl
  | cons p ps ih => rw [List.foldl_cons, kept, ih]

theorem TestCase.segments_plain {c : TestCase} {stops : List String} (follows : PlainPath c.operation.path stops) :
    c.segments = stops.filter (· != "") := by
  have same : (stops.filter (· != "")).map c.fillSegment = (stops.filter (· != "")).map fun s => s :=
    List.map_congr_left fun s member => c.fillSegment_plain (follows.plain s (List.mem_of_mem_filter member))
  rw [List.map_id'] at same
  rw [segments, follows.written, Url.splitOn_pathOf follows.apart, List.filter_cons_of_neg (by decide), same]

theorem Service.apart_of_open {base : String} {headers : NameMap String} {service : Service}
    (opened : Service.open base headers = .ok service) : Url.Apart service.base.segments := by
  obtain ⟨url, parsed, done⟩ := bind_eq_ok_iff.mp opened
  cases done
  exact Url.apart_of_parse parsed

theorem Service.request_segments (service : Service) {c : TestCase} {stops : List String}
    (follows : PlainPath c.operation.path stops) :
    (service.request c).url.segments =
      Url.extended service.base.dropTrailingSlash.segments (stops.filter (· != "")) := by
  have plain : ∀ s ∈ stops.filter (· != ""), Url.Plain s ∧ s ≠ "" := by
    intro s member
    obtain ⟨listed, filled⟩ := List.mem_filter.mp member
    exact ⟨follows.plain s listed, by simpa using filled⟩
  rw [request, url, Url.addPairs_segments, TestCase.segments_plain follows, Url.foldl_push_plain _ plain]

/-- A request goes to the path of its operation, below the path of the base address less a slash at its end, if that
path has no empty segment. Two requests go to one path if theirs differ in the empty segments alone. -/
theorem Service.path_verbatim_iff {base : String} {headers : NameMap String} {service : Service}
    (opened : Service.open base headers = .ok service) {c : TestCase} {stops : List String}
    (follows : PlainPath c.operation.path stops) :
    ∃ request, service.prepare c = .ok request ∧
      (request.url.path = Text.dropSlash service.base.path ++ c.operation.path ↔
        "" ∉ stops ∧ service.base.path ≠ "//" ∨ c.operation.path = "/" ∧ service.base.path = "/") ∧
      ∀ c' stops', PlainPath c'.operation.path stops' → ∃ request', service.prepare c' = .ok request' ∧
        (request'.url.path = request.url.path ↔ stops'.filter (· != "") = stops.filter (· != "")) := by
  have apart := Service.apart_of_open opened
  have below {stops : List String} {path : String} (follows : PlainPath path stops) :
      Url.Apart (Url.extended service.base.dropTrailingSlash.segments (stops.filter (· != ""))) :=
    Url.apart_extended (Url.apart_dropTrailingSlash apart) fun s member =>
      follows.apart s (List.mem_of_mem_filter member)
  have solid (stops : List String) : ∀ s ∈ stops.filter (· != ""), s ≠ "" := by simp
  have path {c : TestCase} {stops : List String} (follows : PlainPath c.operation.path stops) :
      (service.request c).url.path =
        Url.pathOf (Url.extended service.base.dropTrailingSlash.segments (stops.filter (· != ""))) :=
    congrArg Url.pathOf (service.request_segments follows)
  refine ⟨service.request c, service.prepare_eq_ok c, ?_, fun c' stops' follows' => ?_⟩
  · have expected : Text.dropSlash service.base.path ++ c.operation.path =
        Url.pathOf (Url.bare service.base.segments ++ stops) := by
      rw [Url.pathOf_append, ← Url.dropSlash_pathOf apart, ← follows.written]
      rfl
    have apart' : Url.Apart (Url.bare service.base.segments ++ stops) :=
      Url.apart_append (Url.apart_bare apart) follows.apart
    have slash : Url.Apart [""] := Url.apart_singleton (by simp)
    have root : service.base.path = "/" ↔ service.base.segments = [""] := Url.pathOf_inj apart slash
    have double : service.base.path = "//" ↔ service.base.segments = ["", ""] :=
      Url.pathOf_inj apart (Url.apart_append slash slash)
    rw [path follows, expected, Url.pathOf_inj (below follows) apart', Url.dropTrailingSlash_segments,
      Url.extended_eq_append_iff _ follows.nonempty, follows.path_eq_slash_iff, root, ne_eq, ne_eq, double]
  · refine ⟨service.request c', service.prepare_eq_ok c', ?_⟩
    rw [path follows, path follows', Url.pathOf_inj (below follows') (below follows),
      Url.extended_inj (solid stops') (solid stops)]

def slashed : Json :=
  let item : Json := .object [
    ("get", .object [("responses", .object [("200", .object [("description", .string "Some notes.")])])])]
  .object [("openapi", .string "3.0.0"), ("paths", .object [("/notes", item), ("/notes/", item)])]

theorem slashed_read : ∃ api op op', Document.read slashed = .ok api ∧ api.operations = [op, op'] ∧
    op.path = "/notes" ∧ op'.path = "/notes/" ∧
    (∃ c, (CasePlan.ofOperation op {}).case? 0 = some (.ok c)) ∧
    ∃ c, (CasePlan.ofOperation op' {}).case? 0 = some (.ok c) := by
  refine ⟨_, _, _, rfl, rfl, rfl, rfl, ⟨_, rfl⟩, ⟨_, rfl⟩⟩

theorem Service.slashed_path_verbatim : ∃ api op op' c c' service request request',
    Document.read slashed = .ok api ∧ api.operations = [op, op'] ∧ op.path = "/notes" ∧ op'.path = "/notes/" ∧
    (CasePlan.ofOperation op {}).case? 0 = some (.ok c) ∧ (CasePlan.ofOperation op' {}).case? 0 = some (.ok c') ∧
    Service.open "http://127.0.0.1:1" [] = .ok service ∧ service.prepare c = .ok request ∧
    service.prepare c' = .ok request' ∧ request.url.path = "/notes" ∧ request'.url.path = "/notes" := by
  obtain ⟨api, op, op', read, operations, path, path', ⟨c, drawn⟩, ⟨c', drawn'⟩⟩ := slashed_read
  have own : c.operation = op := (CasePlan.case?_eq_some_ok drawn).1
  have own' : c'.operation = op' := (CasePlan.case?_eq_some_ok drawn').1
  have reached : (Service.open "http://127.0.0.1:1" []).toOption.map (·.base.path) = some "/" := by decide +kernel
  obtain ⟨service, opened, root⟩ := Option.map_eq_some_iff.mp reached
  rw [toOption_eq_some_iff] at opened
  have notes : PlainPath c.operation.path ["notes"] := by
    rw [own, path]
    exact ⟨by decide, by decide, by decide⟩
  have slash : PlainPath c'.operation.path ["notes", ""] := by
    rw [own', path']
    exact ⟨by decide, by decide, by decide⟩
  obtain ⟨request, prepared, verbatim, agree⟩ := Service.path_verbatim_iff opened notes
  obtain ⟨request', prepared', same⟩ := agree c' ["notes", ""] slash
  have first : request.url.path = "/notes" := by
    rw [verbatim.mpr (.inl ⟨by decide, by rw [root]; decide⟩), root, own, path]
    decide
  refine ⟨api, op, op', c, c', service, request, request', read, operations, path, path', drawn, drawn', opened, prepared,
    prepared', first, ?_⟩
  rw [same.mpr (by decide), first]

end SchemaProbe
