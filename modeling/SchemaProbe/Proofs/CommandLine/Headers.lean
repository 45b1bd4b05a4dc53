import SchemaProbe.CommandLine.Invocation
import SchemaProbe.Proofs.Exchange.Headers

set_option autoImplicit false

namespace SchemaProbe.CommandLine.Overrides

def readHeader? (text : String) : Option Headers.Given :=
  (Text.splitOnce? ':' text).map fun (name, value) => (Text.trim name, Text.trim value)

def givenHeaders (o : Overrides) : List Headers.Given := o.headers.filterMap readHeader?

-- The value of a spelling: that of the last flag so spelled, or else the configured one.
def spelled? (o : Overrides) (configured : NameMap String) (spelling : String) : Option String :=
  (NameMap.lastWhere? (·.1 == spelling) o.givenHeaders).or (NameMap.get? configured spelling)

-- Of the spellings of a name whose values can be sent, the last in the order of names.
structure LastSpelling (o : Overrides) (configured : NameMap String) (n spelling value : String) : Prop where
  spelled : o.spelled? configured spelling = some value
  writes : Headers.writes n (spelling, value) = true
  last : ∀ other v, o.spelled? configured other = some v → Headers.writes n (other, v) = true → other ≤ spelling

theorem lastSpelling_iff {o : Overrides} {configured : NameMap String} {n spelling value : String} :
    o.LastSpelling configured n spelling value ↔ o.spelled? configured spelling = some value ∧
      Headers.writes n (spelling, value) = true ∧
      ∀ other v, o.spelled? configured other = some v → Headers.writes n (other, v) = true → other ≤ spelling :=
  ⟨fun h => ⟨h.spelled, h.writes, h.last⟩, fun h => ⟨h.1, h.2.1, h.2.2⟩⟩

theorem addHeader_eq_ok {m m' : NameMap String} {text : String} (added : addHeader m text = .ok m') :
    ∃ e, readHeader? text = some e ∧ m' = NameMap.insert m e.1 e.2 := by
  unfold addHeader at added
  split at added
  next name value parted =>
    cases added
    exact ⟨(Text.trim name, Text.trim value), by rw [readHeader?, parted]; rfl, rfl⟩
  next => cases added

theorem foldlM_addHeader_eq_ok {texts : List String} {m m' : NameMap String}
    (added : texts.foldlM addHeader m = .ok m') :
    m' = (texts.filterMap readHeader?).foldl (fun m e => NameMap.insert m e.1 e.2) m := by
  induction texts generalizing m with
  | nil => exact (pure_eq_ok_iff.mp added).symm
  | cons text texts ih =>
    rw [List.foldlM_cons] at added
    obtain ⟨m₁, first, rest⟩ := bind_eq_ok_iff.mp added
    obtain ⟨e, read, rfl⟩ := addHeader_eq_ok first
    rw [List.filterMap_cons, read, List.foldl_cons]
    exact ih rest

section
variable {o : Overrides} {c c' : Config} (applied : o.apply c = .ok c')
include applied

theorem apply_headers : c'.headers = o.givenHeaders.foldl (fun m e => NameMap.insert m e.1 e.2) c.headers := by
  unfold apply at applied
  -- Whether a target or checks are given makes no difference to the headers.
  cases target : o.target <;> cases checks : o.checks <;> rw [target] at applied
  all_goals
    obtain ⟨target, -, rest⟩ := bind_eq_ok_iff.mp applied
    obtain ⟨headers, added, rest⟩ := bind_eq_ok_iff.mp rest
    rw [checks] at rest
    obtain ⟨checks, -, done⟩ := bind_eq_ok_iff.mp rest
    cases done
    exact foldlM_addHeader_eq_ok added

theorem get?_apply_headers (spelling : String) : NameMap.get? c'.headers spelling = o.spelled? c.headers spelling := by
  rw [apply_headers applied, NameMap.get?_foldl_insert, spelled?]

theorem open_values_iff (sorted : NameMap.Sorted c.headers) {base : String} {service : Service}
    (opened : Service.open base c'.headers = .ok service) {n v : String} :
    service.headers.values n = [v] ↔ ∃ spelling, o.LastSpelling c.headers n spelling v := by
  have sorted' : NameMap.Sorted c'.headers := apply_headers applied ▸ sorted.foldl_insert _
  have single : (Headers.lastWritten? n c'.headers).toList = [v] ↔ Headers.lastWritten? n c'.headers = some v := by
    cases Headers.lastWritten? n c'.headers <;> simp
  rw [Service.open_values opened, single, Headers.lastWritten?, sorted'.lastWhere?_eq_some_iff]
  simp only [get?_apply_headers applied, lastSpelling_iff]

end

theorem getLast?_filter {α : Type} {xs : List α} {x : α} (last : xs.getLast? = some x) {p : α → Bool}
    (holds : p x = true) : (xs.filter p).getLast? = some x := by
  obtain ⟨others, rfl⟩ := List.getLast?_eq_some_iff.mp last
  simp [holds]

theorem spelled?_of_lastFlag {o : Overrides} {n spelling value : String}
    (flag : (o.givenHeaders.filter fun e => Text.lowerAscii e.1 == n).getLast? = some (spelling, value))
    (configured : NameMap String) : o.spelled? configured spelling = some value := by
  have named : Text.lowerAscii spelling = n := by
    simpa using (List.mem_filter.mp (List.mem_of_getLast? flag)).2
  have own : o.givenHeaders.filter (·.1 == spelling) =
      (o.givenHeaders.filter fun e => Text.lowerAscii e.1 == n).filter (·.1 == spelling) := by
    rw [List.filter_filter]
    refine List.filter_congr fun e _ => ?_
    by_cases same : e.1 = spelling <;> simp [same, named]
  have last := getLast?_filter flag (p := (·.1 == spelling)) (beq_self_eq_true spelling)
  rw [spelled?, NameMap.lastWhere?, own, last]
  rfl

/-- The last flag of a name is sent if and only if the last spelling of that name has its value, as when no other
spelling comes behind its own. -/
theorem last_flag_is_sent_iff {o : Overrides} {c c' : Config} (sorted : NameMap.Sorted c.headers)
    (applied : o.apply c = .ok c')
    (valid : ∀ e ∈ o.givenHeaders, Headers.isToken e.1 = true ∧ Headers.isSendable e.2 = true) {base : String}
    {service : Service} (opened : Service.open base c'.headers = .ok service) {n spelling value : String}
    (flag : (o.givenHeaders.filter fun e => Text.lowerAscii e.1 == n).getLast? = some (spelling, value)) :
    (service.headers.values n = [value] ↔ ∃ last, o.LastSpelling c.headers n last value) ∧
      ((∀ other v, o.spelled? c.headers other = some v → Headers.writes n (other, v) = true → other ≤ spelling) →
        service.headers.values n = [value]) := by
  have sent := open_values_iff applied sorted opened (n := n) (v := value)
  refine ⟨sent, fun last => sent.mpr ⟨spelling, spelled?_of_lastFlag flag _, ?_, last⟩⟩
  obtain ⟨given, named⟩ := List.mem_filter.mp (List.mem_of_getLast? flag)
  obtain ⟨token, sendable⟩ := valid _ given
  exact Headers.writes_iff.mpr ⟨⟨token, beq_iff_eq.mp named⟩, sendable⟩

def tokenFlag : Overrides := { headers := ["Authorization: flag"] }

-- A configuration with a token under a spelling of its own.
def tokenConfig (spelling : String) : Config := { headers := [(spelling, "file")] }

-- What is sent under `authorization` with the flag over the configuration.
def sentToken? (spelling : String) : Option (List String) :=
  (tokenFlag.apply (tokenConfig spelling)).toOption.bind fun c =>
    (Service.open "http://127.0.0.1:1" c.headers).toOption.map fun service => service.headers.values "authorization"

theorem exists_of_sentToken? {spelling : String} {sent : List String} (found : sentToken? spelling = some sent) :
    ∃ c' service, tokenFlag.apply (tokenConfig spelling) = .ok c' ∧
      Service.open "http://127.0.0.1:1" c'.headers = .ok service ∧ service.headers.values "authorization" = sent := by
  obtain ⟨c', applied, found⟩ := Option.bind_eq_some_iff.mp found
  obtain ⟨service, opened, same⟩ := Option.map_eq_some_iff.mp found
  exact ⟨c', service, toOption_eq_some_iff.mp applied, toOption_eq_some_iff.mp opened, same⟩

theorem token_flag_is_sent :
    (∃ c' service, tokenFlag.apply (tokenConfig "Authorization") = .ok c' ∧
      Service.open "http://127.0.0.1:1" c'.headers = .ok service ∧
      service.headers.values "authorization" = ["flag"]) ∧
    ∃ c' service, tokenFlag.apply (tokenConfig "authorization") = .ok c' ∧
      Service.open "http://127.0.0.1:1" c'.headers = .ok service ∧
      service.headers.values "authorization" = ["file"] ∧
      ¬ ∃ last, tokenFlag.LastSpelling (tokenConfig "authorization").headers "authorization" last "flag" := by
  have given : tokenFlag.givenHeaders = [("Authorization", "flag")] := by decide +kernel
  have valid : ∀ e ∈ tokenFlag.givenHeaders, Headers.isToken e.1 = true ∧ Headers.isSendable e.2 = true := by
    decide +kernel
  have flag : (tokenFlag.givenHeaders.filter fun e => Text.lowerAscii e.1 == "authorization").getLast? =
      some ("Authorization", "flag") := by decide +kernel
  have sorted (spelling : String) : NameMap.Sorted (tokenConfig spelling).headers := List.pairwise_singleton _ _
  have above : sentToken? "Authorization" = some ["flag"] := by decide +kernel
  have behind : sentToken? "authorization" = some ["file"] := by decide +kernel
  obtain ⟨c, service, applied, opened, -⟩ := exists_of_sentToken? above
  obtain ⟨c', service', applied', opened', file⟩ := exists_of_sentToken? behind
  refine ⟨⟨c, service, applied, opened, ?_⟩, c', service', applied', opened', file, fun last => ?_⟩
  · refine (last_flag_is_sent_iff (sorted _) applied valid opened flag).2 fun other v spelled _ => ?_
    by_cases same : other = "Authorization"
    · exact same ▸ Std.le_refl _
    · have nothing : tokenFlag.spelled? (tokenConfig "Authorization").headers other = none := by
        simp [spelled?, given, NameMap.lastWhere?, tokenConfig, NameMap.get?_cons, same, Ne.symm same]
      rw [nothing] at spelled
      cases spelled
  · have sent := (last_flag_is_sent_iff (sorted _) applied' valid opened' flag).1.mpr last
    rw [file] at sent
    exact absurd sent (by decide)

end SchemaProbe.CommandLine.Overrides
