import SchemaProbe.Proofs.Binary64.Value
import SchemaProbe.Run.Prepare

set_option autoImplicit false

namespace SchemaProbe

structure Config.SpansFit (c : Config) : Prop where
  request : c.requestTimeout.toRat < 2 ^ 64
  run : ∀ t, c.runTimeout = some t → t.toRat < 2 ^ 64

structure Config.Overruns (c : Config) : Prop where
  valid : c.validate = .ok ()
  destination : ∃ d, c.destination = .ok d
  long : ¬c.SpansFit

namespace Config

theorem isPositive_iff {x : Binary64} : isPositive x = true ↔ x.isFinite = true ∧ 0 < x.toRat := by
  rw [isPositive, Bool.and_eq_true]
  refine and_congr_right fun finite => ?_
  rw [← Binary64.toRat_zero]
  exact Binary64.lt_iff Binary64.zero_finite finite

theorem isNotNegative_iff {x : Binary64} : isNotNegative x = true ↔ x.isFinite = true ∧ 0 ≤ x.toRat := by
  rw [isNotNegative, Bool.and_eq_true]
  refine and_congr_right fun finite => ?_
  rw [← Binary64.toRat_zero]
  exact Binary64.le_iff Binary64.zero_finite finite

theorem validate_eq_ok_iff {c : Config} : c.validate = .ok () ↔
    c.concurrency ≠ 0 ∧ isPositive c.requestTimeout = true ∧ c.runTimeout.all isNotNegative = true ∧
      c.checks.isEmpty = false := by
  have negated : c.runTimeout.any (!isNotNegative ·) = !c.runTimeout.all isNotNegative := by
    cases c.runTimeout <;> simp
  simp only [validate, negated]
  by_cases idle : c.concurrency = 0 <;>
  cases isPositive c.requestTimeout <;>
  cases c.runTimeout.all isNotNegative <;>
  cases c.checks.isEmpty <;>
  simp [idle, bind, Except.bind, throw, throwThe, MonadExceptOf.throw, pure, Except.pure]

end Config

namespace RunSettings

theorem nanoseconds?_isSome_iff {x : Binary64} (finite : x.isFinite = true) (above : 0 ≤ x.toRat) :
    (nanoseconds? x).isSome = true ↔ x.toRat < 2 ^ 64 := by
  have notLess : Binary64.lt x (Binary64.ofNat 0) = false := by
    rw [Bool.eq_false_iff]
    intro less
    have below := (Binary64.lt_iff finite Binary64.zero_finite).mp less
    rw [Binary64.toRat_zero] at below
    exact absurd above (Rat.not_le.mpr below)
  have limit : ((2 ^ 64 : Nat) : Rat) = 2 ^ 64 := Nat.cast_pow 2 64
  simp only [nanoseconds?, finite, notLess, limit, Bool.not_true, Bool.false_or, decide_eq_true_eq]
  split
  next long => exact iff_of_false Bool.false_ne_true (Rat.not_lt.mpr long)
  next short => exact iff_of_true rfl (Rat.not_le.mp short)

theorem ofConfig?_isSome_iff {c : Config} (valid : c.validate = .ok ()) (drawn : UInt64) :
    (ofConfig? c drawn).isSome = true ↔ c.SpansFit := by
  obtain ⟨-, positive, bounded, -⟩ := Config.validate_eq_ok_iff.mp valid
  obtain ⟨finite, above⟩ := Config.isPositive_iff.mp positive
  have request := nanoseconds?_isSome_iff finite (Rat.le_of_lt above)
  have made : (ofConfig? c drawn).isSome = true ↔
      (nanoseconds? c.requestTimeout).isSome = true ∧ c.runTimeout.all fun t => (nanoseconds? t).isSome := by
    unfold ofConfig?
    cases nanoseconds? c.requestTimeout with
    | none => simp
    | some span =>
      cases c.runTimeout with
      | none => simp
      | some t => cases told : nanoseconds? t <;> simp [told]
  rw [made, request]
  cases given : c.runTimeout with
  | none => exact ⟨fun ⟨short, _⟩ => ⟨short, by simp [given]⟩, fun fits => ⟨fits.request, rfl⟩⟩
  | some t =>
    rw [given] at bounded
    obtain ⟨finite', above'⟩ := Config.isNotNegative_iff.mp bounded
    rw [Option.all_some, nanoseconds?_isSome_iff finite' above']
    constructor
    · rintro ⟨short, short'⟩
      refine ⟨short, fun u same => ?_⟩
      cases given.symm.trans same
      exact short'
    · exact fun fits => ⟨fits.request, fits.run t given⟩

end RunSettings

namespace Probe

theorem aim_eq_error_iff (c : Config) (drawn : UInt64) : aim c drawn = .error .spanTooLong ↔ c.Overruns := by
  have overruns (valid : c.validate = .ok ()) (d : Destination) (led : c.destination = .ok d) :
      c.Overruns ↔ (RunSettings.ofConfig? c drawn).isSome = false := by
    rw [← Bool.not_eq_true, RunSettings.ofConfig?_isSome_iff valid]
    exact ⟨Config.Overruns.long, fun long => ⟨valid, ⟨d, led⟩, long⟩⟩
  unfold aim
  cases valid : c.validate with
  | error fault => exact iff_of_false nofun fun o => by simp [o.valid] at valid
  | ok _ =>
    cases led : c.destination with
    | error fault =>
      refine iff_of_false nofun fun o => ?_
      obtain ⟨d, found⟩ := o.destination
      cases led.symm.trans found
    | ok d =>
      rw [overruns valid d led]
      cases RunSettings.ofConfig? c drawn with
      | none => exact iff_of_true rfl rfl
      | some s => exact iff_of_false nofun nofun

theorem withDocument_ne_spanTooLong (d : Destination) (s : RunSettings) (found : Except String String) :
    withDocument d s found ≠ .error .spanTooLong := by
  unfold withDocument
  split
  next => nofun
  next => split <;> nofun

/-- Settings are made of a configuration that passes the checks if and only if its spans of time are less than 2^64
seconds. A longer one ends the preparation of a run where settings are made; every other preparation leads to a run
or to a fault in the configuration or the document. -/
theorem settings_made_iff {m : Type → Type} [Monad m] [LawfulMonad m] (files : Files m) (network : Network m)
    (c : Config) (drawn : UInt64) :
    (c.validate = .ok () → ((RunSettings.ofConfig? c drawn).isSome = true ↔ c.SpansFit)) ∧
    (c.Overruns → ofConfig files network c drawn = pure (.error .spanTooLong)) ∧
    (¬c.Overruns → ∃ ends : m { r : Except PrepareFault Probe // r ≠ .error .spanTooLong },
      Subtype.val <$> ends = ofConfig files network c drawn) := by
  refine ⟨fun valid => RunSettings.ofConfig?_isSome_iff valid drawn, fun overruns => ?_, fun fits => ?_⟩
  · rw [ofConfig, (aim_eq_error_iff c drawn).mpr overruns]
  · rw [← aim_eq_error_iff c drawn] at fits
    unfold ofConfig
    cases aimed : aim c drawn with
    | error fault =>
      refine ⟨pure ⟨.error fault, fun same => fits ?_⟩, map_pure _ _⟩
      rw [aimed]
      cases same
      rfl
    | ok r =>
      refine ⟨(fun found => ⟨withDocument r.1 r.2 found, withDocument_ne_spanTooLong r.1 r.2 found⟩) <$>
        r.1.schema.fetch files network, ?_⟩
      rw [← comp_map, map_eq_pure_bind]
      rfl

-- A hundred million million million seconds for each request.
def patient : Config where
  baseUrl := some "http://127.0.0.1:1"
  schema := some "d.json"
  requestTimeout := ⟨0x4415af1d78b58c40⟩

theorem patient_overruns : patient.validate = .ok () ∧ RunSettings.ofConfig? patient 1 = none ∧
    ofConfig FileTree.access Network.offline patient 1 = pure (.error .spanTooLong) ∧
    (RunSettings.ofConfig? {} 1).isSome = true := by
  have valid : patient.validate = .ok () :=
    Config.validate_eq_ok_iff.mpr ⟨by decide, by decide +kernel, rfl, rfl⟩
  have valid' : ({} : Config).validate = .ok () :=
    Config.validate_eq_ok_iff.mpr ⟨by decide, by decide +kernel, rfl, rfl⟩
  have long : ¬patient.SpansFit := fun fits => absurd fits.request (by decide +kernel)
  obtain ⟨made, overruns, -⟩ := settings_made_iff FileTree.access Network.offline patient 1
  obtain ⟨standard, -⟩ := settings_made_iff FileTree.access Network.offline {} 1
  refine ⟨valid, ?_, overruns ⟨valid, ⟨_, rfl⟩, long⟩, (standard valid').mpr ⟨by decide +kernel, nofun⟩⟩
  rw [← Option.not_isSome_iff_eq_none, made valid]
  exact long

end Probe

end SchemaProbe
