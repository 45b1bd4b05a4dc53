import SchemaProbe.Proofs.ValueType.Sample

set_option autoImplicit false

namespace SchemaProbe

namespace NumberRule

def drawnFrom (r : NumberRule) : Binary64 := r.minimum.getD ((r.maximum.map (· - 1000)).getD 0)

def drawnTo (r : NumberRule) : Binary64 := r.maximum.getD (r.drawnFrom + 1000)

def Draws (r : NumberRule) : Prop :=
  r.choices = none ∧ r.drawnFrom.isFinite = true ∧ r.drawnTo.isFinite = true ∧ r.drawnTo.le r.drawnFrom = false

def Scales (r : NumberRule) : Prop :=
  r.Draws → ((r.drawnTo - r.drawnFrom) / Draw.largestFraction).isFinite = true

end NumberRule

inductive ValueType.Scales : ValueType → Prop where
  | text (n : Bool) (r : TextRule) : Scales (.text n r)
  | integer (n : Bool) (r : IntegerRule) : Scales (.integer n r)
  | number (n : Bool) {r : NumberRule} (scales : r.Scales) : Scales (.number n r)
  | boolean (n : Bool) : Scales (.boolean n)
  | array {n : Bool} {items : ValueType} {r : ArrayRule} (item : Scales items) : Scales (.array n items r)
  | object {n : Bool} {ps : List (Property ValueType)} (each : ∀ p ∈ ps, Scales p.type) : Scales (.object n ps)
  | any (n : Bool) : Scales (.any n)

open Draw

theorem TextFormat.random?_succeeds (format : String) : (TextFormat.random? format).Succeeds := by
  have part (first last : Nat) : (TextFormat.part first last).Succeeds :=
    (below_succeeds _ _).bind fun _ => succeeds_pure _
  have digits (first last : Nat) : (TextFormat.twoDigits first last).Succeeds :=
    (part first last).bind fun _ => succeeds_pure _
  have short : Draw.short.Succeeds := (bits_succeeds 32).bind fun _ => succeeds_pure _
  have date : TextFormat.randomDate.Succeeds :=
    (digits 0 29).bind fun _ => (digits 1 12).bind fun _ => (digits 1 28).bind fun _ => succeeds_pure _
  unfold TextFormat.random?
  split
  next => exact ((part 1 9998).bind fun _ => succeeds_pure _).map some
  next =>
    refine Succeeds.map ?_ some
    exact (bits_succeeds 32).bind fun _ => short.bind fun _ => short.bind fun _ => short.bind fun _ =>
      word_succeeds.bind fun _ => succeeds_pure _
  next => exact date.map some
  next =>
    refine Succeeds.map ?_ some
    exact date.bind fun _ => (digits 0 23).bind fun _ => (digits 0 59).bind fun _ => (digits 0 59).bind fun _ =>
      succeeds_pure _
  next =>
    refine Succeeds.map ?_ some
    exact (part 0 255).bind fun _ => (part 0 255).bind fun _ => (part 1 254).bind fun _ => succeeds_pure _
  next => exact succeeds_pure _

namespace Sample

theorem repeatDraw_succeeds {α : Type} {once : Draw α} (succeeds : once.Succeeds) (n : Nat) :
    (repeatDraw once n).Succeeds := by
  induction n with
  | zero => exact succeeds_pure []
  | succ n ih => exact succeeds.bind fun _ => ih.bind fun _ => succeeds_pure _

theorem repeatDraw?_succeeds {α : Type} {once : Draw (Option α)} (succeeds : once.Succeeds) (n : Nat) :
    (repeatDraw? once n).Succeeds := by
  induction n with
  | zero => exact succeeds_pure (some [])
  | succ n ih =>
    refine succeeds.bind fun value => ?_
    cases value with
    | none => exact succeeds_pure none
    | some x => exact ih.bind fun _ => succeeds_pure _

theorem randomText_succeeds (length : Nat) : (randomText length).Succeeds :=
  (repeatDraw_succeeds (below_succeeds _ _) _).bind fun _ => succeeds_pure _

theorem drawText_succeeds (r : TextRule) : (drawText r).Succeeds := by
  have sized (lo hi : Int) : (between 64 lo hi >>= fun length => randomText length.toNat >>= fun s =>
      pure (some (.string s)) : Draw (Option Json)).Succeeds :=
    (between_succeeds 64 lo hi).bind fun _ => (randomText_succeeds _).bind fun _ => succeeds_pure _
  unfold drawText
  split
  · exact (choose_succeeds _).bind fun _ => succeeds_pure _
  · dsimp only
    split
    · refine (TextFormat.random?_succeeds _).bind fun formatted => ?_
      cases formatted with
      | some s => exact succeeds_pure _
      | none => exact sized _ _
    · exact sized _ _

theorem drawInteger_succeeds (r : IntegerRule) : (drawInteger r).Succeeds := by
  unfold drawInteger
  split
  · exact (choose_succeeds _).bind fun _ => succeeds_pure _
  · dsimp only
    split
    · exact succeeds_pure none
    · exact (between_succeeds _ _ _).bind fun _ => succeeds_pure _

theorem drawNumber_cases (r : NumberRule) : (¬ r.Draws ∧ (drawNumber r).Succeeds) ∨
    (r.Draws ∧ ∃ f : Binary64 → Json, drawNumber r = double r.drawnFrom r.drawnTo >>= fun v => pure (some (f v))) := by
  cases choices : r.choices with
  | some values =>
    refine .inl ⟨fun drawn => by simp [drawn.1] at choices, ?_⟩
    simp only [drawNumber, choices]
    exact (choose_succeeds _).bind fun _ => succeeds_pure _
  | none =>
    have given : ∃ f : Binary64 → Json, drawNumber r =
        if !(r.drawnFrom.isFinite && r.drawnTo.isFinite) || r.drawnTo.le r.drawnFrom
        then pure (r.minimum.map .ofBinary64)
        else double r.drawnFrom r.drawnTo >>= fun v => pure (some (f v)) := by
      simp only [drawNumber, choices]
      exact ⟨_, rfl⟩
    obtain ⟨f, given⟩ := given
    cases unordered : !(r.drawnFrom.isFinite && r.drawnTo.isFinite) || r.drawnTo.le r.drawnFrom with
    | true =>
      refine .inl ⟨fun drawn => ?_, by rw [given, unordered]; exact succeeds_pure _⟩
      simp [drawn.2] at unordered
    | false =>
      refine .inr ⟨?_, f, by rw [given, unordered]; rfl⟩
      simpa [NumberRule.Draws, choices, and_assoc] using unordered

theorem drawNumber_succeeds {r : NumberRule} (scales : r.Scales) : (drawNumber r).Succeeds := by
  rcases drawNumber_cases r with ⟨-, succeeds⟩ | ⟨drawn, f, given⟩
  · exact succeeds
  · rw [given]
    exact (double_succeeds (scales drawn)).bind fun _ => succeeds_pure _

theorem drawNumber_fails {r : NumberRule} (unscaled : ¬ r.Scales) : (drawNumber r).Fails := by
  obtain ⟨drawn, wide⟩ := Classical.not_imp.mp unscaled
  rcases drawNumber_cases r with ⟨undrawn, -⟩ | ⟨-, f, given⟩
  · exact absurd drawn undrawn
  · rw [given]
    exact (double_fails (by simpa using wide)).bind _

theorem retry_succeeds (t : ValueType) (room : Nat) {once : Draw (Option Json)} (succeeds : once.Succeeds)
    (tries : Nat) : (retry t room once tries).Succeeds := by
  induction tries with
  | zero => exact choose_succeeds _
  | succ n ih =>
    refine succeeds.bind fun proposal => ?_
    cases proposal with
    | none => exact ih
    | some v =>
      dsimp only
      split
      · exact succeeds_pure _
      · exact ih

theorem retryWithin_succeeds (t : ValueType) (room : Nat) {once : Draw (Option Json)} (succeeds : once.Succeeds) :
    (retryWithin t room once).Succeeds := by
  unfold retryWithin
  split
  · exact succeeds_pure none
  · exact retry_succeeds t room succeeds attempts

theorem proposeMembers_succeeds {ps : List (Property ValueType)}
    (each : ∀ p ∈ ps, ∀ room, (propose p.type room).Succeeds) (room : Nat) (acc : Members) :
    (proposeMembers ps room acc).Succeeds := by
  induction ps generalizing acc with
  | nil => exact succeeds_pure (some acc)
  | cons p ps ih =>
    obtain ⟨first, each⟩ := List.forall_mem_cons.mp each
    rw [proposeMembers_cons]
    refine Succeeds.bind ?_ fun wanted => ?_
    · split
      · exact succeeds_pure true
      · exact coin_succeeds
    · split
      · refine (retryWithin_succeeds p.type room (first room)).bind fun value => ?_
        cases value with
        | some v => exact ih each _
        | none =>
          dsimp only
          split
          · exact succeeds_pure none
          · exact ih each acc
      · exact ih each acc

theorem propose_succeeds {t : ValueType} (scales : t.Scales) (room : Nat) : (propose t room).Succeeds := by
  induction t using ValueType.inductionOn generalizing room with
  | text n r => exact drawText_succeeds r
  | integer n r => exact drawInteger_succeeds r
  | number n r =>
    cases scales with | number _ scales =>
    exact drawNumber_succeeds scales
  | boolean n => exact coin_succeeds.bind fun _ => succeeds_pure _
  | array n items r ih =>
    cases scales with | array item =>
    exact (between_succeeds _ _ _).bind fun length =>
      (repeatDraw?_succeeds (retryWithin_succeeds items _ (ih item _)) _).bind fun _ => succeeds_pure _
  | object n ps ih =>
    cases scales with | object each =>
    exact (proposeMembers_succeeds (fun p member => ih p member (each p member)) _ _).bind fun _ => succeeds_pure _
  | any n => exact (randomText_succeeds 8).bind fun _ => succeeds_pure _

theorem fill_succeeds {t : ValueType} (scales : t.Scales) (f : Fill) : (fill t f).Succeeds := by
  cases f with
  | random => exact retryWithin_succeeds t _ (propose_succeeds scales _)
  | minimal | full => exact succeeds_pure _

theorem fill_random_fails {n : Bool} {r : NumberRule} (unscaled : ¬ r.Scales) : (fill (.number n r) .random).Fails :=
  (drawNumber_fails unscaled).bind _

end Sample

end SchemaProbe
