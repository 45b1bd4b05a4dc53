import SchemaProbe.Draw

set_option autoImplicit false

namespace SchemaProbe.Draw

variable {α β : Type}

def Yields (d : Draw α) (P : α → Prop) : Prop := ∀ s a s', d s = .ok (a, s') → P a

theorem yields_pure {a : α} {P : α → Prop} (holds : P a) : Yields (pure a : Draw α) P := by
  rintro s b s' done
  cases done
  exact holds

theorem Yields.mono {d : Draw α} {P Q : α → Prop} (holds : d.Yields P) (weaker : ∀ a, P a → Q a) : d.Yields Q :=
  fun s a s' done => weaker a (holds s a s' done)

theorem Yields.and {d : Draw α} {P Q : α → Prop} (first : d.Yields P) (second : d.Yields Q) :
    d.Yields fun a => P a ∧ Q a :=
  fun s a s' done => ⟨first s a s' done, second s a s' done⟩

theorem yields_true (d : Draw α) : d.Yields fun _ => True := fun _ _ _ _ => trivial

theorem Yields.bind {d : Draw α} {f : α → Draw β} {P : α → Prop} {Q : β → Prop} (first : d.Yields P)
    (second : ∀ a, P a → (f a).Yields Q) : (d >>= f).Yields Q := by
  intro s b s' done
  change (d s >>= fun r => f r.1 r.2) = .ok (b, s') at done
  cases step : d s with
  | error fault => simp [step, Bind.bind, Except.bind] at done
  | ok r =>
    obtain ⟨a, s₁⟩ := r
    rw [step] at done
    exact second a (first s a s₁ step) s₁ b s' done

theorem Yields.after {d : Draw α} {f : α → Draw β} {Q : β → Prop} (second : ∀ a, (f a).Yields Q) :
    (d >>= f).Yields Q :=
  (yields_true d).bind fun a _ => second a

theorem yields_choose (xs : List α) : (choose xs).Yields fun r => ∀ x, r = some x → x ∈ xs := by
  cases xs with
  | nil => exact yields_pure (by simp)
  | cons x xs =>
    refine Yields.after fun i => yields_pure ?_
    intro y chosen
    exact List.mem_of_getElem? chosen

theorem yields_word : word.Yields fun w => w.toNat < 2 ^ 64 := fun s w _ done => by
  cases done
  exact s.output.toNat_lt

theorem yields_bits {width : Nat} (fits : width ≤ 64) : (bits width).Yields (· < 2 ^ width) := by
  refine yields_word.bind fun w small => yields_pure ?_
  rw [Nat.div_lt_iff_lt_mul (Nat.two_pow_pos _), ← Nat.pow_add]
  rwa [Nat.add_sub_cancel' fits]

theorem yields_below {width n : Nat} (fits : width ≤ 64) (positive : 0 < n) : (below width n).Yields (· < n) := by
  have scaled_yields (zone tries : Nat) : (scaled width n zone tries).Yields (· < n) := by
    induction tries with
    | zero => exact yields_pure positive
    | succ tries ih =>
      refine (yields_bits fits).bind fun v small => ?_
      split
      · exact yields_pure (Nat.div_lt_of_lt_mul ((Nat.mul_lt_mul_right positive).mpr small))
      · exact ih
  unfold below
  split
  next whole => simpa only [whole] using yields_bits fits
  next => exact scaled_yields _ _

theorem yields_choose_some {xs : List α} (nonempty : xs ≠ []) : (choose xs).Yields fun r => ∃ x ∈ xs, r = some x := by
  cases xs with
  | nil => exact absurd rfl nonempty
  | cons x xs =>
    refine (yields_below (by decide) (Nat.succ_pos _)).bind fun i within => yields_pure ?_
    exact ⟨_, List.getElem_mem within, List.getElem?_eq_getElem within⟩

theorem turned (x y : Draw α) :
    (fun wanted : Bool => if (!wanted) = true then x else y) = fun wanted => if wanted = true then y else x := by
  funext wanted
  cases wanted <;> rfl

def Succeeds (d : Draw α) : Prop := ∀ s, ∃ a s', d s = .ok (a, s')

theorem succeeds_pure (a : α) : (pure a : Draw α).Succeeds := fun s => ⟨a, s, rfl⟩

theorem Succeeds.bind {d : Draw α} {f : α → Draw β} (first : d.Succeeds) (second : ∀ a, (f a).Succeeds) :
    (d >>= f).Succeeds := by
  intro s
  obtain ⟨a, s₁, step⟩ := first s
  obtain ⟨b, s₂, rest⟩ := second a s₁
  refine ⟨b, s₂, ?_⟩
  change (d s >>= fun r => f r.1 r.2) = .ok (b, s₂)
  rw [step]
  exact rest

theorem Succeeds.map {d : Draw α} (succeeds : d.Succeeds) (f : α → β) : (f <$> d).Succeeds :=
  succeeds.bind fun a => succeeds_pure (f a)

def Fails (d : Draw α) : Prop := ∀ s, d s = .error .rangeTooWide

theorem Fails.bind {d : Draw α} (fails : d.Fails) (f : α → Draw β) : (d >>= f).Fails := by
  intro s
  change (d s >>= fun r => f r.1 r.2) = _
  rw [fails s]
  rfl

-- Whatever comes first, there is only one fault to fail with.
theorem Fails.after (d : Draw α) {f : α → Draw β} (fails : ∀ a, (f a).Fails) : (d >>= f).Fails := by
  intro s
  change (d s >>= fun r => f r.1 r.2) = _
  cases step : d s with
  | error fault => cases fault; rfl
  | ok r => exact fails r.1 r.2

theorem word_succeeds : word.Succeeds := fun s => ⟨s.output, s.step, rfl⟩

theorem bits_succeeds (width : Nat) : (bits width).Succeeds := word_succeeds.bind fun _ => succeeds_pure _

theorem coin_succeeds : coin.Succeeds := word_succeeds.bind fun _ => succeeds_pure _

theorem below_succeeds (width n : Nat) : (below width n).Succeeds := by
  have scaled_succeeds (zone tries : Nat) : (scaled width n zone tries).Succeeds := by
    induction tries with
    | zero => exact succeeds_pure 0
    | succ tries ih =>
      refine (bits_succeeds width).bind fun v => ?_
      split
      · exact succeeds_pure _
      · exact ih
  unfold below
  split
  · exact bits_succeeds width
  · exact scaled_succeeds _ _

theorem between_succeeds (width : Nat) (lo hi : Int) : (between width lo hi).Succeeds :=
  (below_succeeds _ _).bind fun _ => succeeds_pure _

theorem choose_succeeds (xs : List α) : (choose xs).Succeeds := by
  cases xs with
  | nil => exact succeeds_pure none
  | cons x xs => exact (below_succeeds _ _).bind fun _ => succeeds_pure _

theorem double_succeeds {lo hi : Binary64} (finite : ((hi - lo) / largestFraction).isFinite = true) :
    (double lo hi).Succeeds := by
  simp only [double, finite]
  exact (bits_succeeds 52).bind fun _ => succeeds_pure _

theorem double_fails {lo hi : Binary64} (infinite : ((hi - lo) / largestFraction).isFinite = false) :
    (double lo hi).Fails := by
  intro s
  simp only [double, infinite]
  rfl

end SchemaProbe.Draw
