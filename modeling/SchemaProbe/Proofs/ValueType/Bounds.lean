import SchemaProbe.Proofs.ValueType.Integers

set_option autoImplicit false

namespace SchemaProbe

inductive ExclusiveBound where
  | own (bound : Int)
  | flag (strict : Bool)
deriving DecidableEq

def ExclusiveBound.json : ExclusiveBound → Json
  | own e => .ofInt e
  | flag strict => .bool strict

structure SideBounds where
  inclusive : Option Int := none
  exclusive : Option ExclusiveBound := none

namespace SideBounds

structure Written (b : SideBounds) (ms : Members) (inclusive exclusive : String) : Prop where
  inclusive : NameMap.get? ms inclusive = b.inclusive.map Json.ofInt
  exclusive : NameMap.get? ms exclusive = b.exclusive.map ExclusiveBound.json

structure Signed (b : SideBounds) : Prop where
  inclusive : ∀ i, b.inclusive = some i → Number.IsSigned i
  own : ∀ e, b.exclusive = some (.own e) → Number.IsSigned e

-- What the bounds ask, where `lax` and `strict` compare with a bound.
structure Admits (b : SideBounds) (lax strict : Int → Prop) : Prop where
  inclusive : ∀ i, b.inclusive = some i → lax i
  flagged : ∀ i, b.inclusive = some i → b.exclusive = some (.flag true) → strict i
  own : ∀ e, b.exclusive = some (.own e) → strict e

def limits (b : SideBounds) (inward : Int) : List Int :=
  match b.exclusive with
  | some (.own e) => (e + inward) :: b.inclusive.toList
  | some (.flag true) => b.inclusive.toList.map (· + inward)
  | _ => b.inclusive.toList

-- The bound that is read, and whether it is exclusive.
def chosen (b : SideBounds) : Option Int × Bool :=
  match b.exclusive with
  | some (.own e) => (some e, true)
  | some (.flag strict) => (b.inclusive, strict)
  | none => (b.inclusive, false)

-- A bound becomes a double before it is moved inward, and once more after.
def readLimit (inward : Int) (strict : Bool) (i : Int) : Int :=
  Sample.clampSigned (Binary64.nearest (Binary64.nearest i + if strict then inward else 0))

def read (b : SideBounds) (inward : Int) : Option Int := b.chosen.1.map (readLimit inward b.chosen.2)

-- Bounds that doubles tell exactly, with none that the exclusive one hides.
structure Told (b : SideBounds) (implies : Int → Int → Prop) : Prop where
  inclusive : ∀ i, b.inclusive = some i → i.natAbs < 2 ^ 53
  own : ∀ e, b.exclusive = some (.own e) → e.natAbs < 2 ^ 53
  implied : ∀ i e, b.inclusive = some i → b.exclusive = some (.own e) → implies e i

theorem Signed.chosen {b : SideBounds} (signed : b.Signed) {i : Int} (chosen : b.chosen.1 = some i) :
    Number.IsSigned i := by
  unfold SideBounds.chosen at chosen
  split at chosen
  next e given => exact signed.own i (Option.some.inj chosen ▸ given)
  next => exact signed.inclusive i chosen
  next => exact signed.inclusive i chosen

theorem admits_iff {b : SideBounds} {lax strict : Int → Prop} {inward : Int}
    (moved : ∀ i, strict i ↔ lax (i + inward)) (weaker : ∀ i, strict i → lax i) :
    b.Admits lax strict ↔ ∀ l ∈ b.limits inward, lax l := by
  obtain ⟨inclusive, exclusive⟩ := b
  constructor
  · rintro ⟨low, flagged, own⟩ l member
    unfold limits at member
    split at member
    next e given =>
      rcases List.mem_cons.mp member with rfl | kept
      · exact (moved e).mp (own e given)
      · exact low l (Option.mem_toList.mp kept)
    next given =>
      obtain ⟨i, kept, rfl⟩ := List.mem_map.mp member
      exact (moved i).mp (flagged i (Option.mem_toList.mp kept) given)
    next => exact low l (Option.mem_toList.mp member)
  · intro all
    refine ⟨?_, ?_, ?_⟩
    · rintro i rfl
      match exclusive with
      | some (.own e) => exact all i (List.mem_cons_of_mem _ (List.mem_singleton_self i))
      | some (.flag true) => exact weaker i ((moved i).mpr (all _ (List.mem_singleton_self _)))
      | some (.flag false) | none => exact all i (List.mem_singleton_self i)
    · rintro i rfl rfl
      exact (moved i).mpr (all _ (List.mem_singleton_self _))
    · rintro e rfl
      exact (moved e).mpr (all _ List.mem_cons_self)

theorem getD_read {b : SideBounds} {implies : Int → Int → Prop} (told : b.Told implies) {inward : Int}
    (unit : inward = 1 ∨ inward = -1) {pick : Int → Int → Int} {far : Int}
    (tighter : ∀ i, i.natAbs ≤ 2 ^ 53 → pick i far = i)
    (hidden : ∀ e i, implies e i → pick (e + inward) i = e + inward) :
    (b.read inward).getD far = (b.limits inward).foldr pick far := by
  have limit {i : Int} (small : i.natAbs < 2 ^ 53) (strict : Bool) :
      readLimit inward strict i = i + if strict then inward else 0 := by
    have near : (i + if strict then inward else 0).natAbs ≤ 2 ^ 53 := by split <;> omega
    rw [readLimit, Binary64.nearest_of_le small.le, Binary64.nearest_of_le near]
    exact Sample.clampSigned_of_isSigned (Number.isSigned_of_natAbs_lt (by omega))
  obtain ⟨inclusive, exclusive⟩ := b
  obtain ⟨small, smallOwn, implied⟩ := told
  match exclusive with
  | some (.own e) =>
    have least := limit (smallOwn e rfl) true
    have unhidden : pick (e + inward) far = e + inward := tighter _ (by have := smallOwn e rfl; omega)
    cases inclusive with
    | none => simp [read, chosen, limits, least, unhidden]
    | some i => simp [read, chosen, limits, least, tighter i (small i rfl).le, hidden e i (implied i e rfl rfl)]
  | some (.flag strict) =>
    cases inclusive with
    | none => cases strict <;> rfl
    | some i =>
      have least := limit (small i rfl) strict
      have moved := tighter (i + inward) (by have := small i rfl; omega)
      cases strict <;> simp [read, chosen, limits, least, moved, tighter i (small i rfl).le]
  | none =>
    cases inclusive with
    | none => rfl
    | some i => simp [read, chosen, limits, limit (small i rfl), tighter i (small i rfl).le]

theorem bound_of_written {b : SideBounds} {ms : Members} {inclusive exclusive : String}
    (written : b.Written ms inclusive exclusive) :
    Keyword.bound ms inclusive exclusive = (b.chosen.1.map Binary64.ofInt, b.chosen.2) := by
  have number : Keyword.number? ms inclusive = b.inclusive.map Binary64.ofInt := by
    rw [Keyword.number?, written.inclusive]
    cases b.inclusive <;> rfl
  unfold Keyword.bound chosen
  rw [written.exclusive, number]
  cases b.exclusive with
  | none => rfl
  | some exclusive => cases exclusive <;> rfl

end SideBounds

namespace ValueType

open SideBounds

theorem lt_two_pow {n k l : Nat} (small : n ≤ 2 ^ k) (above : k < l) : n < 2 ^ l :=
  Nat.lt_of_le_of_lt small (Nat.pow_lt_pow_right Nat.one_lt_two above)

section
variable {i : Int} (signed : Number.IsSigned i)
include signed

theorem natAbs_le_of_isSigned : i.natAbs ≤ 2 ^ 63 := by
  obtain ⟨low, high⟩ := signed
  unfold Number.smallestSigned at low
  unfold Number.largestSigned at high
  omega

theorem denotes_nearest : (Binary64.ofInt i).Denotes (Binary64.nearest i) :=
  Binary64.denotes_ofInt (lt_two_pow (l := 1023) (natAbs_le_of_isSigned signed) (by decide))

theorem nearest_small : (Binary64.nearest i).natAbs < 2 ^ 1000 := by
  have small := natAbs_le_of_isSigned signed
  have doubled : (Binary64.nearest i).natAbs ≤ 2 ^ 64 := by
    have twice := Binary64.natAbs_nearest_le i
    omega
  exact lt_two_pow (l := 1000) doubled (by decide)

theorem clampToInt64_limit {rounded moved : Binary64} {inward : Int} (same : rounded.Denotes (Binary64.nearest i))
    (next : moved.Denotes (Binary64.nearest (Binary64.nearest i + inward))) (strict : Bool) :
    clampToInt64 (if strict && rounded.eq (Binary64.ofInt i) then moved else rounded) = readLimit inward strict i := by
  have reached : rounded.eq (Binary64.ofInt i) = true := (same.eq_iff (denotes_nearest signed)).mpr rfl
  rw [reached, Bool.and_true]
  cases strict with
  | false =>
    rw [readLimit, if_neg Bool.false_ne_true, if_neg Bool.false_ne_true, Int.add_zero, Binary64.nearest_nearest]
    exact same.toIntClamped _ _
  | true => exact next.toIntClamped _ _

theorem integerMinimum_ofInt (strict : Bool) :
    integerMinimum (some (Binary64.ofInt i), strict) = some (readLimit 1 strict i) := by
  have lowest := (denotes_nearest signed).ceil (nearest_small signed)
  rw [Binary64.nearest_nearest] at lowest
  exact congrArg some (clampToInt64_limit signed lowest (lowest.add_one (nearest_small signed)) strict)

theorem integerMaximum_ofInt (strict : Bool) :
    integerMaximum (some (Binary64.ofInt i), strict) = some (readLimit (-1) strict i) := by
  have highest := (denotes_nearest signed).floor (nearest_small signed)
  rw [Binary64.nearest_nearest] at highest
  exact congrArg some (clampToInt64_limit signed highest (highest.sub_one (nearest_small signed)) strict)

end

end ValueType

structure IntegerBounds where
  lower : SideBounds := {}
  upper : SideBounds := {}
  multipleOf : Option Int := none

namespace IntegerBounds

structure Written (b : IntegerBounds) (ms : Members) : Prop where
  lower : b.lower.Written ms "minimum" "exclusiveMinimum"
  upper : b.upper.Written ms "maximum" "exclusiveMaximum"
  multipleOf : NameMap.get? ms "multipleOf" = b.multipleOf.map Json.ofInt

structure Signed (b : IntegerBounds) : Prop where
  lower : b.lower.Signed
  upper : b.upper.Signed
  step : ∀ m, b.multipleOf = some m → 0 < m ∧ m ≤ Number.largestSigned

structure Admits (b : IntegerBounds) (i : Int) : Prop where
  lower : b.lower.Admits (· ≤ i) (· < i)
  upper : b.upper.Admits (i ≤ ·) (i < ·)
  step : ∀ m, b.multipleOf = some m → m ∣ i

def declared (b : IntegerBounds) : Stretch where
  least := (b.lower.limits 1).foldr max Number.smallestSigned
  greatest := (b.upper.limits (-1)).foldr min Number.largestSigned
  step := b.multipleOf.getD 1

def read (b : IntegerBounds) : Stretch where
  least := (b.lower.read 1).getD Number.smallestSigned
  greatest := (b.upper.read (-1)).getD Number.largestSigned
  step := (b.multipleOf.map fun m => Sample.clampSigned (Binary64.nearest m)).getD 1

structure Told (b : IntegerBounds) : Prop where
  lower : b.lower.Told fun e i => i ≤ e + 1
  upper : b.upper.Told fun e i => e - 1 ≤ i
  step : ∀ m, b.multipleOf = some m → m.natAbs < 2 ^ 53

variable {b : IntegerBounds}

theorem foldr_max_le_iff {ls : List Int} {i j : Int} : ls.foldr max i ≤ j ↔ i ≤ j ∧ ∀ l ∈ ls, l ≤ j := by
  induction ls with
  | nil => simp
  | cons l ls ih => simp [ih, and_left_comm]

theorem le_foldr_min_iff {ls : List Int} {i j : Int} : j ≤ ls.foldr min i ↔ j ≤ i ∧ ∀ l ∈ ls, j ≤ l := by
  induction ls with
  | nil => simp
  | cons l ls ih => simp [ih, and_left_comm]

theorem declared_holds_iff {i : Int} : b.declared.Holds i ↔ Number.IsSigned i ∧ b.Admits i := by
  have lower : b.lower.Admits (· ≤ i) (· < i) ↔ ∀ l ∈ b.lower.limits 1, l ≤ i :=
    SideBounds.admits_iff (fun j => by omega) fun j => Int.le_of_lt
  have upper : b.upper.Admits (i ≤ ·) (i < ·) ↔ ∀ l ∈ b.upper.limits (-1), i ≤ l :=
    SideBounds.admits_iff (fun j => by omega) fun j => Int.le_of_lt
  have step : b.declared.step ∣ i ↔ ∀ m, b.multipleOf = some m → m ∣ i := by
    cases given : b.multipleOf <;> simp [declared, given]
  rw [Stretch.Holds, step, declared]
  dsimp only
  rw [foldr_max_le_iff, le_foldr_min_iff, ← lower, ← upper]
  constructor
  · rintro ⟨⟨low, least⟩, ⟨high, greatest⟩, multiple⟩
    exact ⟨⟨low, high⟩, least, greatest, multiple⟩
  · rintro ⟨⟨low, high⟩, least, greatest, multiple⟩
    exact ⟨⟨low, least⟩, ⟨high, greatest⟩, multiple⟩

section
variable (signed : b.Signed)
include signed

theorem declared_step_positive : 0 < b.declared.step := by
  cases given : b.multipleOf with
  | none => simp [declared, given]
  | some m => simpa [declared, given] using (signed.step m given).1

theorem read_step_positive : 0 < b.read.step := by
  cases given : b.multipleOf with
  | none => simp [read, given]
  | some m =>
    have positive := Binary64.nearest_pos (signed.step m given).1
    have largest : 0 < Number.largestSigned := by decide
    simp only [read, given, Option.map_some, Option.getD_some, Sample.clampSigned]
    omega

end

theorem isSigned_of_read {i : Int} (holds : b.read.Holds i) : Number.IsSigned i := by
  have fits {side : SideBounds} {inward far : Int} (edge : Number.IsSigned far) :
      Number.IsSigned ((side.read inward).getD far) := by
    rw [SideBounds.read]
    cases side.chosen.1 with
    | none => exact edge
    | some j => exact Sample.clampSigned_isSigned _
  have least : Number.IsSigned b.read.least := fits (by decide)
  have greatest : Number.IsSigned b.read.greatest := fits (by decide)
  exact ⟨Int.le_trans least.1 holds.1, Int.le_trans holds.2.1 greatest.2⟩

theorem read_eq_declared (told : b.Told) : b.read = b.declared := by
  have low (i : Int) (small : i.natAbs ≤ 2 ^ 53) : max i Number.smallestSigned = i := by
    unfold Number.smallestSigned
    omega
  have high (i : Int) (small : i.natAbs ≤ 2 ^ 53) : min i Number.largestSigned = i := by
    unfold Number.largestSigned
    omega
  have step (m : Int) (given : b.multipleOf = some m) : Sample.clampSigned (Binary64.nearest m) = m := by
    have small := told.step m given
    rw [Binary64.nearest_of_le small.le]
    exact Sample.clampSigned_of_isSigned (Number.isSigned_of_natAbs_lt (by omega))
  have least := SideBounds.getD_read told.lower (.inl rfl) low fun e i implied => Int.max_eq_left implied
  have greatest := SideBounds.getD_read told.upper (.inr rfl) high fun e i implied => Int.min_eq_left implied
  rw [read, declared, least, greatest]
  congr 1
  cases given : b.multipleOf with
  | none => rfl
  | some m => exact step m given

end IntegerBounds

namespace ValueType

variable {b : IntegerBounds} {ms : Members}

theorem integerStep_of_written (signed : b.Signed) (written : b.Written ms) :
    integerStep ms = (b.multipleOf.map fun m => Sample.clampSigned (Binary64.nearest m), false) := by
  have number : Keyword.number? ms "multipleOf" = b.multipleOf.map Binary64.ofInt := by
    rw [Keyword.number?, written.multipleOf]
    cases b.multipleOf <;> rfl
  rw [integerStep, Merge.positiveStep?, number]
  cases given : b.multipleOf with
  | none => rfl
  | some m =>
    obtain ⟨positive, high⟩ := signed.step m given
    have fits : Number.IsSigned m := ⟨Int.le_trans (by decide) (Int.le_of_lt positive), high⟩
    have denotes := denotes_nearest fits
    have above : Binary64.lt 0 (Binary64.ofInt m) = true :=
      (Binary64.denotes_zero.lt_iff denotes).mpr (Binary64.nearest_pos positive)
    simp only [Option.map_some, Option.filter_some, above, if_true, denotes.isIntegral]
    rw [clampToInt64, denotes.toIntClamped]
    rfl

theorem integerRule_of_written (signed : b.Signed) (written : b.Written ms) (free : NameMap.get? ms "enum" = none) :
    ∃ r, integerRule ms = .ok r ∧ r.choices = none ∧ r.stretch = b.read := by
  have lower : integerMinimum (Keyword.bound ms "minimum" "exclusiveMinimum") = b.lower.read 1 := by
    rw [SideBounds.bound_of_written written.lower, SideBounds.read]
    cases chosen : b.lower.chosen.1 with
    | none => rfl
    | some i => exact integerMinimum_ofInt (signed.lower.chosen chosen) b.lower.chosen.2
  have upper : integerMaximum (Keyword.bound ms "maximum" "exclusiveMaximum") = b.upper.read (-1) := by
    rw [SideBounds.bound_of_written written.upper, SideBounds.read]
    cases chosen : b.upper.chosen.1 with
    | none => rfl
    | some i => exact integerMaximum_ofInt (signed.upper.chosen chosen) b.upper.chosen.2
  rw [integerRule_eq, choicesOf_free free, integerStep_of_written signed written, lower, upper]
  exact ⟨_, rfl, rfl, rfl⟩

/-- An integer type accepts the integers of 64 bits that are left when the bounds of its schema are read. Those are
the ones that the schema declares if and only if both begin and end alike, with one step; so it is where doubles tell
the bounds and no exclusive bound hides a tighter one. -/
theorem integer_bounds_exact_iff {hasNull : Bool} (plain : NameMap.contains ms "allOf" = false)
    (single : Resolved.variantList? ms = none) (named : declaredName ms = .ok (some "integer", hasNull))
    (free : NameMap.get? ms "enum" = none) (signed : b.Signed) (written : b.Written ms) :
    ∃ n r, ofSchema (.object ms) = .ok (.integer n r) ∧
      (∀ i, Number.IsSigned i → ((integer n r).accepts (.ofInt i) = true ↔ b.read.Holds i)) ∧
      ((∀ i, Number.IsSigned i → ((integer n r).accepts (.ofInt i) = true ↔ b.Admits i)) ↔
        b.read.Same b.declared) ∧
      (b.Told → ∀ i, Number.IsSigned i → ((integer n r).accepts (.ofInt i) = true ↔ b.Admits i)) := by
  obtain ⟨r, rule, unchosen, stretch⟩ := integerRule_of_written signed written free
  obtain ⟨n, built⟩ : ∃ n, ofSchema (.object ms) = .ok (.integer n r) := by
    rw [ofSchema_plain plain single, ofKeywords, named]
    exact ⟨_, congrArg (Except.map _) rule⟩
  have accepts (i : Int) (fits : Number.IsSigned i) : (integer n r).accepts (.ofInt i) = true ↔ b.read.Holds i := by
    rw [← stretch, ← IntegerRule.accepts_iff unchosen fits, accepts_ofInt_iff]
    exact and_iff_right fits.2
  have exact : (∀ i, Number.IsSigned i → ((integer n r).accepts (.ofInt i) = true ↔ b.Admits i)) ↔
      b.read.Same b.declared := by
    rw [← Stretch.same_iff (IntegerBounds.read_step_positive signed) (IntegerBounds.declared_step_positive signed)]
    constructor
    · intro same i
      rw [IntegerBounds.declared_holds_iff]
      constructor
      · intro holds
        have fits := IntegerBounds.isSigned_of_read holds
        exact ⟨fits, (same i fits).mp ((accepts i fits).mpr holds)⟩
      · rintro ⟨fits, admitted⟩
        exact (accepts i fits).mp ((same i fits).mpr admitted)
    · intro same i fits
      rw [accepts i fits, same i, IntegerBounds.declared_holds_iff]
      exact and_iff_right fits
  refine ⟨n, r, built, accepts, exact, fun told => exact.mpr ?_⟩
  rw [IntegerBounds.read_eq_declared told]
  exact .inr ⟨rfl, rfl, .inr rfl⟩

-- The exclusive minimum hides the inclusive one, and the maximum lies between two doubles.
def lossyBounds : IntegerBounds where
  lower := { inclusive := some 10, exclusive := some (.own 5) }
  upper := { inclusive := some (2 ^ 53 + 1) }

def lossyKeywords : Members :=
  [("exclusiveMinimum", .ofInt 5), ("maximum", .ofInt (2 ^ 53 + 1)), ("minimum", .ofInt 10),
    ("type", .string "integer")]

theorem lossy_bounds_read : lossyBounds.Signed ∧ lossyBounds.Written lossyKeywords ∧
    ∃ n r, ofSchema (.object lossyKeywords) = .ok (.integer n r) ∧ ¬lossyBounds.read.Same lossyBounds.declared ∧
      ((integer n r).accepts (.ofInt 7) = true ∧ ¬lossyBounds.Admits 7) ∧
      (integer n r).accepts (.ofInt (2 ^ 53 + 1)) = false ∧ lossyBounds.Admits (2 ^ 53 + 1) := by
  have signed : lossyBounds.Signed := by
    refine ⟨⟨fun i given => ?_, fun e given => ?_⟩, ⟨fun i given => ?_, nofun⟩, nofun⟩ <;> cases given <;> decide
  have written : lossyBounds.Written lossyKeywords := ⟨⟨rfl, rfl⟩, ⟨rfl, rfl⟩, rfl⟩
  obtain ⟨n, r, built, accepts, exact, -⟩ :=
    @integer_bounds_exact_iff lossyBounds lossyKeywords false rfl rfl rfl rfl signed written
  refine ⟨signed, written, n, r, built, by decide +kernel, ⟨?_, fun admits => ?_⟩, ?_, ?_⟩
  · exact (accepts 7 (by decide)).mpr (by decide +kernel)
  · exact absurd (admits.lower.inclusive 10 rfl) (by decide)
  · exact Bool.eq_false_iff.mpr fun accepted => absurd ((accepts _ (by decide)).mp accepted) (by decide +kernel)
  · exact (IntegerBounds.declared_holds_iff.mp (by decide +kernel)).2

end ValueType

end SchemaProbe
