import SchemaProbe.Proofs.ValueType.Fill

set_option autoImplicit false

namespace SchemaProbe

inductive Misuse where
  | clampCrossed
  | divisorZero
  | sumTooLarge
  | indexOutside
  | rangeEmpty
  | rangeTooWide
deriving DecidableEq, Repr

abbrev Checked (α : Type) := Except Misuse α

abbrev CheckedDraw (α : Type) := StateT RandomSource (Except Misuse) α

namespace Checked

variable {α β : Type}

def clamp (x lo hi : Nat) : Checked Nat := if hi < lo then throw .clampCrossed else pure (max lo (min x hi))

def floorDiv (i m : Int) : Checked Int := if m = 0 then throw .divisorZero else pure (i / m)

def remainder {α : Type} [Mod α] [OfNat α 0] [DecidableEq α] (i m : α) : Checked α :=
  if m = 0 then throw .divisorZero else pure (i % m)

-- Sizes are unsigned and take 64 bits.
def sum (a b : Nat) : Checked Nat := if 2 ^ 64 ≤ a + b then throw .sumTooLarge else pure (a + b)

def elementAt (xs : List α) (i : Nat) : Checked α :=
  match xs[i]? with
  | some x => pure x
  | none => throw .indexOutside

theorem clamp_eq {x lo hi : Nat} (ordered : lo ≤ hi) : clamp x lo hi = .ok (max lo (min x hi)) :=
  if_neg (Nat.not_lt.mpr ordered)

theorem floorDiv_eq {i m : Int} (divides : m ≠ 0) : floorDiv i m = .ok (i / m) := if_neg divides

theorem remainder_eq {α : Type} [Mod α] [OfNat α 0] [DecidableEq α] {i m : α} (divides : m ≠ 0) :
    remainder i m = .ok (i % m) :=
  if_neg divides

theorem sum_eq {a b : Nat} (small : a + b < 2 ^ 64) : sum a b = .ok (a + b) := if_neg (Nat.not_le.mpr small)

theorem elementAt_eq {xs : List α} {i : Nat} (inside : i < xs.length) : elementAt xs i = .ok xs[i] := by
  rw [elementAt, List.getElem?_eq_getElem inside]
  rfl

def lift (d : Draw α) : CheckedDraw α := fun s => (d s).mapError fun | .rangeTooWide => .rangeTooWide

def below (width n : Nat) : CheckedDraw Nat := if n = 0 then throw .rangeEmpty else lift (Draw.below width n)

def between (width : Nat) (lo hi : Int) : CheckedDraw Int :=
  if hi < lo then throw .rangeEmpty else lift (Draw.between width lo hi)

def double (lo hi : Binary64) : CheckedDraw Binary64 :=
  if lo.le hi then lift (Draw.double lo hi) else throw .rangeEmpty

def choose : List α → CheckedDraw (Option α)
  | [] => return none
  | x :: xs => do
    let i ← below 32 (x :: xs).length
    return some (← elementAt (x :: xs) i)

def repeatDraw (once : CheckedDraw α) : Nat → CheckedDraw (List α)
  | 0 => return []
  | n + 1 => do
    let x ← once
    let xs ← repeatDraw once n
    return x :: xs

def repeatDraw? (once : CheckedDraw (Option α)) : Nat → CheckedDraw (Option (List α))
  | 0 => return some []
  | n + 1 => do
    match ← once with
    | none => return none
    | some x =>
      let xs ← repeatDraw? once n
      return xs.map (x :: ·)

-- A checked draw that is the draw: no check fails, from whatever source.
def Agrees (c : CheckedDraw α) (d : Draw α) : Prop := c = lift d

theorem agrees_pure (a : α) : Agrees (pure a) (pure a) := rfl

theorem agrees_lift (d : Draw α) : Agrees (lift d) d := rfl

section
variable {c : CheckedDraw α} {d : Draw α} {f : α → CheckedDraw β} {g : α → Draw β}

theorem Agrees.bind_of_yields {P : α → Prop} (first : Agrees c d) (yields : d.Yields P)
    (second : ∀ a, P a → Agrees (f a) (g a)) : Agrees (c >>= f) (d >>= g) := by
  obtain rfl := first
  funext s
  change ((d s).mapError _ >>= fun r => f r.1 r.2) = Except.mapError _ (d s >>= fun r => g r.1 r.2)
  cases step : d s with
  | error fault => rfl
  | ok r => exact congrFun (second r.1 (yields s r.1 r.2 step)) r.2

theorem Agrees.bind (first : Agrees c d) (second : ∀ a, Agrees (f a) (g a)) : Agrees (c >>= f) (d >>= g) :=
  first.bind_of_yields (Draw.yields_true d) fun a _ => second a

theorem Agrees.map (same : Agrees c d) (h : α → β) : Agrees (h <$> c) (h <$> d) :=
  same.bind fun a => agrees_pure (h a)

theorem Agrees.after {x : Checked β} {b : β} (passes : x = .ok b) {f : β → CheckedDraw α} (rest : Agrees (f b) d) :
    Agrees (liftM x >>= f) d := by
  subst passes
  exact rest

end

theorem agrees_below {n : Nat} (width : Nat) (some : n ≠ 0) : Agrees (below width n) (Draw.below width n) :=
  if_neg some

theorem agrees_between {lo hi : Int} (width : Nat) (ordered : lo ≤ hi) :
    Agrees (between width lo hi) (Draw.between width lo hi) :=
  if_neg (Int.not_lt.mpr ordered)

theorem agrees_double {lo hi : Binary64} (ordered : lo.le hi = true) : Agrees (double lo hi) (Draw.double lo hi) :=
  if_pos ordered

theorem agrees_choose (xs : List α) : Agrees (choose xs) (Draw.choose xs) := by
  cases xs with
  | nil => exact agrees_pure none
  | cons x xs =>
    refine (agrees_below 32 (Nat.succ_ne_zero _)).bind_of_yields (Draw.yields_below (by decide) (Nat.succ_pos _))
      fun i inside => .after (elementAt_eq inside) ?_
    rw [List.getElem?_eq_getElem inside]
    exact agrees_pure _

theorem agrees_repeatDraw {once : CheckedDraw α} {once' : Draw α} (same : Agrees once once') (n : Nat) :
    Agrees (repeatDraw once n) (Sample.repeatDraw once' n) := by
  induction n with
  | zero => exact agrees_pure []
  | succ n ih => exact same.bind fun x => ih.bind fun xs => agrees_pure _

theorem agrees_repeatDraw? {once : CheckedDraw (Option α)} {once' : Draw (Option α)} (same : Agrees once once')
    (n : Nat) : Agrees (repeatDraw? once n) (Sample.repeatDraw? once' n) := by
  induction n with
  | zero => exact agrees_pure (some [])
  | succ n ih =>
    refine same.bind fun value => ?_
    cases value with
    | none => exact agrees_pure none
    | some x => exact ih.bind fun xs => agrees_pure _

def part (first last : Nat) : CheckedDraw Nat :=
  if last < first then throw .rangeEmpty else lift (TextFormat.part first last)

def twoDigits (first last : Nat) : CheckedDraw String := do
  let n ← part first last
  return Text.decimal 2 n

def randomDate : CheckedDraw String := do
  let year ← twoDigits 0 29
  let month ← twoDigits 1 12
  let day ← twoDigits 1 28
  return "20" ++ year ++ "-" ++ month ++ "-" ++ day

def randomDateTime : CheckedDraw String := do
  let date ← randomDate
  let hour ← twoDigits 0 23
  let minute ← twoDigits 0 59
  let second ← twoDigits 0 59
  return date ++ "T" ++ hour ++ ":" ++ minute ++ ":" ++ second ++ "Z"

def randomIpv4 : CheckedDraw String := do
  let a ← part 0 255
  let b ← part 0 255
  let c ← part 1 254
  return "10." ++ toString a ++ "." ++ toString b ++ "." ++ toString c

def randomEmail : CheckedDraw String := do
  let n ← part 1 9998
  return "user" ++ toString n ++ "@example.com"

-- A UUID is made of whole words.
def random? (format : String) : CheckedDraw (Option String) :=
  match format with
  | "email" => some <$> randomEmail
  | "uuid" => some <$> lift TextFormat.randomUuid
  | "date" => some <$> randomDate
  | "date-time" => some <$> randomDateTime
  | "ipv4" => some <$> randomIpv4
  | other => return TextFormat.sample? other

theorem agrees_random? (format : String) : Agrees (random? format) (TextFormat.random? format) := by
  have part {first last : Nat} (ordered : first ≤ last) : Agrees (part first last) (TextFormat.part first last) :=
    if_neg (Nat.not_lt.mpr ordered)
  have digits {first last : Nat} (ordered : first ≤ last) :
      Agrees (twoDigits first last) (TextFormat.twoDigits first last) :=
    (part ordered).bind fun _ => agrees_pure _
  have date : Agrees randomDate TextFormat.randomDate :=
    (digits (by decide)).bind fun _ => (digits (by decide)).bind fun _ => (digits (by decide)).bind fun _ =>
      agrees_pure _
  have dateTime : Agrees randomDateTime TextFormat.randomDateTime :=
    date.bind fun _ => (digits (by decide)).bind fun _ => (digits (by decide)).bind fun _ =>
      (digits (by decide)).bind fun _ => agrees_pure _
  have ipv4 : Agrees randomIpv4 TextFormat.randomIpv4 :=
    (part (by decide)).bind fun _ => (part (by decide)).bind fun _ => (part (by decide)).bind fun _ => agrees_pure _
  have email : Agrees randomEmail TextFormat.randomEmail := (part (by decide)).bind fun _ => agrees_pure _
  unfold random?
  split
  next => exact email.map some
  next => exact (agrees_lift _).map some
  next => exact date.map some
  next => exact dateTime.map some
  next => exact ipv4.map some
  next => simp_all [TextFormat.random?, agrees_pure]

def letter : CheckedDraw Char := do
  let i ← below 64 Sample.letters.length
  elementAt Sample.letters i

def randomText (length : Nat) : CheckedDraw String := do
  let cs ← repeatDraw letter length
  return String.ofList cs

theorem agrees_letter :
    Agrees letter ((Sample.letters.getD · 'a') <$> Draw.below 64 Sample.letters.length) := by
  have some : 0 < Sample.letters.length := by decide
  rw [map_eq_pure_bind]
  refine (agrees_below 64 (Nat.ne_of_gt some)).bind_of_yields (Draw.yields_below (by decide) some) fun i inside => ?_
  rw [elementAt_eq inside, List.getD_eq_getElem?_getD, List.getElem?_eq_getElem inside]
  exact agrees_pure _

theorem repeatDraw_map (once : Draw α) (f : α → β) (n : Nat) :
    Sample.repeatDraw (f <$> once) n = List.map f <$> Sample.repeatDraw once n := by
  induction n with
  | zero => rfl
  | succ n ih => simp [Sample.repeatDraw, ih]

theorem agrees_randomText (length : Nat) : Agrees (randomText length) (Sample.randomText length) := by
  have text : Sample.randomText length = String.ofList <$>
      Sample.repeatDraw ((Sample.letters.getD · 'a') <$> Draw.below 64 Sample.letters.length) length := by
    rw [repeatDraw_map]
    simp [Sample.randomText]
  rw [text]
  exact (agrees_repeatDraw agrees_letter length).map String.ofList

end Checked

end SchemaProbe
