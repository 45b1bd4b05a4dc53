set_option autoImplicit false

namespace SchemaProbe

/-- What is done towards a value: nothing more, or a call and whatever its result leads to. -/
inductive Calls (κ : Type) (ρ : κ → Type) (α : Type) where
  | done (a : α)
  | call (k : κ) (next : ρ k → Calls κ ρ α)

namespace Calls

variable {κ : Type} {ρ : κ → Type} {α β ε ε' : Type}

def bind : Calls κ ρ α → (α → Calls κ ρ β) → Calls κ ρ β
  | done a, f => f a
  | call k next, f => call k fun r => (next r).bind f

instance : Monad (Calls κ ρ) where
  pure := done
  bind := bind

theorem bind_done (p : Calls κ ρ α) : p.bind done = p := by
  induction p with
  | done a => rfl
  | call k next ih => exact congrArg (call k) (funext ih)

theorem bind_bind {δ : Type} (p : Calls κ ρ α) (f : α → Calls κ ρ β) (g : β → Calls κ ρ δ) :
    (p.bind f).bind g = p.bind fun a => (f a).bind g := by
  induction p with
  | done a => rfl
  | call k next ih => exact congrArg (call k) (funext ih)

instance : LawfulMonad (Calls κ ρ) := .mk' _ bind_done (fun _ _ => rfl) bind_bind

/-- `a` is reached when `n` calls have been made, those that calls make in turn among them. -/
inductive Ends (body : (k : κ) → Calls κ ρ (ρ k)) : {α : Type} → Calls κ ρ α → α → Nat → Prop where
  | done {α : Type} (a : α) : Ends body (.done a) a 0
  | call {α : Type} {k : κ} {next : ρ k → Calls κ ρ α} {r : ρ k} {a : α} {n m : Nat} (inner : Ends body (body k) r n)
      (rest : Ends body (next r) a m) : Ends body (.call k next) a (n + m + 1)

theorem Ends.unique {body : (k : κ) → Calls κ ρ (ρ k)} {p : Calls κ ρ α} {a : α} {n : Nat} (ends : Ends body p a n)
    {b : α} {m : Nat} (ends' : Ends body p b m) : a = b ∧ n = m := by
  induction ends generalizing m with
  | done a =>
    cases ends'
    exact ⟨rfl, rfl⟩
  | call _ _ inner rest =>
    cases ends' with
    | call inner' rest' =>
      obtain ⟨rfl, rfl⟩ := inner inner'
      obtain ⟨rfl, rfl⟩ := rest rest'
      exact ⟨rfl, rfl⟩

section
variable (f : (k : κ) → ρ k)

def value : Calls κ ρ α → α
  | done a => a
  | call k next => (next (f k)).value

def Within (P : κ → Prop) : Calls κ ρ α → Prop
  | done _ => True
  | call k next => P k ∧ (next (f k)).Within P

theorem value_bind (p : Calls κ ρ α) (g : α → Calls κ ρ β) : (p >>= g).value f = (g (p.value f)).value f := by
  induction p with
  | done a => rfl
  | call k next ih => exact ih (f k)

theorem within_bind {P : κ → Prop} {p : Calls κ ρ α} {g : α → Calls κ ρ β} (first : p.Within f P)
    (rest : (g (p.value f)).Within f P) : (p >>= g).Within f P := by
  induction p with
  | done a => exact rest
  | call k next ih => exact ⟨first.1, ih (f k) first.2 rest⟩

-- Where the results fit the bodies and every call that is made ends, so does the whole.
theorem exists_ends {body : (k : κ) → Calls κ ρ (ρ k)} {p : Calls κ ρ α}
    (each : p.Within f fun k => ∃ n, Ends body (body k) (f k) n) : ∃ n, Ends body p (p.value f) n := by
  induction p with
  | done a => exact ⟨0, .done a⟩
  | call k next ih =>
    obtain ⟨⟨n, inner⟩, later⟩ := each
    obtain ⟨m, rest⟩ := ih (f k) later
    exact ⟨_, .call inner rest⟩

end

end Calls

abbrev Steps (κ : Type) (γ : κ → Type) (ε α : Type) := ExceptT ε (Calls κ fun k => Except ε (γ k)) α

namespace Steps

variable {κ : Type} {γ : κ → Type} {ε α β : Type}

def ofOutcome (x : Except ε α) : Steps κ γ ε α := ExceptT.mk (.done x)

def ask (k : κ) : Steps κ γ ε (γ k) := ExceptT.mk (.call k .done)

variable (f : (k : κ) → Except ε (γ k))

def outcome (x : Steps κ γ ε α) : Except ε α := x.run.value f

@[simp] theorem outcome_pure (a : α) : outcome f (pure a) = .ok a := rfl

@[simp] theorem outcome_throw (fault : ε) : outcome f (throw fault : Steps κ γ ε α) = .error fault := rfl

@[simp] theorem outcome_ofOutcome (x : Except ε α) : outcome f (ofOutcome x) = x := rfl

@[simp] theorem outcome_ask (k : κ) : outcome f (ask k) = f k := rfl

@[simp] theorem outcome_bind (x : Steps κ γ ε α) (g : α → Steps κ γ ε β) :
    outcome f (x >>= g) = outcome f x >>= fun a => outcome f (g a) := by
  have split := Calls.value_bind f x.run (ExceptT.bindCont g)
  refine split.trans ?_
  unfold outcome
  cases x.run.value f <;> rfl

theorem outcome_bind_pure (x : Steps κ γ ε α) (g : α → β) :
    outcome f (x >>= fun a => pure (g a)) = (outcome f x).map g := by
  rw [outcome_bind]
  cases outcome f x <;> rfl

@[simp] theorem outcome_adapt (x : Steps κ γ ε α) (g : ε → ε) : outcome f (x.adapt g) = (outcome f x).mapError g :=
  Calls.value_bind f x.run fun r => .done (r.mapError g)

@[simp] theorem outcome_mapM (g : α → Steps κ γ ε β) (xs : List α) :
    outcome f (xs.mapM g) = xs.mapM fun x => outcome f (g x) := by
  induction xs with
  | nil => rfl
  | cons x xs ih =>
    simp only [List.mapM_cons, outcome_bind, ih]
    rfl

variable {f} {P : κ → Prop}

def Make (f : (k : κ) → Except ε (γ k)) (P : κ → Prop) (x : Steps κ γ ε α) : Prop := x.run.Within f P

theorem make_pure (a : α) : Make f P (pure a) := trivial

theorem make_throw (fault : ε) : Make f P (throw fault : Steps κ γ ε α) := trivial

theorem make_ofOutcome (x : Except ε α) : Make f P (ofOutcome x) := trivial

theorem make_ask {k : κ} (one : P k) : Make f P (ask k) := ⟨one, trivial⟩

theorem Make.bind {x : Steps κ γ ε α} {g : α → Steps κ γ ε β} (first : Make f P x)
    (rest : ∀ a, outcome f x = .ok a → Make f P (g a)) : Make f P (x >>= g) := by
  apply Calls.within_bind f first
  cases reached : x.run.value f with
  | error fault => trivial
  | ok a => exact rest a reached

theorem Make.adapt {x : Steps κ γ ε α} (made : Make f P x) (g : ε → ε) : Make f P (x.adapt g) :=
  Calls.within_bind f made trivial

theorem make_mapM {g : α → Steps κ γ ε β} {xs : List α} (each : ∀ x ∈ xs, Make f P (g x)) : Make f P (xs.mapM g) := by
  induction xs with
  | nil => exact make_pure []
  | cons x xs ih =>
    obtain ⟨first, rest⟩ := List.forall_mem_cons.mp each
    rw [List.mapM_cons]
    exact first.bind fun y _ => (ih rest).bind fun ys _ => make_pure (y :: ys)

end Steps

end SchemaProbe
