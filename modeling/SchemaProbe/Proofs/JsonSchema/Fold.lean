import SchemaProbe.JsonSchema.Basic
import SchemaProbe.Proofs.Json.Ordered

set_option autoImplicit false

namespace SchemaProbe.JsonSchema

variable {α β : Type}

def Sub.ofValue (position : String → Position) (result : Json → α) (keyword : String) (v : Json) : Sub α :=
  match position keyword, v with
  | .data, _ => .none
  | .schema, .array xs => .many (xs.map result)
  | .schema, v => .one (result v)
  | .schemas, .array xs => .many (xs.map result)
  | .schemas, _ => .none
  | .named, .object ps => .named (ps.map fun p => (p.1, result p.2))
  | .named, _ => .none

section
variable (s : Sub α) (f : α → β)

@[simp] theorem Sub.one?_map : (s.map f).one? = s.one?.map f := by
  cases s <;> rfl

@[simp] theorem Sub.many?_map : (s.map f).many? = s.many?.map (List.map f) := by
  cases s <;> rfl

@[simp] theorem Sub.named?_map : (s.map f).named? = s.named?.map (List.map fun a => (a.1, f a.2)) := by
  cases s <;> rfl

end

theorem Sub.ofValue_comp (position : String → Position) (f : α → β) (result : Json → α) (k : String) (v : Json) :
    Sub.ofValue position (fun s => f (result s)) k v = (Sub.ofValue position result k v).map f := by
  unfold Sub.ofValue
  split <;> simp [Sub.map]

theorem foldList_eq_map (position : String → Position) (leaf : Json → α) (node : List (Entry α) → α)
    (xs : List Json) : foldList position leaf node xs = xs.map (fold position leaf node) := by
  induction xs with
  | nil => rfl
  | cons x xs ih => rw [List.map_cons, ← ih]; rfl

theorem foldNamed_eq_map (position : String → Position) (leaf : Json → α) (node : List (Entry α) → α)
    (ms : List (String × Json)) :
    foldNamed position leaf node ms = ms.map fun m => (m.1, fold position leaf node m.2) := by
  induction ms with
  | nil => rfl
  | cons m ms ih => rw [List.map_cons, ← ih]; rfl

def entries (position : String → Position) (result : Json → α) (ms : Members) : List (Entry α) :=
  ms.map fun m => ⟨m.1, m.2, Sub.ofValue position result m.1 m.2⟩

theorem entries_comp (position : String → Position) (f : α → β) (result : Json → α) (ms : Members) :
    entries position (fun s => f (result s)) ms = (entries position result ms).map (Entry.map f) := by
  rw [entries, entries, List.map_map]
  refine List.map_congr_left fun m _ => ?_
  rw [Sub.ofValue_comp]
  rfl

theorem foldMembers_eq_entries (position : String → Position) (leaf : Json → α) (node : List (Entry α) → α)
    (ms : List (String × Json)) :
    foldMembers position leaf node ms = entries position (fold position leaf node) ms := by
  induction ms with
  | nil => rfl
  | cons m ms ih =>
    obtain ⟨k, v⟩ := m
    rw [foldMembers.eq_def, entries, List.map_cons, ← entries, ← ih]
    simp only [Sub.ofValue]
    cases position k <;> cases v <;> simp only [foldList_eq_map, foldNamed_eq_map]

theorem fold_object (position : String → Position) (leaf : Json → α) (node : List (Entry α) → α) (ms : Members) :
    fold position leaf node (.object ms) = node (entries position (fold position leaf node) ms) := by
  rw [← foldMembers_eq_entries]; rfl

section
variable (position : String → Position) (result : Json → α) (ms : Members) (k : String)

theorem entryFor_entries :
    entryFor (entries position result ms) k =
      (NameMap.get? ms k).map fun v => ⟨k, v, Sub.ofValue position result k v⟩ := by
  induction ms with
  | nil => rfl
  | cons m ms ih =>
    rw [entries, List.map_cons, ← entries, entryFor, List.find?_cons, NameMap.get?_cons]
    by_cases same : k = m.1
    · simp [same]
    · have differ : (m.1 == k) = false := by simpa using Ne.symm same
      simp only [differ, same, if_false]
      exact ih

def subAt : Option (Sub α) := (NameMap.get? ms k).map (Sub.ofValue position result k)

theorem isSome_entryFor_entries : (entryFor (entries position result ms) k).isSome = (subAt position result ms k).isSome := by
  simp [entryFor_entries, subAt]

theorem subOne?_entries : subOne? (entries position result ms) k = (subAt position result ms k).bind Sub.one? := by
  rw [subOne?, entryFor_entries, subAt]
  cases NameMap.get? ms k <;> rfl

theorem subMany_entries :
    subMany (entries position result ms) k = ((subAt position result ms k).bind Sub.many?).getD [] := by
  rw [subMany, entryFor_entries, subAt]
  cases NameMap.get? ms k <;> rfl

theorem subNamed_entries :
    subNamed (entries position result ms) k = ((subAt position result ms k).bind Sub.named?).getD [] := by
  rw [subNamed, entryFor_entries, subAt]
  cases NameMap.get? ms k <;> rfl

section
variable (f : α → β)

theorem subAt_comp : subAt position (fun s => f (result s)) ms k = (subAt position result ms k).map (Sub.map f) := by
  rw [subAt, subAt, Option.map_map]
  exact congrArg (fun g => (NameMap.get? ms k).map g) (funext (Sub.ofValue_comp position f result k))

theorem subOne?_entries_comp :
    subOne? (entries position (fun s => f (result s)) ms) k = (subOne? (entries position result ms) k).map f := by
  rw [subOne?_entries, subOne?_entries, subAt_comp]
  cases subAt position result ms k <;> simp

theorem subMany_entries_comp :
    subMany (entries position (fun s => f (result s)) ms) k = (subMany (entries position result ms) k).map f := by
  rw [subMany_entries, subMany_entries, subAt_comp]
  cases subAt position result ms k with
  | none => rfl
  | some s => cases many : s.many? <;> simp [many]

theorem subNamed_entries_comp :
    subNamed (entries position (fun s => f (result s)) ms) k =
      (subNamed (entries position result ms) k).map fun a => (a.1, f a.2) := by
  rw [subNamed_entries, subNamed_entries, subAt_comp]
  cases subAt position result ms k with
  | none => rfl
  | some s => cases named : s.named? <;> simp [named]

end

end

end SchemaProbe.JsonSchema
