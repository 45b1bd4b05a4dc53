import SchemaProbe.Api.Reference
import SchemaProbe.Proofs.Json.Ordered

set_option autoImplicit false

namespace SchemaProbe.Reference

mutual
/-- `Walk doc place stack v result after`: the walk through `v` comes to `result` and turns `stack` into `after`. -/
inductive Walk (doc : Json) (place : String) :
    List String → Json → Except DocumentFault Json → List String → Prop where
  | cut {stack : List String} {v : Json} {r : String} (found : reference? v = some r)
      (stop : r ∈ stack ∨ deepest ≤ stack.length) : Walk doc place stack v (.ok (.object [])) stack
  | lost {stack : List String} {v : Json} {r : String} {fault : DocumentFault} (found : reference? v = some r)
      (new : r ∉ stack) (room : stack.length < deepest) (missing : lookup doc place r = .error fault) :
      Walk doc place stack v (.error fault) stack
  -- The reference is pushed, and whatever is on top afterwards is popped, also behind a fault.
  | enter {stack after : List String} {v target : Json} {r : String} {result : Except DocumentFault Json}
      (found : reference? v = some r) (new : r ∉ stack) (room : stack.length < deepest)
      (there : lookup doc place r = .ok target) (inside : Walk doc place (r :: stack) target result after) :
      Walk doc place stack v result after.tail
  | object {stack after : List String} {ms : Members} {result : Except DocumentFault Members}
      (plain : reference? (.object ms) = none) (members : WalkMembers doc place stack ms result after) :
      Walk doc place stack (.object ms) (result.map .object) after
  | array {stack after : List String} {xs : List Json} {result : Except DocumentFault (List Json)}
      (elements : WalkList doc place stack xs result after) :
      Walk doc place stack (.array xs) (result.map .array) after
  | leaf {stack : List String} {v : Json} (flat : v.object? = none ∧ v.array? = none) :
      Walk doc place stack v (.ok v) stack
inductive WalkMembers (doc : Json) (place : String) :
    List String → Members → Except DocumentFault Members → List String → Prop where
  | nil {stack : List String} : WalkMembers doc place stack [] (.ok []) stack
  | stop {stack after : List String} {k : String} {v : Json} {ms : Members} {fault : DocumentFault}
      (first : Walk doc place stack v (.error fault) after) :
      WalkMembers doc place stack ((k, v) :: ms) (.error fault) after
  | cons {stack middle after : List String} {k : String} {v w : Json} {ms : Members}
      {rest : Except DocumentFault Members} (first : Walk doc place stack v (.ok w) middle)
      (others : WalkMembers doc place middle ms rest after) :
      WalkMembers doc place stack ((k, v) :: ms) (rest.map ((k, w) :: ·)) after
inductive WalkList (doc : Json) (place : String) :
    List String → List Json → Except DocumentFault (List Json) → List String → Prop where
  | nil {stack : List String} : WalkList doc place stack [] (.ok []) stack
  | stop {stack after : List String} {x : Json} {xs : List Json} {fault : DocumentFault}
      (first : Walk doc place stack x (.error fault) after) : WalkList doc place stack (x :: xs) (.error fault) after
  | cons {stack middle after : List String} {x y : Json} {xs : List Json} {rest : Except DocumentFault (List Json)}
      (first : Walk doc place stack x (.ok y) middle) (others : WalkList doc place middle xs rest after) :
      WalkList doc place stack (x :: xs) (rest.map (y :: ·)) after
end

section
variable {doc : Json} {place : String} {stack : List String} {e : String → Except DocumentFault Json}

theorem isObject_of_reference? {v : Json} {r : String} (found : reference? v = some r) : ∃ ms, v = .object ms := by
  cases v with
  | object ms => exact ⟨ms, rfl⟩
  | _ => cases found

theorem replace_reference {v : Json} {r : String} (found : reference? v = some r) : replace e v = e r := by
  obtain ⟨ms, rfl⟩ := isObject_of_reference? found
  rw [replace, found]

theorem replace_object {ms : Members} (plain : reference? (.object ms) = none) :
    replace e (.object ms) = (replaceMembers e ms).map .object := by
  rw [replace, plain]

theorem replaceList_cons (x : Json) (xs : List Json) :
    replaceList e (x :: xs) = (replace e x).bind fun y => (replaceList e xs).map (y :: ·) := by
  rw [replaceList]
  cases replace e x with
  | error fault => rfl
  | ok y => cases replaceList e xs <;> rfl

theorem replaceMembers_cons (k : String) (v : Json) (ms : Members) :
    replaceMembers e ((k, v) :: ms) = (replace e v).bind fun w => (replaceMembers e ms).map ((k, w) :: ·) := by
  rw [replaceMembers]
  cases replace e v with
  | error fault => rfl
  | ok w => cases replaceMembers e ms <;> rfl

def room (stack : List String) : Nat := deepest - stack.length

theorem room_cons (r : String) {n : Nat} (left : room stack = n + 1) : room (r :: stack) = n := by
  simp only [room, List.length_cons] at left ⊢
  omega

theorem expand_cut {r : String} (stop : r ∈ stack ∨ deepest ≤ stack.length) :
    expand doc place (room stack) stack r = .ok (.object []) := by
  cases left : room stack with
  | zero => rfl
  | succ n =>
    rcases stop with again | full
    · rw [expand, if_pos (List.contains_iff_mem.mpr again)]
    · simp only [room] at left
      omega

theorem expand_enter {r : String} (new : r ∉ stack) (deep : stack.length < deepest) :
    expand doc place (room stack) stack r =
      (lookup doc place r).bind (replace (expand doc place (room (r :: stack)) (r :: stack))) := by
  have left : room stack = room (r :: stack) + 1 := by
    simp only [room, List.length_cons]
    omega
  rw [left, expand, if_neg (by simpa using new)]
  rfl

mutual
theorem Walk.eq : ∀ {stack after : List String} {v : Json} {result : Except DocumentFault Json},
    Walk doc place stack v result after → result = replace (expand doc place (room stack) stack) v ∧ after = stack
  | _, _, _, _, .cut found stop => ⟨by rw [replace_reference found, expand_cut stop], rfl⟩
  | _, _, _, _, .lost found new deep missing => by
    rw [replace_reference found, expand_enter new deep, missing]
    exact ⟨rfl, rfl⟩
  | _, _, _, _, .enter found new deep there inside => by
    have ⟨same, kept⟩ := inside.eq
    rw [replace_reference found, expand_enter new deep, there, same, kept]
    exact ⟨rfl, rfl⟩
  | _, _, _, _, .object plain members => by
    have ⟨same, kept⟩ := members.eq
    exact ⟨by rw [replace_object plain, same], kept⟩
  | _, _, _, _, .array elements => by
    have ⟨same, kept⟩ := elements.eq
    exact ⟨by rw [replace, same], kept⟩
  | _, _, v, _, .leaf flat => by
    refine ⟨?_, rfl⟩
    cases v <;> simp_all [replace, Json.object?, Json.array?]
theorem WalkMembers.eq : ∀ {stack after : List String} {ms : Members} {result : Except DocumentFault Members},
    WalkMembers doc place stack ms result after →
      result = replaceMembers (expand doc place (room stack) stack) ms ∧ after = stack
  | _, _, _, _, .nil => ⟨by rw [replaceMembers], rfl⟩
  | _, _, _, _, .stop first => by
    have ⟨same, kept⟩ := first.eq
    rw [replaceMembers_cons, ← same]
    exact ⟨rfl, kept⟩
  | _, _, _, _, .cons first others => by
    have ⟨same, kept⟩ := first.eq
    have ⟨rest, balanced⟩ := others.eq
    rw [replaceMembers_cons, ← same, rest, balanced, kept]
    exact ⟨rfl, rfl⟩
theorem WalkList.eq : ∀ {stack after : List String} {xs : List Json} {result : Except DocumentFault (List Json)},
    WalkList doc place stack xs result after →
      result = replaceList (expand doc place (room stack) stack) xs ∧ after = stack
  | _, _, _, _, .nil => ⟨by rw [replaceList], rfl⟩
  | _, _, _, _, .stop first => by
    have ⟨same, kept⟩ := first.eq
    rw [replaceList_cons, ← same]
    exact ⟨rfl, kept⟩
  | _, _, _, _, .cons first others => by
    have ⟨same, kept⟩ := first.eq
    have ⟨rest, balanced⟩ := others.eq
    rw [replaceList_cons, ← same, rest, balanced, kept]
    exact ⟨rfl, rfl⟩
end

theorem walkList_of_each {xs : List Json} (each : ∀ x ∈ xs, Walk doc place stack x (replace e x) stack) :
    WalkList doc place stack xs (replaceList e xs) stack := by
  induction xs with
  | nil => exact .nil
  | cons x xs ih =>
    obtain ⟨first, others⟩ := List.forall_mem_cons.mp each
    rw [replaceList_cons]
    cases here : replace e x with
    | error fault => exact .stop (here ▸ first)
    | ok y => exact .cons (here ▸ first) (ih others)

theorem walkMembers_of_each {ms : Members} (each : ∀ m ∈ ms, Walk doc place stack m.2 (replace e m.2) stack) :
    WalkMembers doc place stack ms (replaceMembers e ms) stack := by
  induction ms with
  | nil => exact .nil
  | cons m ms ih =>
    obtain ⟨first, others⟩ := List.forall_mem_cons.mp each
    rw [replaceMembers_cons]
    cases here : replace e m.2 with
    | error fault => exact .stop (here ▸ first)
    | ok w => exact .cons (here ▸ first) (ih others)

theorem walk_of_expanded {v : Json}
    (expanded : ∀ w r, reference? w = some r → Walk doc place stack w (e r) stack) :
    Walk doc place stack v (replace e v) stack := by
  induction v using Json.inductionOn with
  | object ms ih =>
    cases found : reference? (.object ms) with
    | some r =>
      rw [replace_reference found]
      exact expanded _ r found
    | none =>
      rw [replace_object found]
      exact .object found (walkMembers_of_each ih)
  | array xs ih =>
    rw [replace]
    exact .array (walkList_of_each ih)
  | _ => exact .leaf ⟨rfl, rfl⟩

theorem walk_replace (v : Json) : Walk doc place stack v (replace (expand doc place (room stack) stack) v) stack := by
  -- The measure is the room under the stack first, the value second: a target may be any value.
  induction left : room stack generalizing stack v with
  | zero =>
    refine walk_of_expanded fun w r found => ?_
    have full : deepest ≤ stack.length := by
      simp only [room] at left
      omega
    exact .cut found (.inr full)
  | succ n ih =>
    refine walk_of_expanded fun w r found => ?_
    rw [← left]
    by_cases stop : r ∈ stack ∨ deepest ≤ stack.length
    · rw [expand_cut stop]
      exact .cut found stop
    · obtain ⟨new, deep⟩ := not_or.mp stop
      rw [Nat.not_le] at deep
      have below := room_cons r left
      rw [expand_enter new deep, below]
      cases there : lookup doc place r with
      | error fault => exact .lost found new deep there
      | ok target => exact .enter found new deep there (ih target below)

-- From every stack there is one walk; it comes to what replacing under that stack comes to, and keeps the stack.
theorem walk_iff {after : List String} {v : Json} {result : Except DocumentFault Json} :
    Walk doc place stack v result after ↔
      result = replace (expand doc place (room stack) stack) v ∧ after = stack := by
  constructor
  · exact Walk.eq
  · rintro ⟨rfl, rfl⟩
    exact walk_replace v

end

end SchemaProbe.Reference
