import Mathlib.Logic.Relation
import SchemaProbe.Proofs.Document.Ordered
import SchemaProbe.Proofs.Reference.Walk

set_option autoImplicit false

namespace SchemaProbe.Reference

mutual
def mentioned : Json → List String
  | .object ms =>
    match reference? (.object ms) with
    | some r => [r]
    | none => mentionedMembers ms
  | .array xs => mentionedList xs
  | _ => []
def mentionedMembers : List (String × Json) → List String
  | [] => []
  | (_, v) :: ms => mentioned v ++ mentionedMembers ms
def mentionedList : List Json → List String
  | [] => []
  | x :: xs => mentioned x ++ mentionedList xs
end

def target? (doc : Json) (r : String) : Option Json := (Text.dropPrefix? "#" r).bind doc.at?

-- References that are looked up below a stack: those that stand on it, or under a full one, are not.
inductive Visits (doc : Json) : List String → Json → String → Prop where
  | here {stack : List String} {v : Json} {r : String} (mention : r ∈ mentioned v) (new : r ∉ stack)
      (deep : stack.length < deepest) : Visits doc stack v r
  | under {stack : List String} {v target : Json} {r r' : String} (mention : r ∈ mentioned v) (new : r ∉ stack)
      (deep : stack.length < deepest) (there : target? doc r = some target)
      (inside : Visits doc (r :: stack) target r') : Visits doc stack v r'

-- Neither the value nor anything inside it is a reference.
def Resolved (v : Json) : Prop := ∀ w, Relation.ReflTransGen Json.Child w v → reference? w = none

section
variable {doc v w : Json} {place r : String} {stack : List String} {e : String → Except DocumentFault Json}

theorem mentionedMembers_eq_flatMap (ms : List (String × Json)) :
    mentionedMembers ms = ms.flatMap fun m => mentioned m.2 := by
  induction ms with
  | nil => rfl
  | cons m ms ih => rw [mentionedMembers, ih, List.flatMap_cons]

theorem mentionedList_eq_flatMap (xs : List Json) : mentionedList xs = xs.flatMap mentioned := by
  induction xs with
  | nil => rfl
  | cons x xs ih => rw [mentionedList, ih, List.flatMap_cons]

theorem mentioned_reference (found : reference? v = some r) : mentioned v = [r] := by
  obtain ⟨ms, rfl⟩ := isObject_of_reference? found
  rw [mentioned, found]

theorem mentioned_object {ms : Members} (plain : reference? (.object ms) = none) :
    mentioned (.object ms) = ms.flatMap fun m => mentioned m.2 := by
  rw [mentioned, plain, mentionedMembers_eq_flatMap]

theorem mentioned_array (xs : List Json) : mentioned (.array xs) = xs.flatMap mentioned := by
  rw [mentioned, mentionedList_eq_flatMap]

theorem lookup_eq_ok_iff : lookup doc place r = .ok v ↔ target? doc r = some v := by
  unfold lookup target?
  cases Text.dropPrefix? "#" r with
  | none => simp
  | some pointer =>
    rw [Option.bind_some]
    cases at? : doc.at? pointer <;> simp [at?]

-- A reference leads nowhere because it is not local, or because nothing stands where it points.
def Lost (doc : Json) (place r : String) (fault : DocumentFault) : Prop :=
  fault = .externalReference place r ∧ Text.dropPrefix? "#" r = none ∨
    fault = .unresolvableReference place r ∧
      ∃ pointer, Text.dropPrefix? "#" r = some pointer ∧ doc.at? pointer = none

theorem lookup_eq_error_iff {fault : DocumentFault} : lookup doc place r = .error fault ↔ Lost doc place r fault := by
  unfold lookup Lost
  cases Text.dropPrefix? "#" r with
  | none => simp [eq_comm]
  | some pointer => cases at? : doc.at? pointer <;> simp [at?, eq_comm]

theorem replace_eq_error {fault : DocumentFault} (failed : replace e v = .error fault) :
    ∃ r ∈ mentioned v, e r = .error fault := by
  induction v using Json.inductionOn with
  | object ms ih =>
    cases found : reference? (.object ms) with
    | some r =>
      rw [replace_reference found] at failed
      exact ⟨r, by simp [mentioned_reference found], failed⟩
    | none =>
      rw [replace_object found, map_eq_error_iff, replaceMembers_eq_mapM] at failed
      obtain ⟨m, member, lost⟩ := exists_of_mapM_eq_error failed
      obtain ⟨r, within, lost⟩ := ih m member (map_eq_error_iff.mp lost)
      exact ⟨r, mentioned_object found ▸ List.mem_flatMap_of_mem member within, lost⟩
  | array xs ih =>
    rw [replace, map_eq_error_iff, replaceList_eq_mapM] at failed
    obtain ⟨x, element, lost⟩ := exists_of_mapM_eq_error failed
    obtain ⟨r, within, lost⟩ := ih x element lost
    exact ⟨r, mentioned_array xs ▸ List.mem_flatMap_of_mem element within, lost⟩
  | _ => cases failed

theorem expanded_of_replace (done : replace e v = .ok w) (mention : r ∈ mentioned v) : ∃ u, e r = .ok u := by
  induction v using Json.inductionOn generalizing w with
  | object ms ih =>
    cases found : reference? (.object ms) with
    | some r' =>
      rw [mentioned_reference found, List.mem_singleton] at mention
      rw [replace_reference found] at done
      exact ⟨w, mention ▸ done⟩
    | none =>
      rw [mentioned_object found] at mention
      obtain ⟨m, member, within⟩ := List.mem_flatMap.mp mention
      rw [replace_object found, map_eq_ok_iff] at done
      obtain ⟨ws, done, -⟩ := done
      rw [replaceMembers_eq_mapM] at done
      obtain ⟨w', -, step⟩ := exists_of_mapM_of_mem done member
      obtain ⟨u, value, -⟩ := map_eq_ok_iff.mp step
      exact ih m member value within
  | array xs ih =>
    rw [mentioned_array] at mention
    obtain ⟨x, element, within⟩ := List.mem_flatMap.mp mention
    rw [replace, map_eq_ok_iff] at done
    obtain ⟨ys, done, -⟩ := done
    rw [replaceList_eq_mapM] at done
    obtain ⟨y, -, step⟩ := exists_of_mapM_of_mem done element
    exact ih x element step within
  | _ => simp [mentioned] at mention

theorem visits_of_replace_eq_error {fault : DocumentFault}
    (failed : replace (expand doc place (room stack) stack) v = .error fault) :
    ∃ r, Visits doc stack v r ∧ lookup doc place r = .error fault := by
  induction left : room stack generalizing stack v with
  | zero =>
    -- Nothing is looked up under a full stack.
    rw [left] at failed
    obtain ⟨r, -, lost⟩ := replace_eq_error failed
    cases lost
  | succ n ih =>
    obtain ⟨r, mention, lost⟩ := replace_eq_error failed
    by_cases stop : r ∈ stack ∨ deepest ≤ stack.length
    · rw [expand_cut stop] at lost
      cases lost
    · obtain ⟨new, deep⟩ := not_or.mp stop
      rw [Nat.not_le] at deep
      rw [expand_enter new deep] at lost
      cases there : lookup doc place r with
      | error f =>
        rw [there] at lost
        cases lost
        exact ⟨r, .here mention new deep, there⟩
      | ok target =>
        rw [there] at lost
        have below := room_cons r left
        obtain ⟨r', inside, missing⟩ := ih lost below
        exact ⟨r', .under mention new deep (lookup_eq_ok_iff.mp there) inside, missing⟩

theorem found_of_visits (visit : Visits doc stack v r)
    (done : replace (expand doc place (room stack) stack) v = .ok w) : ∃ target, target? doc r = some target := by
  induction visit generalizing w with
  | here mention new deep =>
    obtain ⟨u, expanded⟩ := expanded_of_replace done mention
    rw [expand_enter new deep] at expanded
    obtain ⟨target, there, -⟩ := bind_eq_ok_iff.mp expanded
    exact ⟨target, lookup_eq_ok_iff.mp there⟩
  | under mention new deep there _ ih =>
    obtain ⟨u, expanded⟩ := expanded_of_replace done mention
    rw [expand_enter new deep, lookup_eq_ok_iff.mpr there] at expanded
    exact ih expanded

theorem replace_isObject (isObject : v.isObject = true)
    (expanded : ∀ r ∈ mentioned v, ∀ u, e r = .ok u → u.isObject = true) (done : replace e v = .ok w) :
    w.isObject = true := by
  cases found : reference? v with
  | some r =>
    rw [replace_reference found] at done
    exact expanded r (by simp [mentioned_reference found]) w done
  | none =>
    cases v with
    | object ms =>
      rw [replace_object found] at done
      obtain ⟨ws, -, rfl⟩ := map_eq_ok_iff.mp done
      rfl
    | _ => cases isObject

theorem replace_eq_string {s : String} (expanded : ∀ r ∈ mentioned v, ∀ u, e r = .ok u → u.isObject = true)
    (done : replace e v = .ok (.string s)) : v = .string s := by
  cases v with
  | object ms => cases replace_isObject rfl expanded done
  | array xs =>
    rw [replace, map_eq_ok_iff] at done
    obtain ⟨ys, -, same⟩ := done
    cases same
  | _ => cases done <;> rfl

theorem resolved_object {ms : Members} (plain : reference? (.object ms) = none) (each : ∀ m ∈ ms, Resolved m.2) :
    Resolved (.object ms) := by
  intro w inside
  rcases inside.cases_tail with rfl | ⟨u, within, child⟩
  · exact plain
  · cases child with
    | member member => exact each _ member w within

theorem resolved_array {xs : List Json} (each : ∀ x ∈ xs, Resolved x) : Resolved (.array xs) := by
  intro w inside
  rcases inside.cases_tail with rfl | ⟨u, within, child⟩
  · rfl
  · cases child with
    | element element => exact each _ element w within

theorem resolved_leaf (flat : v.object? = none ∧ v.array? = none) : Resolved v := by
  intro w inside
  rcases inside.cases_tail with rfl | ⟨u, -, child⟩
  · simp [reference?, Json.get?, flat.1]
  · cases child <;> simp [Json.object?, Json.array?] at flat

theorem replaceMembers_eq_ok_iff {ms ws : Members} :
    replaceMembers e ms = .ok ws ↔ List.Forall₂ (fun m m' => m'.1 = m.1 ∧ replace e m.2 = .ok m'.2) ms ws := by
  rw [replaceMembers_eq_mapM, mapM_eq_ok_iff]
  have step (m m' : String × Json) :
      (replace e m.2).map (fun w => (m.1, w)) = .ok m' ↔ m'.1 = m.1 ∧ replace e m.2 = .ok m'.2 := by
    rw [map_eq_ok_iff]
    constructor
    · rintro ⟨w, value, rfl⟩
      exact ⟨rfl, value⟩
    · rintro ⟨name, value⟩
      exact ⟨m'.2, value, Prod.ext name.symm rfl⟩
  simp only [step]

theorem get?_of_replaceMembers {ms ws : Members} (done : replaceMembers e ms = .ok ws) {name : String}
    (found : NameMap.get? ws name = some w) : ∃ v, NameMap.get? ms name = some v ∧ replace e v = .ok w := by
  rw [replaceMembers_eq_ok_iff] at done
  induction done with
  | nil => simp at found
  | @cons m m' ms ws first _ ih =>
    obtain ⟨same, value⟩ := first
    rw [NameMap.get?_cons, same] at found
    rw [NameMap.get?_cons]
    by_cases here : name = m.1
    · rw [if_pos here, Option.some.injEq] at found
      exact ⟨m.2, if_pos here, found ▸ value⟩
    · rw [if_neg here] at found ⊢
      exact ih found

-- The value of a member `$ref` is no text behind the replacement unless it was one before.
theorem reference?_of_replaceMembers {ms ws : Members} (plain : reference? (.object ms) = none)
    (expanded : ∀ r ∈ mentioned (.object ms), ∀ u, e r = .ok u → u.isObject = true)
    (done : replaceMembers e ms = .ok ws) : reference? (.object ws) = none := by
  rw [mentioned_object plain] at expanded
  rw [← Option.not_isSome_iff_eq_none, Option.isSome_iff_exists]
  rintro ⟨r, found⟩
  obtain ⟨w, member, text⟩ := Option.bind_eq_some_iff.mp found
  obtain ⟨v, before, value⟩ := get?_of_replaceMembers done member
  have string : w = .string r := by cases w <;> simp_all [Json.string?]
  rw [string] at value
  have same : v = .string r := replace_eq_string
    (fun r' mention => expanded r' (List.mem_flatMap_of_mem (NameMap.mem_of_get? before) mention)) value
  have reference : reference? (.object ms) = some r := Option.bind_eq_some_iff.mpr ⟨v, before, by rw [same]; rfl⟩
  rw [plain] at reference
  cases reference

theorem replace_resolved
    (expanded : ∀ r ∈ mentioned v, ∀ u, e r = .ok u → u.isObject = true ∧ Resolved u) (done : replace e v = .ok w) :
    Resolved w := by
  induction v using Json.inductionOn generalizing w with
  | object ms ih =>
    cases found : reference? (.object ms) with
    | some r =>
      rw [replace_reference found] at done
      exact (expanded r (by simp [mentioned_reference found]) w done).2
    | none =>
      rw [replace_object found] at done
      obtain ⟨ws, members, rfl⟩ := map_eq_ok_iff.mp done
      have objects (r) (mention : r ∈ mentioned (.object ms)) (u) (here : e r = .ok u) := (expanded r mention u here).1
      refine resolved_object (reference?_of_replaceMembers found objects members) ?_
      rw [mentioned_object found] at expanded
      rw [replaceMembers_eq_mapM] at members
      intro m' member'
      obtain ⟨m, member, step⟩ := exists_of_mem_mapM members member'
      obtain ⟨u, value, rfl⟩ := map_eq_ok_iff.mp step
      exact ih m member (fun r mention => expanded r (List.mem_flatMap_of_mem member mention)) value
  | array xs ih =>
    rw [mentioned_array] at expanded
    rw [replace, map_eq_ok_iff] at done
    obtain ⟨ys, done, rfl⟩ := done
    rw [replaceList_eq_mapM] at done
    refine resolved_array fun y member => ?_
    obtain ⟨x, element, step⟩ := exists_of_mem_mapM done member
    exact ih x element (fun r mention => expanded r (List.mem_flatMap_of_mem element mention)) step
  | _ =>
    cases done
    exact resolved_leaf ⟨rfl, rfl⟩

theorem expanded_resolved
    (objects : ∀ r, Visits doc stack v r → ∃ target, target? doc r = some target ∧ target.isObject = true)
    (done : replace (expand doc place (room stack) stack) v = .ok w) :
    (v.isObject = true → w.isObject = true) ∧ Resolved w := by
  induction left : room stack generalizing stack v w with
  | zero =>
    rw [left] at done
    have empty (r : String) (_ : r ∈ mentioned v) (u : Json) (cut : expand doc place 0 stack r = .ok u) :
        u.isObject = true ∧ Resolved u := by
      cases cut
      exact ⟨rfl, resolved_object rfl (by simp)⟩
    have objects (r) (mention : r ∈ mentioned v) (u) (cut) := (empty r mention u cut).1
    exact ⟨fun isObject => replace_isObject isObject objects done, replace_resolved empty done⟩
  | succ n ih =>
    have each (r : String) (mention : r ∈ mentioned v) (u : Json)
        (expanded : expand doc place (room stack) stack r = .ok u) : u.isObject = true ∧ Resolved u := by
      by_cases stop : r ∈ stack ∨ deepest ≤ stack.length
      · rw [expand_cut stop] at expanded
        cases expanded
        exact ⟨rfl, resolved_object rfl (by simp)⟩
      · obtain ⟨new, deep⟩ := not_or.mp stop
        rw [Nat.not_le] at deep
        rw [expand_enter new deep] at expanded
        obtain ⟨target, there, inside⟩ := bind_eq_ok_iff.mp expanded
        rw [lookup_eq_ok_iff] at there
        have below := room_cons r left
        obtain ⟨target', same, isObject⟩ := objects r (.here mention new deep)
        obtain rfl : target = target' := Option.some.inj (there.symm.trans same)
        obtain ⟨kept, resolved⟩ := ih (fun r' visit => objects r' (.under mention new deep there visit)) inside below
        exact ⟨kept isObject, resolved⟩
    have objects (r) (mention : r ∈ mentioned v) (u) (here) := (each r mention u here).1
    exact ⟨fun isObject => replace_isObject isObject objects done, replace_resolved each done⟩

end

end SchemaProbe.Reference
