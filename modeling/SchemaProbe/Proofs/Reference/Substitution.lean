import Mathlib.Data.List.Chain
import SchemaProbe.Proofs.Reference.Lookup

set_option autoImplicit false

namespace SchemaProbe.Reference

def LeadsTo (doc : Json) (r r' : String) : Prop := ∃ target, target? doc r = some target ∧ r' ∈ mentioned target

-- References one inside the target of the other, the first of them in the value.
def Chain (doc v : Json) (rs : List String) : Prop := (∀ r ∈ rs.head?, r ∈ mentioned v) ∧ rs.IsChain (LeadsTo doc)

structure Shallow (doc v : Json) : Prop where
  acyclic : ∀ rs, Chain doc v rs → rs.Nodup
  short : ∀ rs, Chain doc v rs → rs.length ≤ deepest

-- The second value is the first with every reference replaced by its target, and so on in the target.
inductive Substitutes (doc : Json) : Json → Json → Prop where
  | reference {v target w : Json} {r : String} (found : reference? v = some r) (there : target? doc r = some target)
      (inside : Substitutes doc target w) : Substitutes doc v w
  | object {ms ws : Members} (plain : reference? (.object ms) = none) (names : NameMap.names ws = NameMap.names ms)
      (each : ∀ p ∈ ms.zip ws, Substitutes doc p.1.2 p.2.2) : Substitutes doc (.object ms) (.object ws)
  | array {xs ys : List Json} (size : ys.length = xs.length) (each : ∀ p ∈ xs.zip ys, Substitutes doc p.1 p.2) :
      Substitutes doc (.array xs) (.array ys)
  | leaf {v : Json} (flat : v.object? = none ∧ v.array? = none) : Substitutes doc v v

section
variable {doc v w : Json} {place r : String} {stack : List String} {e : String → Except DocumentFault Json}

theorem substitutes_reference_iff (found : reference? v = some r) :
    Substitutes doc v w ↔ ∃ target, target? doc r = some target ∧ Substitutes doc target w := by
  constructor
  · intro substitutes
    cases substitutes with
    | reference found' there inside =>
      obtain rfl := Option.some.inj (found.symm.trans found')
      exact ⟨_, there, inside⟩
    | object plain => simp [plain] at found
    | array => cases found
    | leaf flat => simp [reference?, Json.get?, flat.1] at found
  · rintro ⟨target, there, inside⟩
    exact .reference found there inside

theorem substitutes_object_iff {ms : Members} (plain : reference? (.object ms) = none) :
    Substitutes doc (.object ms) w ↔ ∃ ws : Members, w = .object ws ∧ NameMap.names ws = NameMap.names ms ∧
      ∀ p ∈ ms.zip ws, Substitutes doc p.1.2 p.2.2 := by
  constructor
  · intro substitutes
    cases substitutes with
    | reference found => simp [plain] at found
    | object _ names each => exact ⟨_, rfl, names, each⟩
    | leaf flat => cases flat.1
  · rintro ⟨ws, rfl, names, each⟩
    exact .object plain names each

theorem substitutes_array_iff {xs : List Json} :
    Substitutes doc (.array xs) w ↔ ∃ ys, w = .array ys ∧ ys.length = xs.length ∧
      ∀ p ∈ xs.zip ys, Substitutes doc p.1 p.2 := by
  constructor
  · intro substitutes
    cases substitutes with
    | reference found => cases found
    | array size each => exact ⟨_, rfl, size, each⟩
    | leaf flat => cases flat.2
  · rintro ⟨ys, rfl, size, each⟩
    exact .array size each

theorem substitutes_leaf_iff (flat : v.object? = none ∧ v.array? = none) : Substitutes doc v w ↔ w = v := by
  constructor
  · intro substitutes
    cases substitutes with
    | reference found => simp [reference?, Json.get?, flat.1] at found
    | object => cases flat.1
    | array => cases flat.2
    | leaf => rfl
  · rintro rfl
    exact .leaf flat

theorem replaceMembers_eq_ok_iff_zip {ms ws : Members} :
    replaceMembers e ms = .ok ws ↔
      NameMap.names ws = NameMap.names ms ∧ ∀ p ∈ ms.zip ws, replace e p.1.2 = .ok p.2.2 := by
  rw [replaceMembers_eq_ok_iff]
  induction ms generalizing ws with
  | nil => cases ws <;> simp [NameMap.names]
  | cons m ms ih =>
    cases ws with
    | nil => simp [NameMap.names]
    | cons m' ws =>
      simp only [List.forall₂_cons, ih, NameMap.names, List.map_cons, List.cons.injEq, List.zip_cons_cons,
        List.forall_mem_cons]
      tauto

theorem replaceList_eq_ok_iff_zip {xs ys : List Json} :
    replaceList e xs = .ok ys ↔ ys.length = xs.length ∧ ∀ p ∈ xs.zip ys, replace e p.1 = .ok p.2 := by
  rw [replaceList_eq_mapM, mapM_eq_ok_iff, List.forall₂_iff_zip, eq_comm]
  simp only [Prod.forall]

theorem replace_eq_ok_iff_substitutes (expanded : ∀ r ∈ mentioned v, ∀ u,
      e r = .ok u ↔ ∃ target, target? doc r = some target ∧ Substitutes doc target u) :
    replace e v = .ok w ↔ Substitutes doc v w := by
  induction v using Json.inductionOn generalizing w with
  | object ms ih =>
    cases found : reference? (.object ms) with
    | some r =>
      rw [replace_reference found, substitutes_reference_iff found]
      exact expanded r (by simp [mentioned_reference found]) w
    | none =>
      rw [mentioned_object found] at expanded
      have each (ws : Members) :
          (∀ p ∈ ms.zip ws, replace e p.1.2 = .ok p.2.2) ↔ ∀ p ∈ ms.zip ws, Substitutes doc p.1.2 p.2.2 := by
        refine forall₂_congr fun p both => ?_
        have member := (List.of_mem_zip both).1
        exact ih p.1 member fun r mention => expanded r (List.mem_flatMap_of_mem member mention)
      simp only [replace_object found, map_eq_ok_iff, substitutes_object_iff found, replaceMembers_eq_ok_iff_zip, each]
      exact exists_congr fun ws => and_comm.trans (and_congr_left' eq_comm)
  | array xs ih =>
    rw [mentioned_array] at expanded
    have each (ys : List Json) :
        (∀ p ∈ xs.zip ys, replace e p.1 = .ok p.2) ↔ ∀ p ∈ xs.zip ys, Substitutes doc p.1 p.2 := by
      refine forall₂_congr fun p both => ?_
      have element := (List.of_mem_zip both).1
      exact ih p.1 element fun r mention => expanded r (List.mem_flatMap_of_mem element mention)
    simp only [replace, map_eq_ok_iff, substitutes_array_iff, replaceList_eq_ok_iff_zip, each]
    exact exists_congr fun ys => and_comm.trans (and_congr_left' eq_comm)
  | _ =>
    rw [substitutes_leaf_iff ⟨rfl, rfl⟩]
    simp [replace, eq_comm]

theorem Chain.extend {rs : List String} {r' : String} (chain : Chain doc v (rs ++ [r])) (next : LeadsTo doc r r') :
    Chain doc v (rs ++ [r] ++ [r']) := by
  obtain ⟨start, linked⟩ := chain
  constructor
  · rwa [List.head?_append_of_ne_nil _ (by simp)]
  · refine List.isChain_append.mpr ⟨linked, List.isChain_singleton r', ?_⟩
    simpa using next

theorem Visits.on_chain (visit : Visits doc stack v r) : ∃ rs, Chain doc v rs ∧ r ∈ rs := by
  induction visit with
  | @here _ _ r mention =>
    exact ⟨[r], ⟨by simpa using mention, List.isChain_singleton r⟩, List.mem_singleton_self r⟩
  | @under _ _ target r _ mention _ _ there _ ih =>
    obtain ⟨rs, ⟨start, linked⟩, member⟩ := ih
    refine ⟨r :: rs, ⟨by simpa using mention, ?_⟩, List.mem_cons_of_mem r member⟩
    exact List.isChain_cons.mpr ⟨fun r' first => ⟨target, there, start r' first⟩, linked⟩

theorem expanded_eq_ok_iff_substitutes {root : Json} (shallow : Shallow doc root)
    (within : ∀ r ∈ mentioned v, Chain doc root (stack.reverse ++ [r])) :
    replace (expand doc place (room stack) stack) v = .ok w ↔ Substitutes doc v w := by
  induction left : room stack generalizing stack v w with
  | zero =>
    refine replace_eq_ok_iff_substitutes fun r mention => ?_
    have short := shallow.short _ (within r mention)
    simp only [room, List.length_append, List.length_reverse, List.length_singleton] at left short
    omega
  | succ n ih =>
    rw [← left]
    refine replace_eq_ok_iff_substitutes fun r mention u => ?_
    have chain := within r mention
    have new : r ∉ stack := by
      have unrepeated := shallow.acyclic _ chain
      simp only [List.nodup_append, List.mem_reverse, List.mem_singleton] at unrepeated
      exact fun again => unrepeated.2.2 r again r rfl rfl
    have deep : stack.length < deepest := by
      simp only [room] at left
      omega
    have below := room_cons r left
    rw [expand_enter new deep]
    refine bind_eq_ok_iff.trans (exists_congr fun target => ?_)
    rw [lookup_eq_ok_iff]
    refine and_congr_right fun there => ?_
    rw [below]
    refine ih (fun r' mention' => ?_) below
    rw [List.reverse_cons]
    exact chain.extend ⟨target, there, mention'⟩

end

theorem inline_eq (doc : Json) (place : String) (v : Json) :
    inline doc place v = replace (expand doc place (room []) []) v := rfl

/-- Inlining ends with the stack it began with, and fails where a reference that is looked up leads nowhere. What it comes
to is free of references if all of them lead to objects, and where nothing has to be cut it is the whole substitution. -/
theorem inline_correct (doc : Json) (place : String) (v : Json) :
    (∀ stack result after, Walk doc place stack v result after ↔
      result = replace (expand doc place (room stack) stack) v ∧ after = stack) ∧
    Walk doc place [] v (inline doc place v) [] ∧
    (∀ fault, inline doc place v = .error fault → ∃ r, Visits doc [] v r ∧ Lost doc place r fault) ∧
    ((∃ w, inline doc place v = .ok w) ↔ ∀ r, Visits doc [] v r → ∃ target, target? doc r = some target) ∧
    ((∀ r, Visits doc [] v r → ∃ target, target? doc r = some target ∧ target.isObject = true) →
      ∀ w, inline doc place v = .ok w → (v.isObject = true → w.isObject = true) ∧ Resolved w) ∧
    (Shallow doc v → ∀ w, inline doc place v = .ok w ↔ Substitutes doc v w) := by
  rw [inline_eq]
  refine ⟨fun stack result after => walk_iff, walk_iff.mpr ⟨rfl, rfl⟩, ?_, ?_, ?_, ?_⟩
  · intro fault failed
    obtain ⟨r, visit, missing⟩ := visits_of_replace_eq_error failed
    exact ⟨r, visit, lookup_eq_error_iff.mp missing⟩
  · constructor
    · rintro ⟨w, done⟩ r visit
      exact found_of_visits visit done
    · intro found
      cases result : replace (expand doc place (room []) []) v with
      | ok w => exact ⟨w, rfl⟩
      | error fault =>
        obtain ⟨r, visit, missing⟩ := visits_of_replace_eq_error result
        obtain ⟨target, there⟩ := found r visit
        rw [lookup_eq_ok_iff.mpr there] at missing
        cases missing
  · intro objects w done
    exact expanded_resolved objects done
  · intro shallow w
    refine expanded_eq_ok_iff_substitutes shallow fun r mention => ?_
    exact ⟨by simpa using mention, List.isChain_singleton r⟩

def pair : Json :=
  .object [("a", .object [("type", .string "integer")]),
    ("b", .object [("x", .object [("$ref", .string "#/a")]), ("y", .object [("$ref", .string "#/a")])])]

def toPair : Json := .object [("$ref", .string "#/b")]

def integers : Json :=
  .object [("x", .object [("type", .string "integer")]), ("y", .object [("type", .string "integer")])]

theorem pair_chains {rs : List String} (chain : Chain pair toPair rs) :
    rs = [] ∨ rs = ["#/b"] ∨ rs = ["#/b", "#/a"] := by
  have fromB (r : String) (next : LeadsTo pair "#/b" r) : r = "#/a" := by
    obtain ⟨target, there, mention⟩ := next
    obtain rfl := Option.some.inj there
    simpa [mentioned, mentionedMembers, reference?, Json.get?, Json.object?, Json.string?, NameMap.get?_cons]
      using mention
  have fromA (r : String) : ¬ LeadsTo pair "#/a" r := by
    rintro ⟨target, there, mention⟩
    obtain rfl := Option.some.inj there
    simp [mentioned, mentionedMembers, reference?, Json.get?, Json.object?, NameMap.get?_cons] at mention
  obtain ⟨start, linked⟩ := chain
  rcases rs with - | ⟨r, rest⟩
  · exact .inl rfl
  obtain rfl : r = "#/b" := List.mem_singleton.mp (start r rfl)
  rcases rest with - | ⟨r', rest⟩
  · exact .inr (.inl rfl)
  obtain ⟨next, linked⟩ := List.isChain_cons_cons.mp linked
  obtain rfl := fromB r' next
  rcases rest with - | ⟨r'', rest⟩
  · exact .inr (.inr rfl)
  · exact absurd (List.isChain_cons_cons.mp linked).1 (fromA r'')

theorem pair_shallow : Shallow pair toPair where
  acyclic := by
    intro rs chain
    rcases pair_chains chain with rfl | rfl | rfl <;> decide
  short := by
    intro rs chain
    rcases pair_chains chain with rfl | rfl | rfl <;> decide

theorem pair_objects {r : String} (visit : Visits pair [] toPair r) :
    ∃ target, target? pair r = some target ∧ target.isObject = true := by
  obtain ⟨rs, chain, member⟩ := visit.on_chain
  rcases pair_chains chain with rfl | rfl | rfl
  · cases member
  · obtain rfl := List.mem_singleton.mp member
    exact ⟨_, rfl, rfl⟩
  · rcases List.mem_pair.mp member with rfl | rfl <;> exact ⟨_, rfl, rfl⟩

theorem inline_pair_correct :
    Shallow pair toPair ∧
    (∀ r, Visits pair [] toPair r → ∃ target, target? pair r = some target ∧ target.isObject = true) ∧
    inline pair "/pairs" toPair = .ok integers ∧ Resolved integers ∧ Substitutes pair toPair integers := by
  have done : inline pair "/pairs" toPair = .ok integers := by rfl
  obtain ⟨-, -, -, -, resolved, substitutes⟩ := inline_correct pair "/pairs" toPair
  obtain ⟨-, plain⟩ := resolved (fun r => pair_objects) integers done
  exact ⟨pair_shallow, fun r => pair_objects, done, plain, (substitutes pair_shallow integers).mp done⟩

end SchemaProbe.Reference
