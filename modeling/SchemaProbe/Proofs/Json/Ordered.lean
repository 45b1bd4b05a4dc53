import SchemaProbe.Json.Pointer
import SchemaProbe.Proofs.NameMap

set_option autoImplicit false

namespace SchemaProbe

@[elab_as_elim] theorem Json.inductionOn {motive : Json → Prop} (v : Json) (null : motive .null)
    (bool : ∀ b, motive (.bool b)) (number : ∀ n, motive (.number n)) (string : ∀ s, motive (.string s))
    (array : ∀ xs, (∀ x ∈ xs, motive x) → motive (.array xs))
    (object : ∀ ms, (∀ m ∈ ms, motive m.2) → motive (.object ms)) : motive v :=
  @Json.rec motive (fun xs => ∀ x ∈ xs, motive x) (fun ms => ∀ m ∈ ms, motive m.2) (fun m => motive m.2)
    null bool number string array object
    (by simp) (fun _ _ first rest => List.forall_mem_cons.mpr ⟨first, rest⟩)
    (by simp) (fun _ _ first rest => List.forall_mem_cons.mpr ⟨first, rest⟩)
    (fun _ _ value => value) v

inductive Json.Child : Json → Json → Prop where
  | element {x : Json} {xs : List Json} (member : x ∈ xs) : Child x (.array xs)
  | member {m : String × Json} {ms : Members} (member : m ∈ ms) : Child m.2 (.object ms)

theorem Json.child_wf : WellFounded Json.Child := by
  refine ⟨fun v => ?_⟩
  induction v using Json.inductionOn with
  | array xs ih => exact ⟨_, fun | _, .element member => ih _ member⟩
  | object ms ih => exact ⟨_, fun | _, .member member => ih _ member⟩
  | _ => exact ⟨_, fun _ child => nomatch child⟩

theorem Json.inductionBelow {motive : Json → Prop} (v : Json)
    (step : ∀ v, (∀ w, Relation.TransGen Json.Child w v → motive w) → motive v) : motive v :=
  Json.child_wf.transGen.induction v step

inductive Json.Ordered : Json → Prop where
  | null : Ordered .null
  | bool (b : Bool) : Ordered (.bool b)
  | number (n : Number) : Ordered (.number n)
  | string (s : String) : Ordered (.string s)
  | array {xs : List Json} (each : ∀ x ∈ xs, Ordered x) : Ordered (.array xs)
  | object {ms : Members} (sorted : NameMap.Sorted ms) (each : ∀ m ∈ ms, Ordered m.2) : Ordered (.object ms)

structure Members.Ordered (ms : Members) : Prop where
  sorted : NameMap.Sorted ms
  each : ∀ m ∈ ms, m.2.Ordered

theorem Members.ordered_iff {ms : Members} :
    Members.Ordered ms ↔ NameMap.Sorted ms ∧ ∀ m ∈ ms, m.2.Ordered :=
  ⟨fun h => ⟨h.sorted, h.each⟩, fun h => ⟨h.1, h.2⟩⟩

namespace Json

attribute [simp] Ordered.null Ordered.bool Ordered.number Ordered.string

@[simp] theorem ordered_array_iff {xs : List Json} : (Json.array xs).Ordered ↔ ∀ x ∈ xs, x.Ordered :=
  ⟨fun | .array each => each, .array⟩

@[simp] theorem ordered_object_iff {ms : Members} : (Json.object ms).Ordered ↔ Members.Ordered ms :=
  ⟨fun | .object sorted each => ⟨sorted, each⟩, fun h => .object h.sorted h.each⟩

theorem Ordered.of_child {v w : Json} (ordered : v.Ordered) (child : Child w v) : w.Ordered := by
  cases child with
  | element member => exact ordered_array_iff.mp ordered _ member
  | member member => exact (ordered_object_iff.mp ordered).each _ member

theorem Ordered.object? {v : Json} (ordered : v.Ordered) {ms : Members} (found : v.object? = some ms) :
    Members.Ordered ms := by
  cases v <;> simp_all [Json.object?]

theorem Ordered.array? {v : Json} (ordered : v.Ordered) {xs : List Json} (found : v.array? = some xs) :
    ∀ x ∈ xs, x.Ordered := by
  cases v <;> simp_all [Json.array?]

end Json

namespace Members.Ordered

theorem get? {ms : Members} (ordered : Ordered ms) {name : String} {v : Json}
    (found : NameMap.get? ms name = some v) : v.Ordered :=
  ordered.each (name, v) (NameMap.mem_of_get? found)

theorem arrayAt {ms : Members} (ordered : Ordered ms) {name : String} {xs : List Json}
    (found : (NameMap.get? ms name).bind Json.array? = some xs) : ∀ x ∈ xs, x.Ordered := by
  obtain ⟨v, member, isArray⟩ := Option.bind_eq_some_iff.mp found
  exact (ordered.get? member).array? isArray

theorem objectAt {ms inner : Members} (ordered : Ordered ms) {name : String}
    (found : (NameMap.get? ms name).bind Json.object? = some inner) : Ordered inner := by
  obtain ⟨v, member, isObject⟩ := Option.bind_eq_some_iff.mp found
  exact (ordered.get? member).object? isObject

theorem nil : Ordered [] := ⟨NameMap.Sorted.nil, by simp⟩

theorem insert {ms : Members} (ordered : Ordered ms) (name : String) {v : Json} (value : v.Ordered) :
    Ordered (NameMap.insert ms name v) where
  sorted := ordered.sorted.insert name v
  each := by
    intro m member
    rcases NameMap.mem_insert member with rfl | old
    · exact value
    · exact ordered.each m old

theorem filter {ms : Members} (ordered : Ordered ms) (keep : String × Json → Bool) : Ordered (List.filter keep ms) where
  sorted := ordered.sorted.filter keep
  each := fun m member => ordered.each m (List.mem_filter.mp member).1

theorem erase {ms : Members} (ordered : Ordered ms) (name : String) : Ordered (NameMap.erase ms name) :=
  ordered.filter _

theorem singleton (name : String) {v : Json} (value : v.Ordered) : Ordered [(name, v)] where
  sorted := List.pairwise_singleton _ _
  each := by simpa using value

end Members.Ordered

namespace Json

theorem Ordered.get? {v w : Json} (ordered : v.Ordered) {name : String} (found : v.get? name = some w) :
    w.Ordered := by
  obtain ⟨ms, isObject, member⟩ := Option.bind_eq_some_iff.mp found
  exact (ordered.object? isObject).get? member

theorem Ordered.child? {v w : Json} (ordered : v.Ordered) {token : String} (found : v.child? token = some w) :
    w.Ordered := by
  cases ordered with
  | array each =>
    obtain ⟨i, -, element⟩ := Option.bind_eq_some_iff.mp found
    exact each w (List.mem_of_getElem? element)
  | object sorted each => exact Members.Ordered.get? ⟨sorted, each⟩ found
  | _ => simp [Json.child?] at found

theorem Ordered.at? {v w : Json} (ordered : v.Ordered) {pointer : String} (found : v.at? pointer = some w) :
    w.Ordered := by
  have walk (tokens : List String) (start : Option Json) (from? : ∀ x, start = some x → x.Ordered) :
      ∀ x, tokens.foldl (fun acc token => acc.bind fun v => v.child? (String.ofList (unescapeToken token.toList)))
        start = some x → x.Ordered := by
    refine List.foldlRecOn (motive := fun acc : Option Json => ∀ x, acc = some x → x.Ordered) tokens _ from? ?_
    intro acc before token _ x here
    obtain ⟨y, parent, child⟩ := Option.bind_eq_some_iff.mp here
    exact (before y parent).child? child
  unfold Json.at? at found
  split at found
  · simp_all
  · split at found
    · simp at found
    · exact walk _ (some v) (by simpa using ordered) w found

theorem sorted_ordered (v : Json) : v.sorted.Ordered := by
  have elements (xs : List Json) (each : ∀ x ∈ xs, x.sorted.Ordered) : ∀ y ∈ sortedList xs, y.Ordered := by
    induction xs with
    | nil => simp [sortedList]
    | cons x xs ih =>
      obtain ⟨first, rest⟩ := List.forall_mem_cons.mp each
      exact List.forall_mem_cons.mpr ⟨first, ih rest⟩
  have members (ms : List (String × Json)) (each : ∀ m ∈ ms, m.2.sorted.Ordered) :
      ∀ m ∈ sortedMembers ms, m.2.Ordered := by
    induction ms with
    | nil => simp [sortedMembers]
    | cons m ms ih =>
      obtain ⟨first, rest⟩ := List.forall_mem_cons.mp each
      exact List.forall_mem_cons.mpr ⟨first, ih rest⟩
  induction v using Json.inductionOn with
  | array xs each => simpa [sorted] using elements xs each
  | object ms each =>
    rw [sorted, ordered_object_iff]
    exact ⟨NameMap.ofList_sorted _, fun m member => members ms each m (NameMap.mem_ofList member)⟩
  | _ => simp [sorted]

mutual
def isOrdered : Json → Bool
  | array xs => isOrderedList xs
  | object ms => decide (NameMap.Sorted ms) && isOrderedMembers ms
  | _ => true
def isOrderedList : List Json → Bool
  | [] => true
  | x :: xs => isOrdered x && isOrderedList xs
def isOrderedMembers : List (String × Json) → Bool
  | [] => true
  | (_, x) :: ms => isOrdered x && isOrderedMembers ms
end

theorem isOrderedList_eq_all (xs : List Json) : isOrderedList xs = xs.all isOrdered := by
  induction xs with
  | nil => rfl
  | cons x xs ih => rw [isOrderedList, ih, List.all_cons]

theorem isOrderedMembers_eq_all (ms : List (String × Json)) : isOrderedMembers ms = ms.all fun m => m.2.isOrdered := by
  induction ms with
  | nil => rfl
  | cons m ms ih => rw [isOrderedMembers, ih, List.all_cons]

theorem isOrdered_iff (v : Json) : v.isOrdered = true ↔ v.Ordered := by
  induction v using Json.inductionOn with
  | array xs each =>
    rw [isOrdered, isOrderedList_eq_all, List.all_eq_true, ordered_array_iff]
    exact forall₂_congr each
  | object ms each =>
    rw [isOrdered, isOrderedMembers_eq_all, Bool.and_eq_true, decide_eq_true_iff, List.all_eq_true,
      ordered_object_iff, Members.ordered_iff]
    exact and_congr_right' (forall₂_congr each)
  | _ => simp [isOrdered]

instance : DecidablePred Ordered := fun v => decidable_of_iff _ v.isOrdered_iff

end Json

end SchemaProbe
