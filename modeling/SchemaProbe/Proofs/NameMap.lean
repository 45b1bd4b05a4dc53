import SchemaProbe.NameMap

set_option autoImplicit false

namespace SchemaProbe.NameMap

variable {α β : Type}

@[simp] theorem get?_nil (name : String) : get? ([] : NameMap α) name = none := rfl

theorem get?_cons (e : String × α) (m : NameMap α) (name : String) :
    get? (e :: m) name = if name = e.1 then some e.2 else get? m name := by
  obtain ⟨k, v⟩ := e
  rw [get?, List.lookup_cons, ← get?]
  by_cases same : name = k
  · simp [same]
  · have differ : (name == k) = false := by simpa using same
    simp [differ, same]

theorem mem_of_get? {m : NameMap α} {name : String} {v : α} (found : get? m name = some v) : (name, v) ∈ m := by
  induction m with
  | nil => simp at found
  | cons e rest ih =>
    rw [get?_cons] at found
    by_cases same : name = e.1
    · obtain ⟨k, w⟩ := e
      simp_all
    · simp only [same, if_false] at found
      exact List.mem_cons_of_mem _ (ih found)

theorem get?_eq_none_iff {m : NameMap α} {name : String} : get? m name = none ↔ ∀ e ∈ m, name ≠ e.1 := by
  induction m with
  | nil => simp
  | cons e rest ih =>
    rw [get?_cons, List.forall_mem_cons]
    by_cases same : name = e.1
    · simp [same]
    · rw [if_neg same, ih]
      exact ⟨fun others => ⟨same, others⟩, And.right⟩

theorem get?_eq_none_of_not_mem {m : NameMap α} {name : String} (fresh : name ∉ names m) : get? m name = none :=
  get?_eq_none_iff.mpr fun e member named => fresh (List.mem_map.mpr ⟨e, member, named.symm⟩)

theorem get?_of_mem {m : NameMap α} (distinct : (names m).Nodup) {e : String × α} (member : e ∈ m) :
    get? m e.1 = some e.2 := by
  induction m with
  | nil => cases member
  | cons first rest ih =>
    obtain ⟨fresh, distinct⟩ := List.nodup_cons.mp distinct
    rw [get?_cons]
    rcases List.mem_cons.mp member with rfl | later
    · exact if_pos rfl
    · have differ : e.1 ≠ first.1 := fun same => fresh (List.mem_map.mpr ⟨e, later, same⟩)
      rw [if_neg differ]
      exact ih distinct later

theorem get?_perm {m m' : NameMap α} (distinct : (names m).Nodup) (reordered : m'.Perm m) (name : String) :
    get? m' name = get? m name := by
  cases found : get? m name with
  | none =>
    rw [get?_eq_none_iff] at found ⊢
    exact fun e member => found e (reordered.mem_iff.mp member)
  | some v =>
    have distinct' : (names m').Nodup := (reordered.map Prod.fst).nodup_iff.mpr distinct
    exact get?_of_mem distinct' (reordered.mem_iff.mpr (mem_of_get? found))

theorem get?_append (m m' : NameMap α) (name : String) : get? (m ++ m') name = (get? m name).or (get? m' name) :=
  List.lookup_append

theorem contains_eq_isSome (m : NameMap α) (name : String) : contains m name = (get? m name).isSome := by
  induction m with
  | nil => rfl
  | cons e rest ih =>
    rw [contains, List.any_cons, ← contains, ih, get?_cons]
    by_cases same : name = e.1
    · simp [same]
    · simp [same, Ne.symm same]

theorem get?_map (f : String → α → β) (m : NameMap α) (name : String) :
    get? (m.map fun e => (e.1, f e.1 e.2)) name = (get? m name).map (f name) := by
  induction m with
  | nil => rfl
  | cons e rest ih =>
    rw [List.map_cons, get?_cons, get?_cons, ih]
    by_cases same : name = e.1 <;> simp [same]

-- A name that keeps its value is looked up to that value, whatever else is dropped.
theorem get?_filterMap {f : String → α → Option β} {m : NameMap α} {name : String}
    (kept : ∀ v, get? m name = some v → (f name v).isSome = true) :
    get? (m.filterMap fun e => (f e.1 e.2).map fun w => (e.1, w)) name = (get? m name).bind (f name) := by
  induction m with
  | nil => rfl
  | cons e rest ih =>
    rw [get?_cons] at kept ⊢
    by_cases same : name = e.1
    · obtain ⟨w, here⟩ := Option.isSome_iff_exists.mp (kept e.2 (if_pos same))
      have step : (f e.1 e.2).map (fun w => (e.1, w)) = some (e.1, w) := by rw [← same, here]; rfl
      rw [List.filterMap_cons, step, get?_cons, if_pos same, if_pos same]
      exact here.symm
    · rw [if_neg same] at kept ⊢
      rw [List.filterMap_cons, ← ih kept]
      cases f e.1 e.2 with
      | none => rfl
      | some w => exact (get?_cons _ _ _).trans (if_neg same)

-- Needs no order: the new entry stands before every other one of its name.
theorem get?_insert (m : NameMap α) (k name : String) (v : α) :
    get? (insert m k v) name = if name = k then some v else get? m name := by
  induction m with
  | nil => simp [insert, get?_cons]
  | cons e rest ih =>
    obtain ⟨l, w⟩ := e
    by_cases same : k = l
    · by_cases wanted : name = l <;> simp [insert, get?_cons, same, wanted]
    · by_cases below : k < l
      · simp [insert, same, below, get?_cons]
      · have step : insert ((l, w) :: rest) k v = (l, w) :: insert rest k v := by simp [insert, same, below]
        rw [step, get?_cons, get?_cons, ih]
        by_cases wanted : name = l
        · have other : l ≠ k := Ne.symm same
          simp [wanted, other]
        · simp [wanted]

theorem contains_cons (e : String × α) (m : NameMap α) (name : String) :
    contains (e :: m) name = (name == e.1 || contains m name) := by
  rw [contains_eq_isSome, contains_eq_isSome, get?_cons]
  by_cases same : name = e.1 <;> simp [same]

theorem contains_insert (m : NameMap α) (k name : String) (v : α) :
    contains (insert m k v) name = (name == k || contains m name) := by
  rw [contains_eq_isSome, contains_eq_isSome, get?_insert]
  by_cases same : name = k <;> simp [same]

theorem get?_filter (m : NameMap α) (name : String) (keep : String → Bool) :
    get? (m.filter fun e => keep e.1) name = if keep name then get? m name else none := by
  induction m with
  | nil => simp
  | cons e rest ih =>
    rw [List.filter_cons]
    by_cases kept : keep e.1 = true
    · rw [if_pos kept, get?_cons, get?_cons, ih]
      by_cases wanted : name = e.1 <;> simp [wanted, kept]
    · rw [if_neg kept, get?_cons, ih]
      by_cases wanted : name = e.1 <;> simp [wanted, kept]

theorem get?_erase (m : NameMap α) (k name : String) :
    get? (erase m k) name = if name = k then none else get? m name := by
  rw [erase, get?_filter m name (· != k)]
  by_cases removed : name = k <;> simp [removed]

theorem mem_insert {m : NameMap α} {k : String} {v : α} {e : String × α} (member : e ∈ insert m k v) :
    e = (k, v) ∨ e ∈ m := by
  induction m with
  | nil => simpa [insert] using member
  | cons entry rest ih =>
    simp only [insert] at member
    split at member
    next same => grind
    next =>
      split at member
      next => simpa using member
      next =>
        rcases List.mem_cons.mp member with rfl | later
        · exact .inr (by simp)
        · exact (ih later).imp_right (List.mem_cons_of_mem _)

def Sorted (m : NameMap α) : Prop := m.Pairwise fun a b => a.1 < b.1

instance (m : NameMap α) : Decidable (Sorted m) := inferInstanceAs (Decidable (List.Pairwise _ _))

theorem Sorted.nil : Sorted ([] : NameMap α) := List.Pairwise.nil

theorem Sorted.insert {m : NameMap α} (sorted : Sorted m) (k : String) (v : α) : Sorted (insert m k v) := by
  induction m with
  | nil => simp [NameMap.insert, Sorted]
  | cons entry rest ih =>
    obtain ⟨above, tail⟩ := List.pairwise_cons.mp sorted
    by_cases same : k = entry.1
    · simpa [NameMap.insert, Sorted, same] using sorted
    · by_cases below : k < entry.1
      · simp only [NameMap.insert, beq_iff_eq, same, if_false, below, if_true]
        refine List.pairwise_cons.mpr ⟨?_, sorted⟩
        intro e member
        rcases List.mem_cons.mp member with rfl | later
        · exact below
        · exact String.lt_trans below (above e later)
      · simp only [NameMap.insert, beq_iff_eq, same, if_false, below]
        refine List.pairwise_cons.mpr ⟨?_, ih tail⟩
        intro e member
        rcases mem_insert member with rfl | old
        · exact Std.lt_of_le_of_ne below (Ne.symm same)
        · exact above e old

theorem Sorted.filter {m : NameMap α} (sorted : Sorted m) (keep : String × α → Bool) :
    Sorted (List.filter keep m) :=
  List.Pairwise.filter keep sorted

theorem Sorted.filterMap {m : NameMap α} (sorted : Sorted m) {f : String × α → Option (String × β)}
    (named : ∀ e w, f e = some w → w.1 = e.1) : Sorted (List.filterMap f m) := by
  refine List.Pairwise.filterMap f ?_ sorted
  intro a b below a' found b' found'
  rwa [named a a' found, named b b' found']

theorem Sorted.foldl_insert {m : NameMap α} (sorted : Sorted m) (entries : List (String × α)) :
    Sorted (entries.foldl (fun m e => NameMap.insert m e.1 e.2) m) :=
  List.foldlRecOn (motive := Sorted) entries _ sorted fun _ before e _ => before.insert e.1 e.2

theorem ofList_sorted (entries : List (String × α)) : Sorted (ofList entries) := Sorted.nil.foldl_insert entries

theorem mem_ofList {entries : List (String × α)} {e : String × α} (member : e ∈ ofList entries) : e ∈ entries := by
  have grown (acc : NameMap α) (within : e ∈ entries.foldl (fun acc e => NameMap.insert acc e.1 e.2) acc) :
      e ∈ acc ∨ e ∈ entries := by
    clear member
    induction entries generalizing acc with
    | nil => exact .inl within
    | cons first rest ih =>
      rcases ih _ within with old | later
      · rcases mem_insert old with rfl | old
        · exact .inr (by simp)
        · exact .inl old
      · exact .inr (List.mem_cons_of_mem _ later)
  simpa using grown [] member

theorem Sorted.names_nodup {m : NameMap α} (sorted : Sorted m) : (names m).Nodup := by
  refine List.Pairwise.map Prod.fst ?_ sorted
  intro a b below same
  exact String.lt_irrefl b.1 (same ▸ below)

theorem Sorted.get?_of_mem {m : NameMap α} (sorted : Sorted m) {e : String × α} (member : e ∈ m) :
    get? m e.1 = some e.2 :=
  NameMap.get?_of_mem sorted.names_nodup member

theorem Sorted.ext {m n : NameMap α} (first : Sorted m) (second : Sorted n)
    (same : ∀ name, get? m name = get? n name) : m = n := by
  have nodup {m : NameMap α} (sorted : Sorted m) : m.Nodup :=
    List.Pairwise.imp (fun {a b} below => by rintro rfl; exact String.lt_irrefl _ below) sorted
  have perm : m.Perm n := (List.perm_ext_iff_of_nodup (nodup first) (nodup second)).mpr fun e => by
    constructor
    · exact fun member => mem_of_get? (same e.1 ▸ first.get?_of_mem member)
    · exact fun member => mem_of_get? ((same e.1).symm ▸ second.get?_of_mem member)
  refine perm.eq_of_pairwise (fun a b _ _ below above => ?_) first second
  exact absurd (String.lt_trans below above) (String.lt_irrefl _)

theorem names_map (m : NameMap α) (f : String → α → β) : names (m.map fun e => (e.1, f e.1 e.2)) = names m := by
  simp [names]

def lastWhere? (p : String × α → Bool) (entries : List (String × α)) : Option α :=
  (entries.filter p).getLast?.map Prod.snd

theorem lastWhere?_cons (p : String × α → Bool) (e : String × α) (entries : List (String × α)) :
    lastWhere? p (e :: entries) = (lastWhere? p entries).or (if p e then some e.2 else none) := by
  rw [lastWhere?, List.filter_cons, lastWhere?]
  cases later : (entries.filter p).getLast? with
  | none =>
    rw [List.getLast?_eq_none_iff.mp later]
    split <;> rfl
  | some last =>
    split <;> simp [List.getLast?_cons, later]

theorem exists_of_lastWhere? {p : String × α → Bool} {entries : List (String × α)} {v : α}
    (last : lastWhere? p entries = some v) : ∃ e ∈ entries, p e = true ∧ e.2 = v := by
  obtain ⟨e, here, rfl⟩ := Option.map_eq_some_iff.mp last
  obtain ⟨member, holds⟩ := List.mem_filter.mp (List.mem_of_getLast? here)
  exact ⟨e, member, holds, rfl⟩

theorem lastWhere?_isSome {p : String × α → Bool} {entries : List (String × α)} {e : String × α}
    (member : e ∈ entries) (holds : p e = true) : (lastWhere? p entries).isSome = true := by
  have kept := List.mem_filter.mpr ⟨member, holds⟩
  simpa [lastWhere?, List.getLast?_isSome] using List.ne_nil_of_mem kept

theorem get?_foldl_insert (m : NameMap α) (entries : List (String × α)) (name : String) :
    get? (entries.foldl (fun m e => insert m e.1 e.2) m) name =
      (lastWhere? (·.1 == name) entries).or (get? m name) := by
  induction entries generalizing m with
  | nil => rfl
  | cons e entries ih =>
    rw [List.foldl_cons, ih, get?_insert, lastWhere?_cons]
    by_cases same : name = e.1
    · simp [same]
    · simp [same, Ne.symm same]

theorem lastWhere?_eq_get? {m : NameMap α} (distinct : (names m).Nodup) (name : String) :
    lastWhere? (·.1 == name) m = get? m name := by
  induction m with
  | nil => rfl
  | cons e m ih =>
    obtain ⟨fresh, distinct⟩ := List.nodup_cons.mp distinct
    rw [lastWhere?_cons, get?_cons, ih distinct]
    by_cases same : name = e.1
    · subst same
      rw [get?_eq_none_of_not_mem fresh]
      simp
    · simp [same, Ne.symm same]

theorem get?_ofList {entries : NameMap α} (distinct : (names entries).Nodup) (name : String) :
    get? (ofList entries) name = get? entries name := by
  rw [ofList, get?_foldl_insert, lastWhere?_eq_get? distinct, get?_nil, Option.or_none]

def given (entries : NameMap (Option α)) : NameMap α := entries.flatMap fun e => (e.2.map (Prod.mk e.1)).toList

theorem given_cons (name : String) (v : Option α) (entries : NameMap (Option α)) :
    given ((name, v) :: entries) = (v.map (Prod.mk name)).toList ++ given entries := rfl

theorem names_given_sublist (entries : NameMap (Option α)) : (names (given entries)).Sublist (names entries) := by
  induction entries with
  | nil => exact List.Sublist.slnil
  | cons e entries ih =>
    obtain ⟨name, v⟩ := e
    cases v with
    | none => exact ih.cons name
    | some v => exact ih.cons_cons name

theorem get?_given {entries : NameMap (Option α)} (distinct : (names entries).Nodup) (name : String) :
    get? (given entries) name = (get? entries name).join := by
  induction entries with
  | nil => rfl
  | cons e entries ih =>
    obtain ⟨key, v⟩ := e
    obtain ⟨fresh, rest⟩ := List.nodup_cons.mp distinct
    rw [get?_cons]
    by_cases same : name = key
    · subst same
      cases v <;> simp [given_cons, get?_cons, ih rest, get?_eq_none_of_not_mem fresh]
    · cases v <;> simp [given_cons, get?_cons, ih rest, same]

theorem Sorted.le_of_getLast? {m : NameMap α} (sorted : Sorted m) {last e : String × α} (here : m.getLast? = some last)
    (member : e ∈ m) : e.1 ≤ last.1 := by
  obtain ⟨others, rfl⟩ := List.getLast?_eq_some_iff.mp here
  obtain ⟨-, -, below⟩ := List.pairwise_append.mp sorted
  rcases List.mem_append.mp member with other | same
  · exact Std.le_of_lt (below e other last List.mem_cons_self)
  · obtain rfl := List.mem_singleton.mp same
    exact Std.le_refl _

theorem Sorted.lastWhere?_eq_some_iff {m : NameMap α} (sorted : Sorted m) {p : String × α → Bool} {v : α} :
    lastWhere? p m = some v ↔ ∃ k, get? m k = some v ∧ p (k, v) = true ∧
      ∀ k' v', get? m k' = some v' → p (k', v') = true → k' ≤ k := by
  have greatest {w : α} (last : lastWhere? p m = some w) : ∃ k, get? m k = some w ∧ p (k, w) = true ∧
      ∀ k' v', get? m k' = some v' → p (k', v') = true → k' ≤ k := by
    obtain ⟨e, here, rfl⟩ := Option.map_eq_some_iff.mp last
    obtain ⟨member, holds⟩ := List.mem_filter.mp (List.mem_of_getLast? here)
    refine ⟨e.1, sorted.get?_of_mem member, holds, fun k' v' found holds' => ?_⟩
    exact (sorted.filter p).le_of_getLast? here (List.mem_filter.mpr ⟨mem_of_get? found, holds'⟩)
  constructor
  · exact greatest
  · rintro ⟨k, found, holds, above⟩
    obtain ⟨w, last⟩ := Option.isSome_iff_exists.mp (lastWhere?_isSome (mem_of_get? found) holds)
    obtain ⟨l, found', holds', above'⟩ := greatest last
    obtain rfl : k = l := Std.le_antisymm (above' k v found holds) (above l w found' holds')
    rw [last, ← found', found]

end SchemaProbe.NameMap
