import SchemaProbe.Proofs.Draw
import SchemaProbe.Proofs.ValueType.Basic
import SchemaProbe.ValueType.Fill

set_option autoImplicit false

namespace SchemaProbe

def ValueType.isScalar : ValueType → Bool
  | text .. | integer .. | number .. | boolean .. => true
  | _ => false

namespace Sample

open ValueType

theorem accepted_of_mem_acceptedOnce {t : ValueType} {proposals : List Json} {v : Json}
    (member : v ∈ acceptedOnce t proposals) : t.accepts v = true ∧ v ∈ proposals := by
  have kept : ∀ w ∈ acceptedOnce t proposals, t.accepts w = true ∧ w ∈ proposals := by
    refine List.foldlRecOn (motive := fun acc => ∀ w ∈ acc, t.accepts w = true ∧ w ∈ proposals) proposals _
      (by simp) ?_
    intro acc before proposal _
    split
    next new =>
      intro w within
      rcases List.mem_append.mp within with old | last
      · exact before w old
      · simp_all
    next => exact before
  exact kept v member

theorem head?_acceptedOnce (t : ValueType) (proposals : List Json) :
    (acceptedOnce t proposals).head? = proposals.find? t.accepts := by
  -- Nothing is put before what is kept already.
  suffices kept : ∀ acc : List Json,
      (proposals.foldl (fun acc v => if t.accepts v && !acc.contains v then acc ++ [v] else acc) acc).head? =
        acc.head?.or (proposals.find? t.accepts) from kept []
  induction proposals with
  | nil => simp
  | cons w rest ih =>
    intro acc
    rw [List.foldl_cons, ih, List.find?_cons]
    cases accepted : t.accepts w with
    | false => simp
    | true =>
      cases acc with
      | nil => simp
      | cons v acc => by_cases again : (v :: acc).contains w = true <;> simp [again]

theorem acceptedOnce_ne_nil {t : ValueType} {proposals : List Json} {v : Json} (member : v ∈ proposals)
    (accepted : t.accepts v = true) : acceptedOnce t proposals ≠ [] := by
  rw [ne_eq, ← List.head?_eq_none_iff, head?_acceptedOnce, List.find?_eq_none]
  exact fun refused => refused v member accepted

theorem accepts_of_mem_representativesAt {t : ValueType} {room : Nat} {v : Json}
    (member : v ∈ representativesAt t room) : t.accepts v = true := by
  cases room with
  | zero => cases t <;> simp [representativesAt] at member
  | succ room => cases t <;> exact (accepted_of_mem_acceptedOnce member).1

theorem head_or_later {t : ValueType} {v : Json} (member : v ∈ representatives t) :
    (representatives t).head? = some v ∨ v ∈ (representatives t).drop 1 := by
  cases all : representatives t with
  | nil => simp [all] at member
  | cons w rest =>
    rw [all] at member
    exact (List.mem_cons.mp member).imp (fun same => congrArg some same.symm) id

-- The value that a fixed fill takes for a type: nested objects are filled alike, and other types give their first
-- representative.
def fixedWithin (t : ValueType) (f : Fill) (room : Nat) : Option Json :=
  match t with
  | .object _ nested => (fixedMembers nested f (room - 1)).map Json.object
  | t => (representativesAt t room).head?

theorem fixed_plain {t : ValueType} (plain : ∀ n ps, t ≠ .object n ps) (f : Fill) :
    fixed t f = (representatives t).head? := by
  cases t with
  | object n ps => exact absurd rfl (plain n ps)
  | _ => rfl

theorem fixed_eq_fixedWithin (t : ValueType) (f : Fill) : fixed t f = fixedWithin t f (deepest + 1) := by
  cases t <;> rfl

theorem fixedMembers_cons (p : Property ValueType) (ps : List (Property ValueType)) (f : Fill) (room : Nat) :
    fixedMembers (p :: ps) f room =
      if !p.required && f == .minimal then fixedMembers ps f room
      else match fixedWithin p.type f room with
        | some v => (fixedMembers ps f room).map fun ms => NameMap.insert ms p.name v
        | none => if p.required then none else fixedMembers ps f room := by
  obtain ⟨name, required, type⟩ := p
  cases type <;> rfl

theorem fixedWithin_scalar {t : ValueType} (scalar : t.isScalar = true) {f : Fill} {room : Nat} :
    fixedWithin t f (room + 1) = (representatives t).head? := by
  cases t with
  | text | integer | number | boolean => rfl
  | array | object | any => cases scalar

-- The second part keeps the first: a later property finds no member of its name.
structure MembersFor (ps : List (Property ValueType)) (ms : Members) : Prop where
  admitted : ∀ p ∈ ps, Admits p ms
  named : ∀ m ∈ ms, m.1 ∈ ps.map Property.name

section
variable {p : Property ValueType} {ps : List (Property ValueType)} {ms : Members}

theorem MembersFor.leaveOut (rest : MembersFor ps ms) (fresh : p.name ∉ ps.map Property.name)
    (optional : p.required = false) : MembersFor (p :: ps) ms := by
  have absent : ∀ m ∈ ms, p.name ≠ m.1 := by
    intro m member same
    exact fresh (same ▸ rest.named m member)
  have missing : NameMap.get? ms p.name = none := NameMap.get?_eq_none_iff.mpr absent
  refine ⟨List.forall_mem_cons.mpr ⟨?_, rest.admitted⟩, ?_⟩
  · simp [Admits, missing, optional]
  · intro m member
    exact List.mem_cons_of_mem _ (rest.named m member)

theorem MembersFor.give (rest : MembersFor ps ms) (fresh : p.name ∉ ps.map Property.name) {v : Json}
    (accepted : p.type.accepts v = true) : MembersFor (p :: ps) (NameMap.insert ms p.name v) := by
  refine ⟨List.forall_mem_cons.mpr ⟨?_, ?_⟩, ?_⟩
  · simpa [Admits, NameMap.get?_insert] using accepted
  · intro q member
    refine (rest.admitted q member).insert fun same => absurd ?_ fresh
    exact same ▸ List.mem_map_of_mem member
  · intro m member
    rcases NameMap.mem_insert member with rfl | old
    · exact List.mem_cons_self
    · exact List.mem_cons_of_mem _ (rest.named m old)

end

theorem fixedMembers_membersFor {f : Fill} {room : Nat} {ps : List (Property ValueType)} {ms : Members}
    (names : (ps.map Property.name).Nodup)
    (each : ∀ p ∈ ps, ∀ v, fixedWithin p.type f room = some v → p.type.accepts v = true)
    (filled : fixedMembers ps f room = some ms) : MembersFor ps ms := by
  induction ps generalizing ms with
  | nil =>
    cases filled
    exact ⟨by simp, by simp⟩
  | cons p ps ih =>
    obtain ⟨fresh, names⟩ := List.nodup_cons.mp names
    obtain ⟨first, each⟩ := List.forall_mem_cons.mp each
    rw [fixedMembers_cons] at filled
    split at filled
    next skipped => exact (ih names each filled).leaveOut fresh (by simp_all)
    next =>
      split at filled
      next v value =>
        obtain ⟨rest, restFilled, rfl⟩ := Option.map_eq_some_iff.mp filled
        exact (ih names each restFilled).give fresh (first v value)
      next =>
        -- No value for a required property is no object at all.
        split at filled
        next => simp at filled
        next optional => exact (ih names each filled).leaveOut fresh (by simpa using optional)

theorem get?_fixedMembers {f : Fill} {room : Nat} {ps : List (Property ValueType)} {ms : Members}
    (names : (ps.map Property.name).Nodup) (filled : fixedMembers ps f room = some ms) {q : Property ValueType}
    (within : q ∈ ps) (wanted : q.required = true ∨ f = .full) {v : Json} (value : fixedWithin q.type f room = some v) :
    NameMap.get? ms q.name = some v := by
  induction ps generalizing ms with
  | nil => cases within
  | cons p ps ih =>
    obtain ⟨fresh, names⟩ := List.nodup_cons.mp names
    rw [fixedMembers_cons] at filled
    rcases List.mem_cons.mp within with rfl | later
    · have given : (!q.required && f == .minimal) = false := by
        rcases wanted with required | rfl
        · simp [required]
        · simp
      rw [given, value] at filled
      obtain ⟨rest, -, rfl⟩ := Option.map_eq_some_iff.mp filled
      simp [NameMap.get?_insert]
    · have other : q.name ≠ p.name := fun same => fresh (same ▸ List.mem_map_of_mem later)
      split at filled
      next => exact ih names filled later
      next =>
        split at filled
        next =>
          obtain ⟨rest, restFilled, rfl⟩ := Option.map_eq_some_iff.mp filled
          simpa [NameMap.get?_insert, other] using ih names restFilled later
        next =>
          split at filled
          next => cases filled
          next => exact ih names filled later

theorem accepts_of_fixedWithin {t : ValueType} (distinct : t.NamesDistinct) (f : Fill) (room : Nat) {v : Json}
    (filled : fixedWithin t f room = some v) : t.accepts v = true := by
  induction t using ValueType.inductionOn generalizing room v with
  | object n ps ih =>
    cases distinct with | object names each =>
    obtain ⟨ms, members, rfl⟩ := Option.map_eq_some_iff.mp filled
    have parts := fixedMembers_membersFor names
      (fun p member w value => ih p member (each p member) (room - 1) value) members
    exact (accepts_members n ps ms).mpr parts.admitted
  | _ => exact accepts_of_mem_representativesAt (List.mem_of_head? filled)

theorem accepts_of_fixed {t : ValueType} (distinct : t.NamesDistinct) {f : Fill} {v : Json}
    (filled : fixed t f = some v) : t.accepts v = true := by
  rw [fixed_eq_fixedWithin] at filled
  exact accepts_of_fixedWithin distinct f _ filled

theorem fixedWithin_full {t : ValueType} {room : Nat} (minimal : (fixedWithin t .minimal room).isSome = true) :
    (fixedWithin t .full room).isSome = true := by
  have members (ps : List (Property ValueType)) (room : Nat)
      (each : ∀ p ∈ ps, (fixedWithin p.type .minimal room).isSome = true →
        (fixedWithin p.type .full room).isSome = true)
      (filled : (fixedMembers ps .minimal room).isSome = true) : (fixedMembers ps .full room).isSome = true := by
    induction ps with
    | nil => rfl
    | cons p ps ih =>
      obtain ⟨first, each⟩ := List.forall_mem_cons.mp each
      rw [fixedMembers_cons] at filled ⊢
      cases required : p.required with
      -- An optional property without a value is left out of the full object as well.
      | false =>
        have rest := ih each (by simpa [required] using filled)
        cases value : fixedWithin p.type .full room <;> simpa [required, value] using rest
      | true =>
        cases minimal : fixedWithin p.type .minimal room with
        | none => simp [required, minimal] at filled
        | some v =>
          have rest := ih each (by simpa [required, minimal] using filled)
          obtain ⟨w, value⟩ := Option.isSome_iff_exists.mp (first (by simp [minimal]))
          simpa [required, value] using rest
  induction t using ValueType.inductionOn generalizing room with
  | object n ps ih =>
    simp only [fixedWithin, Option.isSome_map] at minimal ⊢
    exact members ps _ (fun p member => ih p member) minimal
  | _ => exact minimal

theorem fixed_full_isSome {t : ValueType} (minimal : (fixed t .minimal).isSome = true) :
    (fixed t .full).isSome = true := by
  rw [fixed_eq_fixedWithin] at minimal ⊢
  exact fixedWithin_full minimal

open Draw

theorem retry_yields {t : ValueType} {room : Nat} {once : Draw (Option Json)} {P : Json → Prop}
    (last : ∀ v ∈ representativesAt t room, P v)
    (proposed : once.Yields fun r => ∀ v, r = some v → t.accepts v = true → P v) (tries : Nat) :
    (retry t room once tries).Yields fun r => ∀ v, r = some v → P v := by
  induction tries with
  | zero =>
    -- The last resort is a representative, and these were filtered before.
    intro s r s' done v chosen
    exact last v (yields_choose _ s r s' done v chosen)
  | succ n ih =>
    refine proposed.bind fun proposal fits => ?_
    cases proposal with
    | none => exact ih
    | some w =>
      cases accepted : t.accepts w with
      | true =>
        simp only [accepted, if_true]
        exact yields_pure (by simpa using fits w rfl accepted)
      | false => simpa [accepted] using ih

theorem retry_yields_some {t : ValueType} {room : Nat} (representable : representativesAt t room ≠ [])
    (once : Draw (Option Json)) (tries : Nat) : (retry t room once tries).Yields fun r => ∃ v, r = some v := by
  induction tries with
  | zero => exact (yields_choose_some representable).mono fun r ⟨v, _, same⟩ => ⟨v, same⟩
  | succ n ih =>
    refine Yields.after fun proposal => ?_
    cases proposal with
    | none => exact ih
    | some w =>
      cases accepted : t.accepts w with
      | true =>
        simp only [accepted, if_true]
        exact yields_pure ⟨w, rfl⟩
      | false => simpa [accepted] using ih

theorem fill_random_yields_some {t : ValueType} (representable : representatives t ≠ []) :
    (fill t .random).Yields fun r => ∃ v, r = some v :=
  retry_yields_some representable _ _

theorem fill_random_accepted (t : ValueType) :
    (fill t .random).Yields fun r => ∀ v, r = some v → t.accepts v = true :=
  retry_yields (fun _ => accepts_of_mem_representativesAt) (fun _ _ _ _ _ _ => id) _

theorem fill_accepted {t : ValueType} (distinct : t.NamesDistinct) (f : Fill) :
    (fill t f).Yields fun r => ∀ v, r = some v → t.accepts v = true := by
  cases f with
  | random => exact fill_random_accepted t
  | minimal | full => exact yields_pure fun v filled => accepts_of_fixed distinct filled

theorem proposeMembers_cons (p : Property ValueType) (ps : List (Property ValueType)) (room : Nat) (acc : Members) :
    proposeMembers (p :: ps) room acc =
      (if p.required then pure true else coin) >>= fun wanted =>
        if wanted then retryWithin p.type room (propose p.type room) >>= fun
          | some v => proposeMembers ps room (NameMap.insert acc p.name v)
          | none => if p.required then pure none else proposeMembers ps room acc
        else proposeMembers ps room acc := by
  obtain ⟨name, required, type⟩ := p
  rw [proposeMembers]
  cases required <;> exact congrArg (_ >>= ·) (turned _ _)

theorem proposeMembers_named {ps : List (Property ValueType)} {room : Nat} {acc : Members} :
    (proposeMembers ps room acc).Yields fun r => ∀ ms, r = some ms →
      ∀ m ∈ ms, m.1 ∈ ps.map Property.name ∨ m ∈ acc := by
  induction ps generalizing acc with
  | nil => exact yields_pure (by simp)
  | cons p ps ih =>
    have skipped : (proposeMembers ps room acc).Yields fun r => ∀ ms, r = some ms →
        ∀ m ∈ ms, m.1 ∈ (p :: ps).map Property.name ∨ m ∈ acc :=
      ih.mono fun r named ms same m member => (named ms same m member).imp_left (List.mem_cons_of_mem _)
    have given (v : Json) : (proposeMembers ps room (NameMap.insert acc p.name v)).Yields fun r => ∀ ms, r = some ms →
        ∀ m ∈ ms, m.1 ∈ (p :: ps).map Property.name ∨ m ∈ acc := by
      refine ih.mono fun r named ms same m member => ?_
      rcases named ms same m member with later | inserted
      · exact .inl (List.mem_cons_of_mem _ later)
      · rcases NameMap.mem_insert inserted with rfl | old
        · exact .inl List.mem_cons_self
        · exact .inr old
    rw [proposeMembers_cons]
    refine Yields.after fun wanted => ?_
    split
    next =>
      refine Yields.after fun value => ?_
      cases value with
      | some v => exact given v
      | none =>
        dsimp only
        split
        next => exact yields_pure (by simp)
        next => exact skipped
    next => exact skipped

theorem fill_named {n : Bool} {ps : List (Property ValueType)} (distinct : (object n ps).NamesDistinct) (f : Fill) :
    (fill (.object n ps) f).Yields fun r => ∀ ms, r = some (.object ms) → ∀ m ∈ ms, m.1 ∈ ps.map Property.name := by
  have fixedFill {f : Fill} {room : Nat} {ms : Members} (filled : fixedMembers ps f room = some ms) :
      ∀ m ∈ ms, m.1 ∈ ps.map Property.name := by
    cases distinct with | object names each =>
    exact (fixedMembers_membersFor names (fun p member _ => accepts_of_fixedWithin (each p member) f room) filled).named
  cases f with
  | minimal | full =>
    refine yields_pure fun ms filled => ?_
    obtain ⟨own, members, same⟩ := Option.map_eq_some_iff.mp filled
    cases same
    exact fixedFill members
  | random =>
    have kept : (fill (.object n ps) .random).Yields fun r => ∀ v, r = some v →
        ∀ ms, v = .object ms → ∀ m ∈ ms, m.1 ∈ ps.map Property.name := by
      refine retry_yields (fun v member => ?_) ?_ _
      · -- A representative is a minimal or a full object.
        rintro ms rfl
        have proposal := (accepted_of_mem_acceptedOnce member).2
        simp only [List.mem_append, List.mem_map, Option.mem_toList] at proposal
        rcases proposal with ⟨own, members, same⟩ | ⟨own, members, same⟩ <;> cases same <;> exact fixedFill members
      · rw [propose]
        refine proposeMembers_named.bind fun r named => yields_pure ?_
        rintro v filled - ms rfl m member
        obtain ⟨own, rfl, same⟩ := Option.map_eq_some_iff.mp filled
        cases same
        simpa using named _ rfl m member
    exact kept.mono fun r named ms same => named _ same ms rfl

end Sample

end SchemaProbe
