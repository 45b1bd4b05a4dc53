import SchemaProbe.Proofs.Document.Read

set_option autoImplicit false

namespace SchemaProbe

theorem StatusKey.before_iff (a b : StatusKey) :
    a.before b = true ↔ a.rank.1 < b.rank.1 ∨ (a.rank.1 = b.rank.1 ∧ a.rank.2 < b.rank.2) := by
  simp [before]

theorem StatusKey.before_trans {a b c : StatusKey} (first : a.before b = true) (second : b.before c = true) :
    a.before c = true := by
  rw [before_iff] at *
  omega

theorem StatusKey.before_of_not {a b : StatusKey} (other : a ≠ b) (later : ¬ a.before b = true) :
    b.before a = true := by
  rw [before_iff] at *
  cases a <;> cases b <;> simp_all [rank] <;> omega

namespace ByStatus

variable {α β : Type} {R : α → β → Prop}

def Alike (R : α → β → Prop) (m : ByStatus α) (n : ByStatus β) : Prop :=
  List.Forall₂ (fun a b => a.1 = b.1 ∧ R a.2 b.2) m n

theorem Alike.insert {m : ByStatus α} {n : ByStatus β} (alike : Alike R m n) (k : StatusKey) {v : α} {w : β}
    (related : R v w) : Alike R (insert m k v) (insert n k w) := by
  have entry : k = k ∧ R v w := ⟨rfl, related⟩
  induction alike with
  | nil => exact .cons entry .nil
  | @cons a b m n first rest ih =>
    obtain ⟨l, x⟩ := a
    obtain ⟨l', y⟩ := b
    obtain ⟨rfl, values⟩ := first
    simp only [ByStatus.insert]
    by_cases same : k = l
    · rw [if_pos same, if_pos same]
      exact .cons entry rest
    · rw [if_neg same, if_neg same]
      by_cases earlier : k.before l = true
      · rw [if_pos earlier, if_pos earlier]
        exact .cons entry (.cons ⟨rfl, values⟩ rest)
      · rw [if_neg earlier, if_neg earlier]
        exact .cons ⟨rfl, values⟩ ih

theorem Alike.get? {m : ByStatus α} {n : ByStatus β} (alike : Alike R m n) (k : StatusKey) :
    Option.Rel R (m.get? k) (n.get? k) := by
  induction alike with
  | nil => exact .none
  | @cons a b m n first rest ih =>
    obtain ⟨l, x⟩ := a
    obtain ⟨l', y⟩ := b
    obtain ⟨rfl, values⟩ := first
    simp only [ByStatus.get?, List.lookup_cons]
    cases k == l with
    | true => exact .some values
    | false => exact ih

theorem rel_orElse {x x' : Option α} {y y' : Option β} (first : Option.Rel R x y) (second : Option.Rel R x' y') :
    Option.Rel R (x.orElse fun _ => x') (y.orElse fun _ => y') := by
  cases first with
  | some values => exact .some values
  | none => exact second

theorem Alike.find? {m : ByStatus α} {n : ByStatus β} (alike : Alike R m n) (status : Nat) :
    Option.Rel R (m.find? status) (n.find? status) := by
  refine rel_orElse (alike.get? _) (rel_orElse ?_ (alike.get? _))
  cases StatusKey.class? status with
  | none => exact .none
  | some c => exact alike.get? _

theorem Alike.exists_of_mem {m : ByStatus α} {n : ByStatus β} (alike : Alike R m n) {e : StatusKey × β}
    (member : e ∈ n) : ∃ d ∈ m, d.1 = e.1 ∧ R d.2 e.2 := by
  induction alike with
  | nil => cases member
  | cons first _ ih =>
    rcases List.mem_cons.mp member with rfl | later
    · exact ⟨_, List.mem_cons_self, first⟩
    · obtain ⟨d, within, related⟩ := ih later
      exact ⟨d, List.mem_cons_of_mem _ within, related⟩

theorem mem_of_get? {m : ByStatus α} {k : StatusKey} {v : α} (found : m.get? k = some v) : (k, v) ∈ m := by
  induction m with
  | nil => cases found
  | cons e rest ih =>
    obtain ⟨l, w⟩ := e
    rw [ByStatus.get?, List.lookup_cons] at found
    split at found
    next same =>
      obtain rfl := beq_iff_eq.mp same
      obtain rfl := Option.some.inj found
      exact List.mem_cons_self
    next => exact List.mem_cons_of_mem _ (ih found)

theorem mem_of_find? {m : ByStatus α} {status : Nat} {v : α} (found : m.find? status = some v) :
    ∃ k, (k, v) ∈ m := by
  simp only [ByStatus.find?, Option.orElse_eq_or, Option.or_eq_some_iff] at found
  rcases found with code | ⟨-, range | ⟨-, other⟩⟩
  · exact ⟨_, mem_of_get? code⟩
  · obtain ⟨c, -, range⟩ := Option.bind_eq_some_iff.mp range
    exact ⟨_, mem_of_get? range⟩
  · exact ⟨_, mem_of_get? other⟩

def Sorted (m : ByStatus α) : Prop := m.keys.Pairwise fun k l => k.before l = true

theorem sorted_nil : Sorted ([] : ByStatus α) := List.Pairwise.nil

theorem mem_keys_insert {m : ByStatus α} {k l : StatusKey} {v : α} (member : l ∈ (insert m k v).keys) :
    l = k ∨ l ∈ m.keys := by
  induction m with
  | nil => simpa [ByStatus.insert, keys] using member
  | cons e rest ih =>
    simp only [ByStatus.insert] at member
    split at member
    next => exact (List.mem_cons.mp member).imp_right (List.mem_cons_of_mem _)
    next =>
      split at member
      next => exact List.mem_cons.mp member
      next =>
        rcases List.mem_cons.mp member with rfl | later
        · exact .inr List.mem_cons_self
        · exact (ih later).imp_right (List.mem_cons_of_mem _)

theorem Sorted.insert {m : ByStatus α} (sorted : Sorted m) (k : StatusKey) (v : α) : Sorted (insert m k v) := by
  induction m with
  | nil => exact List.pairwise_singleton _ _
  | cons e rest ih =>
    obtain ⟨first, others⟩ := List.pairwise_cons.mp sorted
    simp only [ByStatus.insert]
    split
    next same => exact List.pairwise_cons.mpr ⟨same ▸ first, others⟩
    next other =>
      split
      next earlier =>
        refine List.pairwise_cons.mpr ⟨fun l member => ?_, sorted⟩
        rcases List.mem_cons.mp member with rfl | later
        · exact earlier
        · exact StatusKey.before_trans earlier (first l later)
      next late =>
        refine List.pairwise_cons.mpr ⟨fun l member => ?_, ih others⟩
        rcases mem_keys_insert member with rfl | later
        · exact StatusKey.before_of_not other late
        · exact first l later

theorem Sorted.nodup {m : ByStatus α} (sorted : Sorted m) : m.keys.Nodup := by
  refine List.Pairwise.imp ?_ sorted
  rintro k _ before rfl
  simp [StatusKey.before_iff] at before

end ByStatus

namespace Document

def definitionsFrom : ByStatus Json → Members → ByStatus Json
  | acc, [] => acc
  | acc, (key, v) :: ms =>
    match StatusKey.parse? key with
    | none => definitionsFrom acc ms
    | some status => definitionsFrom (acc.insert status v) ms

def definitions (op : Json) : ByStatus Json := definitionsFrom [] (((op.get? "responses").bind Json.object?).getD [])

def Describes (s : Source) (produced : List String) (v : Json) (r : Response) : Prop :=
  ∃ place definition, s.follow place v = .ok definition ∧ response s produced place definition = .ok r

theorem responsesFrom_describes {s : Source} {label : String} {produced : List String} {acc rs : ByStatus Response}
    {ms : Members} (read : responsesFrom s label produced acc ms = .ok rs) {defs : ByStatus Json}
    (before : ByStatus.Alike (Describes s produced) defs acc) :
    ByStatus.Alike (Describes s produced) (definitionsFrom defs ms) rs := by
  induction ms generalizing acc defs with
  | nil => cases read; exact before
  | cons m ms ih =>
    obtain ⟨key, v⟩ := m
    rw [responsesFrom] at read
    rw [definitionsFrom]
    cases parsed : StatusKey.parse? key with
    | none => simp [parsed] at read
    | some status =>
      simp only [parsed] at read
      obtain ⟨definition, followed, read⟩ := bind_eq_ok_iff.mp read
      obtain ⟨r, made, read⟩ := bind_eq_ok_iff.mp read
      exact ih read (before.insert status ⟨_, definition, followed, made⟩)

theorem responses_describes {s : Source} {label : String} {op : Json} {rs : ByStatus Response}
    (read : responses s label op = .ok rs) : ByStatus.Alike (Describes s (produces s op)) (definitions op) rs := by
  unfold responses at read
  unfold definitions
  split at read
  next absent => cases read; rw [absent]; exact .nil
  next ms found => rw [found]; exact responsesFrom_describes read .nil
  next => cases read

theorem responses_sorted {s : Source} {label : String} {op : Json} {rs : ByStatus Response}
    (read : responses s label op = .ok rs) : ByStatus.Sorted rs := by
  have from_sorted {produced : List String} {acc : ByStatus Response} {ms : Members} (before : ByStatus.Sorted acc)
      (read : responsesFrom s label produced acc ms = .ok rs) : ByStatus.Sorted rs := by
    induction ms generalizing acc with
    | nil => cases read; exact before
    | cons m ms ih =>
      obtain ⟨key, v⟩ := m
      rw [responsesFrom] at read
      cases parsed : StatusKey.parse? key with
      | none => simp [parsed] at read
      | some status =>
        simp only [parsed] at read
        obtain ⟨definition, -, read⟩ := bind_eq_ok_iff.mp read
        obtain ⟨r, -, read⟩ := bind_eq_ok_iff.mp read
        exact ih (before.insert status r) read
  unfold responses at read
  split at read
  next => cases read; exact ByStatus.sorted_nil
  next => exact from_sorted ByStatus.sorted_nil read
  next => cases read

theorem response_eq_ok {s : Source} {produced : List String} {place : String} {v : Json} {r : Response}
    (read : response s produced place v = .ok r) :
    responseBody s produced place v = .ok (r.contentTypes, r.schema) ∧ checkSchema place r.schema = .ok () ∧
      headers s place v = .ok r.headers := by
  obtain ⟨⟨types, schema⟩, body, read⟩ := bind_eq_ok_iff.mp read
  obtain ⟨_, fine, read⟩ := bind_eq_ok_iff.mp read
  obtain ⟨hs, listed, done⟩ := bind_eq_ok_iff.mp read
  cases done
  exact ⟨body, fine, listed⟩

theorem isSchema_of_checkSchema {place : String} {schema : Option Json} (fine : checkSchema place schema = .ok ())
    {v : Json} (here : schema = some v) : JsonSchema.isSchema v = true := by
  rw [here, checkSchema] at fine
  split at fine
  next usable => simpa using usable
  next => cases fine

theorem header_checked {s : Source} {name place : String} {v : Json} {h : ResponseHeader}
    (read : header s name place v = .ok h) : checkSchema place h.schema = .ok () := by
  unfold header at read
  obtain ⟨schema, -, read⟩ := bind_eq_ok_iff.mp read
  cases schema <;>
    · obtain ⟨type, -, read⟩ := bind_eq_ok_iff.mp read
      obtain ⟨_, fine, done⟩ := bind_eq_ok_iff.mp read
      cases done
      exact fine

theorem headers_checked {s : Source} {place : String} {v : Json} {hs : List ResponseHeader}
    (read : headers s place v = .ok hs) {h : ResponseHeader} (member : h ∈ hs) :
    ∃ here, checkSchema here h.schema = .ok () := by
  obtain ⟨m, -, step⟩ := exists_of_mem_mapM read member
  obtain ⟨w, -, made⟩ := bind_eq_ok_iff.mp step
  exact ⟨_, header_checked made⟩

end Document

end SchemaProbe
