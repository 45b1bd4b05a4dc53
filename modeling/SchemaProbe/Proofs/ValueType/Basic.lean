import Mathlib.Data.List.Nodup
import SchemaProbe.Proofs.NameMap
import SchemaProbe.ValueType.Basic

set_option autoImplicit false

namespace SchemaProbe

@[elab_as_elim] theorem ValueType.inductionOn {motive : ValueType → Prop} (t : ValueType)
    (text : ∀ n r, motive (.text n r)) (integer : ∀ n r, motive (.integer n r))
    (number : ∀ n r, motive (.number n r)) (boolean : ∀ n, motive (.boolean n))
    (array : ∀ n items r, motive items → motive (.array n items r))
    (object : ∀ n ps, (∀ p ∈ ps, motive p.type) → motive (.object n ps)) (any : ∀ n, motive (.any n)) : motive t :=
  @ValueType.rec motive (fun ps => ∀ p ∈ ps, motive p.type) (fun p => motive p.type)
    text integer number boolean (fun n items r item => array n items r item) object any
    (by simp) (fun _ _ first rest => List.forall_mem_cons.mpr ⟨first, rest⟩)
    (fun _ _ _ type => type) t

namespace ValueType

inductive NamesDistinct : ValueType → Prop where
  | text (n : Bool) (r : TextRule) : NamesDistinct (.text n r)
  | integer (n : Bool) (r : IntegerRule) : NamesDistinct (.integer n r)
  | number (n : Bool) (r : NumberRule) : NamesDistinct (.number n r)
  | boolean (n : Bool) : NamesDistinct (.boolean n)
  | array {n : Bool} {items : ValueType} {r : ArrayRule} (item : NamesDistinct items) :
      NamesDistinct (.array n items r)
  | object {n : Bool} {ps : List (Property ValueType)} (names : (ps.map Property.name).Nodup)
      (each : ∀ p ∈ ps, NamesDistinct p.type) : NamesDistinct (.object n ps)
  | any (n : Bool) : NamesDistinct (.any n)

def Admits (p : Property ValueType) (ms : Members) : Prop :=
  match NameMap.get? ms p.name with
  | some v => p.type.accepts v = true
  | none => p.required = false

theorem acceptsMembers_iff (ps : List (Property ValueType)) (ms : Members) :
    acceptsMembers ps ms = true ↔ ∀ p ∈ ps, Admits p ms := by
  induction ps with
  | nil => simp [acceptsMembers]
  | cons p ps ih =>
    obtain ⟨name, required, type⟩ := p
    rw [acceptsMembers, Bool.and_eq_true, ih, List.forall_mem_cons]
    cases found : NameMap.get? ms name <;> simp [Admits, found]

theorem accepts_members (n : Bool) (ps : List (Property ValueType)) (ms : Members) :
    (object n ps).accepts (.object ms) = true ↔ ∀ p ∈ ps, Admits p ms := by
  simp [accepts, Json.object?, acceptsMembers_iff]

theorem Admits.insert {p q : Property ValueType} {ms : Members} {v : Json} (admitted : Admits p ms)
    (value : p.name = q.name → p.type.accepts v = true) : Admits p (NameMap.insert ms q.name v) := by
  unfold Admits at admitted ⊢
  rw [NameMap.get?_insert]
  by_cases same : p.name = q.name
  · simpa [same] using value same
  · simpa [same] using admitted

theorem eq_of_name_eq {ps : List (Property ValueType)} (names : (ps.map Property.name).Nodup)
    {p q : Property ValueType} (first : p ∈ ps) (second : q ∈ ps) (same : p.name = q.name) : p = q :=
  List.inj_on_of_nodup_map names first second same

end ValueType

end SchemaProbe
