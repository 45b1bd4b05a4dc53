import SchemaProbe.Proofs.ValueType.Nesting

set_option autoImplicit false

namespace SchemaProbe.ValueType

-- Every value but null that the one type accepts is accepted by the other.
def Narrows (t s : ValueType) : Prop := ∀ v, v ≠ .null → t.accepts v = true → s.accepts v = true

theorem accepts_orNull (n : Bool) (t : ValueType) {v : Json} (present : v ≠ .null) :
    (t.orNull n).accepts v = t.accepts v := by
  cases t <;> cases v <;> first | rfl | exact absurd rfl present

theorem orNull_narrows_iff {n : Bool} {t s : ValueType} : (t.orNull n).Narrows s ↔ t.Narrows s :=
  forall_congr' fun _ => forall_congr' fun present => by rw [accepts_orNull n t present]

section
variable (inner : Json → Except TypeFault ValueType)

theorem ofName_or (ms : Members) (patterns : List String) (n b : Bool) (name : Option String) :
    ofName inner ms patterns (n || b) name = (ofName inner ms patterns n name).map (orNull b) := by
  unfold ofName
  split
  next => rfl
  next => cases textRule ms patterns <;> rfl
  next => cases integerRule ms <;> rfl
  next => cases numberRule ms <;> rfl
  next => rfl
  next => cases itemsType inner ms <;> rfl
  next => cases propertyTypes inner ms <;> rfl
  next => rfl
  next => rfl

theorem ofKeywords_or (r : Resolved) (b : Bool) :
    ofKeywords inner { r with nullable := r.nullable || b } = (ofKeywords inner r).map (orNull b) := by
  unfold ofKeywords
  cases declaredName r.keywords with
  | error fault => rfl
  | ok declared =>
    have moved : (r.nullable || b || declared.2) = (r.nullable || declared.2 || b) := Bool.or_right_comm _ _ _
    simpa [bind, Except.bind, moved] using ofName_or inner r.keywords r.patterns (r.nullable || declared.2) b _

end

theorem ofSchema_variants {ms : Members} (plain : NameMap.contains ms "allOf" = false) {vs : List Json}
    (listed : Resolved.variantList? ms = some vs) :
    ofSchema (.object ms) = (ofSchema (Resolved.narrowed vs)).map
      (orNull (Keyword.isNullable ms || vs.any Keyword.isNullType)) := by
  rw [ofSchema_eq, Resolved.resolve_variants plain listed, ofSchema_eq (Resolved.narrowed vs)]
  cases Resolved.resolve (Resolved.narrowed vs) with
  | error fault => rfl
  | ok r => exact ofKeywords_or ofSchema r _

def withoutVariants (ms : Members) : Members := NameMap.erase (NameMap.erase ms "anyOf") "oneOf"

/-- Whatever stands beside the variants, the values of the variant they narrow to are accepted, null apart. So the type
of the keywords beside them is narrowed if and only if that variant narrows it by itself. -/
theorem variants_narrow_iff {ms : Members} (plain : NameMap.contains ms "allOf" = false) {vs : List Json}
    (listed : Resolved.variantList? ms = some vs) {t : ValueType} (built : ofSchema (.object ms) = .ok t) :
    ∃ variant, ofSchema (Resolved.narrowed vs) = .ok variant ∧
      (∀ own, ofSchema (.object (withoutVariants ms)) = .ok own → (t.Narrows own ↔ variant.Narrows own)) ∧
      ∀ ms', NameMap.contains ms' "allOf" = false → Resolved.variantList? ms' = some vs →
        ∃ t', ofSchema (.object ms') = .ok t' ∧ ∀ v, v ≠ .null → t'.accepts v = variant.accepts v := by
  rw [ofSchema_variants plain listed] at built
  obtain ⟨variant, narrowed, rfl⟩ := map_eq_ok_iff.mp built
  refine ⟨variant, narrowed, fun own _ => orNull_narrows_iff, fun ms' plain' listed' => ?_⟩
  rw [ofSchema_variants plain' listed', narrowed]
  exact ⟨_, rfl, fun v present => accepts_orNull _ _ present⟩

def admits? (schema v : Json) : Option Bool := (ofSchema schema).toOption.map (·.accepts v)

theorem exists_of_admits? {schema v : Json} {b : Bool} (found : admits? schema v = some b) :
    ∃ t, ofSchema schema = .ok t ∧ t.accepts v = b := by
  obtain ⟨t, built, accepted⟩ := Option.map_eq_some_iff.mp found
  exact ⟨t, toOption_eq_some_iff.mp built, accepted⟩

def shortTag : Members :=
  [("anyOf", .array [.object [("minLength", .ofNat 1), ("type", .string "string")]]), ("maxLength", .ofNat 2),
    ("type", .string "string")]

theorem shortTag_not_narrowed : ∃ t own, ofSchema (.object shortTag) = .ok t ∧
    ofSchema (.object (withoutVariants shortTag)) = .ok own ∧ ¬ t.Narrows own ∧ t.accepts (.string "long") = true ∧
    own.accepts (.string "long") = false ∧
    admits? (.object [("allOf", .array [.object shortTag])]) (.string "long") = some false := by
  obtain ⟨t, built, accepted⟩ : ∃ t, ofSchema (.object shortTag) = .ok t ∧ t.accepts (.string "long") = true :=
    exists_of_admits? (by decide +kernel)
  obtain ⟨own, beside, refused⟩ :
      ∃ own, ofSchema (.object (withoutVariants shortTag)) = .ok own ∧ own.accepts (.string "long") = false :=
    exists_of_admits? (by decide +kernel)
  obtain ⟨variant, -, narrows, alike⟩ := variants_narrow_iff (by decide) rfl built
  obtain ⟨t', built', same⟩ := alike shortTag (by decide) rfl
  obtain rfl : t' = t := Except.ok.inj (built'.symm.trans built)
  have variantAccepts : variant.accepts (.string "long") = true := (same (.string "long") nofun).symm.trans accepted
  refine ⟨t', own, built, beside, fun kept => ?_, accepted, refused, by decide +kernel⟩
  have kept := (narrows own beside).mp kept (.string "long") nofun variantAccepts
  exact Bool.false_ne_true (refused.symm.trans kept)

end SchemaProbe.ValueType
