import SchemaProbe.Proofs.ValueType.Merge
import SchemaProbe.ValueType.OfSchema

set_option autoImplicit false

namespace SchemaProbe

namespace Json

theorem depthList_le {x : Json} {xs : List Json} (member : x ∈ xs) : x.depth ≤ depthList xs := by
  induction xs with
  | nil => cases member
  | cons y ys ih =>
    rw [depthList]
    rcases List.mem_cons.mp member with rfl | later
    · exact Nat.le_max_left _ _
    · exact Nat.le_trans (ih later) (Nat.le_max_right _ _)

theorem depthMembers_le {m : String × Json} {ms : Members} (member : m ∈ ms) : m.2.depth ≤ depthMembers ms := by
  induction ms with
  | nil => cases member
  | cons e es ih =>
    rw [depthMembers]
    rcases List.mem_cons.mp member with rfl | later
    · exact Nat.le_max_left _ _
    · exact Nat.le_trans (ih later) (Nat.le_max_right _ _)

theorem Child.depth_lt {v w : Json} (child : Child w v) : w.depth < v.depth := by
  cases child with
  | element member => exact Nat.lt_succ_of_le (depthList_le member)
  | member member => exact Nat.lt_succ_of_le (depthMembers_le member)

end Json

theorem Keyword.depth_lt_of_mem_elements {ms : Members} {name : String} {v : Json} (member : v ∈ elements ms name) :
    v.depth < (Json.object ms).depth := by
  unfold elements at member
  cases found : (NameMap.get? ms name).bind Json.array? with
  | none => simp [found] at member
  | some vs =>
    rw [found] at member
    obtain ⟨w, here, isArray⟩ := Option.bind_eq_some_iff.mp found
    cases w <;> cases isArray
    exact Nat.lt_trans (Json.Child.element member).depth_lt (Json.Child.member (NameMap.mem_of_get? here)).depth_lt

namespace Merge

theorem parts_congr {n m : Nat} {v : Json} (deep : v.depth < n) (deep' : v.depth < m) : parts n v = parts m v := by
  induction n generalizing m v with
  | zero => omega
  | succ n ih =>
    obtain ⟨m, rfl⟩ : ∃ k, m = k + 1 := ⟨m - 1, by omega⟩
    have element {ms : Members} {name : String} (here : v = .object ms) (w : Json)
        (member : w ∈ Keyword.elements ms name) : parts n w = parts m w := by
      have below := Keyword.depth_lt_of_mem_elements member
      subst here
      exact ih (by omega) (by omega)
    cases v with
    | object ms =>
      have variant : variantParts n ms = variantParts m ms := by
        unfold variantParts
        cases chosen : chosenVariant? ms with
        | none => rfl
        | some w =>
          obtain ⟨name, -, member⟩ := mem_elements_of_chosenVariant chosen
          exact element rfl w member
      have listed : listedParts n ms = listedParts m ms := by
        unfold listedParts
        cases found : NameMap.get? ms "allOf" with
        | none => rfl
        | some w =>
          cases w with
          | array vs => exact mapM_congr fun w member => element rfl w (mem_elements_of_get? found member)
          | _ => rfl
      rw [parts_object, parts_object, variant, listed]
    | bool b => cases b <;> rfl
    | _ => rfl

end Merge

namespace Resolved

def resolve (v : Json) : Except TypeFault Resolved := ofSchema (v.depth + 1) v

theorem elements_of_variantList {ms : Members} {vs : List Json} (listed : variantList? ms = some vs) :
    ∃ name ∈ Keyword.compositions, Keyword.elements ms name = vs := by
  unfold variantList? at listed
  cases first : (NameMap.get? ms "anyOf").bind Json.array? with
  | none =>
    rw [first] at listed
    exact ⟨"oneOf", by decide, by rw [Keyword.elements, ← Option.getD_some (a := vs), ← listed]; rfl⟩
  | some ws =>
    rw [first] at listed
    cases listed
    exact ⟨"anyOf", by decide, by rw [Keyword.elements, first]; rfl⟩

theorem depth_lt_of_variant {ms : Members} {vs : List Json} (listed : variantList? ms = some vs) {v : Json}
    (chosen : (variants vs).1 = some v) : v.depth < (Json.object ms).depth := by
  obtain ⟨name, -, rfl⟩ := elements_of_variantList listed
  exact Keyword.depth_lt_of_mem_elements (List.mem_of_find?_eq_some chosen)

theorem ofSchema_congr {n m : Nat} {v : Json} (deep : v.depth < n) (deep' : v.depth < m) :
    ofSchema n v = ofSchema m v := by
  induction n generalizing m v with
  | zero => omega
  | succ n ih =>
    obtain ⟨m, rfl⟩ : ∃ k, m = k + 1 := ⟨m - 1, by omega⟩
    cases v with
    | object ms =>
      have variant {vs : List Json} {w : Json} (listed : variantList? ms = some vs)
          (chosen : (variants vs).1 = some w) : ofSchema n w = ofSchema m w := by
        have below := depth_lt_of_variant listed chosen
        exact ih (by omega) (by omega)
      simp only [ofSchema]
      rw [Merge.parts_congr deep deep']
      split
      · rfl
      · split
        next vs listed =>
          split
          next w hasNull chosen => rw [variant listed (by rw [chosen])]
          next => rfl
        next => rfl
    | bool b => cases b <;> rfl
    | _ => rfl

theorem resolve_plain {ms : Members} (plain : NameMap.contains ms "allOf" = false) (single : variantList? ms = none) :
    resolve (.object ms) = .ok ⟨ms, Keyword.isNullable ms, []⟩ := by
  simp [resolve, ofSchema, plain, single]

-- The schema that variants narrow to; with none but the null type every value is allowed.
def narrowed (vs : List Json) : Json := (vs.find? fun v => !Keyword.isNullType v).getD (.bool true)

theorem resolve_variants {ms : Members} (plain : NameMap.contains ms "allOf" = false) {vs : List Json}
    (listed : variantList? ms = some vs) :
    resolve (.object ms) = (resolve (narrowed vs)).map fun r =>
      { r with nullable := r.nullable || (Keyword.isNullable ms || vs.any Keyword.isNullType) } := by
  unfold narrowed
  cases chosen : vs.find? fun v => !Keyword.isNullType v with
  | none => simp [resolve, ofSchema, plain, listed, variants, chosen, Except.map]
  | some v =>
    have same : ofSchema (Json.object ms).depth v = resolve v :=
      ofSchema_congr (depth_lt_of_variant listed chosen) (Nat.lt_succ_self _)
    conv_lhs => rw [resolve, ofSchema]
    simp only [plain, listed, variants, chosen, same, Option.getD_some, Bool.false_eq_true, if_false]
    cases resolve v <;> simp [Except.map, bind, Except.bind, Bool.or_assoc]

theorem ofSchema_forall {whole : Json → Prop} {part : Members → Prop} (nothing : part [])
    (own : ∀ ms, whole (.object ms) → part ms)
    (composed : ∀ ms, whole (.object ms) → ∀ name ∈ Keyword.compositions, ∀ v ∈ Keyword.elements ms name, whole v)
    (filtered : ∀ ms, part ms → part (Merge.ownPart ms))
    (merged : ∀ ps, (∀ p ∈ ps, part p) → ∀ ms further, Merge.merge ps = .ok (ms, further) → part ms) (fuel : Nat)
    {v : Json} (holds : whole v) {r : Resolved} (resolved : ofSchema fuel v = .ok r) : part r.keywords := by
  induction fuel generalizing v r with
  | zero => cases resolved
  | succ fuel ih =>
    unfold ofSchema at resolved
    split at resolved
    next => cases resolved; exact nothing
    next ms =>
      dsimp only at resolved
      split at resolved
      next =>
        obtain ⟨ps, gathered, rest⟩ := bind_eq_ok_iff.mp resolved
        obtain ⟨⟨keywords, further⟩, combined, done⟩ := bind_eq_ok_iff.mp rest
        cases done
        have each := Merge.parts_forall (fun ms whole => filtered ms (own ms whole)) composed _ holds gathered
        exact merged ps each _ _ combined
      next =>
        split at resolved
        next vs listed =>
          split at resolved
          next variant hasNull chosen =>
            obtain ⟨r', narrowed, done⟩ := bind_eq_ok_iff.mp resolved
            cases done
            have first : vs.find? (fun v => !Keyword.isNullType v) = some variant := congrArg Prod.fst chosen
            obtain ⟨name, composition, rfl⟩ := elements_of_variantList listed
            have keywords : part r'.keywords :=
              ih (composed ms holds name composition variant (List.mem_of_find?_eq_some first)) narrowed
            exact keywords
          next => cases resolved; exact nothing
        next => cases resolved; exact own ms holds
    next => cases resolved

end Resolved

end SchemaProbe
