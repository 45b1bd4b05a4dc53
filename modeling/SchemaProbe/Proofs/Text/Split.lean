import Mathlib.Data.List.TakeWhile
import SchemaProbe.Text.Trim

set_option autoImplicit false

namespace SchemaProbe

theorem Category.not_isDigit_of_isBlank {c : Char} (blank : isBlank c = true) : c.isDigit = false := by
  simp only [isBlank, Bool.or_eq_true, Bool.and_eq_true, decide_eq_true_eq] at blank
  rw [Bool.eq_false_iff]
  intro digit
  simp only [Char.isDigit, Bool.and_eq_true, decide_eq_true_eq, UInt32.le_iff_toNat_le, ge_iff_le] at digit
  have between : 48 ≤ c.toNat ∧ c.toNat ≤ 57 := digit
  rcases blank with (rfl | control) | ⟨high, -⟩
  · exact absurd between (by decide)
  · omega
  · omega

namespace Text

theorem pieces_eq_splitOn (sep : Char) (cs : List Char) : splitOn.pieces sep cs = cs.splitOn sep := by
  induction cs with
  | nil => rfl
  | cons c cs ih =>
    rw [splitOn.pieces, ih, List.splitOn_eq_splitOnP, List.splitOn_eq_splitOnP, List.splitOnP_cons_eq_if_modifyHead]
    by_cases same : c = sep
    · simp [same]
    · cases pieces : cs.splitOnP (· == sep) with
      | nil => exact absurd pieces (List.splitOnP_ne_nil _ _)
      | cons p ps => simp [same]

theorem splitOn_intercalate {sep : Char} {texts : List String} (nonempty : texts ≠ [])
    (apart : ∀ t ∈ texts, sep ∉ t.toList) : splitOn sep ((String.singleton sep).intercalate texts) = texts := by
  have pieces : ([sep].intercalate (texts.map String.toList)).splitOn sep = texts.map String.toList := by
    refine List.splitOn_intercalate sep ?_ (by simpa using nonempty)
    simpa using apart
  rw [splitOn, pieces_eq_splitOn, String.toList_intercalate, String.toList_singleton, pieces, List.map_map]
  simp [Function.comp_def]

theorem splitOnce?_append {sep : Char} {before : String} (apart : sep ∉ before.toList) (after : String) :
    splitOnce? sep (before ++ String.singleton sep ++ after) = some (before, after) := by
  have passed (c : Char) (member : c ∈ before.toList) : (c != sep) = true := by
    rw [bne_iff_ne]
    rintro rfl
    exact apart member
  have text : (before ++ String.singleton sep ++ after).toList = before.toList ++ sep :: after.toList := by simp
  have here : ((sep :: after.toList).dropWhile (· != sep)) = sep :: after.toList := by simp
  rw [splitOnce?, text, List.dropWhile_append_of_pos passed, here, List.takeWhile_append_of_pos passed]
  simp

theorem trim_eq_self {s : String} (solid : ∀ c ∈ s.toList, Category.isBlank c = false) : trim s = s := by
  have kept {cs : List Char} (solid : ∀ c ∈ cs, Category.isBlank c = false) : cs.dropWhile Category.isBlank = cs := by
    rw [List.dropWhile_eq_self_iff]
    intro nonempty
    simp [solid _ (List.getElem_mem nonempty)]
  have back : ∀ c ∈ s.toList.reverse, Category.isBlank c = false := by simpa using solid
  rw [trim, trimStart, kept solid, trimEnd, kept back, List.reverse_reverse, String.ofList_toList]

end Text

end SchemaProbe
