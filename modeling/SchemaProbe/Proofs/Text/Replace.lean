import SchemaProbe.Text.Trim

set_option autoImplicit false

namespace SchemaProbe.Text

theorem toList_ne_nil {s : String} (nonempty : s ≠ "") : s.toList ≠ [] := by simpa using nonempty

-- Text behind the part and shorter than what was there needs less fuel.
theorem replaceAll_go_eq {part : String} (nonempty : part ≠ "") (replacement : String) {n m : Nat} {cs : List Char}
    (first : cs.length ≤ n) (second : cs.length ≤ m) :
    replaceAll.go part replacement n cs = replaceAll.go part replacement m cs := by
  have long := List.length_pos_iff.mpr (toList_ne_nil nonempty)
  rw [String.length_toList] at long
  induction n generalizing m cs with
  | zero =>
    obtain rfl := List.length_eq_zero_iff.mp (Nat.le_zero.mp first)
    cases m <;> rfl
  | succ n ih =>
    cases cs with
    | nil => cases m <;> rfl
    | cons c cs =>
      rw [List.length_cons] at first second
      obtain ⟨m, rfl⟩ := Nat.exists_eq_succ_of_ne_zero (n := m) (by omega)
      have shorter : ((c :: cs).drop part.length).length ≤ cs.length := by
        rw [List.length_drop, List.length_cons]
        omega
      rw [replaceAll.go, replaceAll.go]
      split
      next => rw [ih (m := m) (by omega) (by omega)]
      next => rw [ih (m := m) (by omega) (by omega)]

def replaced (part replacement : String) (cs : List Char) : List Char := replaceAll.go part replacement cs.length cs

theorem toList_replaceAll {part : String} (nonempty : part ≠ "") (replacement s : String) :
    (replaceAll part replacement s).toList = replaced part replacement s.toList := by
  rw [replaceAll, if_neg nonempty, String.toList_ofList, replaced, String.length_toList]

theorem replaced_nil (part replacement : String) : replaced part replacement [] = [] := rfl

theorem replaced_cons {part : String} (replacement : String) {c : Char} {cs : List Char}
    (other : ¬ part.toList <+: c :: cs) : replaced part replacement (c :: cs) = c :: replaced part replacement cs := by
  rw [replaced, List.length_cons, replaceAll.go, if_neg (mt List.isPrefixOf_iff_prefix.mp other)]
  rfl

theorem replaced_append {part : String} (nonempty : part ≠ "") (replacement : String) (rest : List Char) :
    replaced part replacement (part.toList ++ rest) = replacement.toList ++ replaced part replacement rest := by
  cases whole : part.toList ++ rest with
  | nil => exact absurd (List.append_eq_nil_iff.mp whole).1 (toList_ne_nil nonempty)
  | cons c cs =>
    have here : part.toList <+: c :: cs := ⟨rest, whole⟩
    have behind : (c :: cs).drop part.length = rest := by
      rw [← whole, ← String.length_toList, List.drop_left]
    have shorter : rest.length ≤ cs.length := by
      have long := List.length_pos_iff.mpr (toList_ne_nil nonempty)
      have sum := congrArg List.length whole
      rw [List.length_append, List.length_cons] at sum
      omega
    rw [replaced, List.length_cons, replaceAll.go, if_pos (List.isPrefixOf_iff_prefix.mpr here), behind, replaced,
      replaceAll_go_eq nonempty replacement shorter (Nat.le_refl _)]

@[elab_as_elim] theorem replaced_induction {part : String} (nonempty : part ≠ "") {motive : List Char → Prop}
    (nil : motive []) (here : ∀ rest, motive rest → motive (part.toList ++ rest))
    (other : ∀ c cs, ¬ part.toList <+: c :: cs → motive cs → motive (c :: cs)) (cs : List Char) : motive cs := by
  have long := List.length_pos_iff.mpr (toList_ne_nil nonempty)
  induction size : cs.length using Nat.strongRecOn generalizing cs with
  | _ n ih =>
    cases cs with
    | nil => exact nil
    | cons c cs =>
      by_cases start : part.toList <+: c :: cs
      · obtain ⟨rest, whole⟩ := start
        have sum := congrArg List.length whole
        rw [List.length_append] at sum
        rw [← whole]
        exact here rest (ih rest.length (by omega) rest rfl)
      · exact other c cs start (ih cs.length (by simp [← size]) cs rfl)

theorem replaced_self {part : String} (nonempty : part ≠ "") (cs : List Char) : replaced part part cs = cs := by
  induction cs using replaced_induction nonempty with
  | nil => rfl
  | here rest ih => rw [replaced_append nonempty, ih]
  | other c cs start ih => rw [replaced_cons part start, ih]

def occurrences (part : List Char) : List Char → Nat
  | [] => 0
  | c :: cs => occurrences part cs + if part <+: c :: cs then 1 else 0

theorem occurs_iff {part : List Char} (nonempty : part ≠ []) {cs : List Char} :
    occurs part cs = true ↔ 0 < occurrences part cs := by
  induction cs with
  | nil => simp [occurs, occurrences, nonempty]
  | cons c cs ih =>
    rw [occurs, occurrences, Bool.or_eq_true, ih, List.isPrefixOf_iff_prefix]
    by_cases start : part <+: c :: cs <;> simp [start]

theorem occurrences_append_of_not_mem {part : List Char} {first : Char} (starts : part.head? = some first)
    {before : List Char} (absent : first ∉ before) (rest : List Char) :
    occurrences part (before ++ rest) = occurrences part rest := by
  induction before with
  | nil => rfl
  | cons c cs ih =>
    rw [List.mem_cons, not_or] at absent
    have other : ¬ part <+: c :: (cs ++ rest) := by
      rintro ⟨tail, whole⟩
      have head := congrArg List.head? whole
      rw [List.head?_append, starts] at head
      exact absent.1 (Option.some.inj head)
    rw [List.cons_append, occurrences, if_neg other, Nat.add_zero, ih absent.2]

theorem occurrences_le_append (part before rest : List Char) :
    occurrences part rest ≤ occurrences part (before ++ rest) := by
  induction before with
  | nil => exact Nat.le_refl _
  | cons c cs ih => exact Nat.le_trans ih (Nat.le_add_right _ _)

theorem replaced_append_of_occurrences_eq {part : String} (replacement : String) {before rest : List Char}
    (same : occurrences part.toList (before ++ rest) = occurrences part.toList rest) :
    replaced part replacement (before ++ rest) = before ++ replaced part replacement rest := by
  induction before with
  | nil => rfl
  | cons c cs ih =>
    have fewer := occurrences_le_append part.toList cs rest
    rw [List.cons_append, occurrences] at same
    have other : ¬ part.toList <+: c :: (cs ++ rest) := by
      intro here
      rw [if_pos here] at same
      omega
    rw [if_neg other] at same
    rw [List.cons_append, replaced_cons replacement other, ih same, List.cons_append]

-- Each part that does not run into the next one is taken away once.
theorem length_replaced {part : String} (nonempty : part ≠ "")
    (apart : ∀ rest, occurrences part.toList (part.toList ++ rest) = occurrences part.toList rest + 1)
    (replacement : String) (cs : List Char) :
    (replaced part replacement cs).length + occurrences part.toList cs * part.length =
      cs.length + occurrences part.toList cs * replacement.length := by
  induction cs using replaced_induction nonempty with
  | nil => simp [replaced_nil, occurrences]
  | here rest ih =>
    rw [replaced_append nonempty, apart, List.length_append, List.length_append, Nat.add_mul, Nat.add_mul,
      String.length_toList, String.length_toList]
    omega
  | other c cs start ih =>
    rw [replaced_cons replacement start, occurrences, if_neg start, Nat.add_zero, List.length_cons, List.length_cons]
    omega

theorem replaceAll_of_not_mem {part : String} {first : Char} (starts : part.toList.head? = some first)
    (replacement : String) {s : String} (absent : first ∉ s.toList) : replaceAll part replacement s = s := by
  have nonempty : part ≠ "" := by
    rintro rfl
    simp at starts
  have same := occurrences_append_of_not_mem starts absent []
  have kept := replaced_append_of_occurrences_eq replacement same
  rw [List.append_nil, replaced_nil, List.append_nil] at kept
  rw [← String.toList_inj, toList_replaceAll nonempty, kept]

end SchemaProbe.Text
