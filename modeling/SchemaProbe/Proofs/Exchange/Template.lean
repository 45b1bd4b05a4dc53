import SchemaProbe.Exchange.Request
import SchemaProbe.Proofs.NameMap
import SchemaProbe.Proofs.Text.Replace

set_option autoImplicit false

namespace SchemaProbe.Template

open Text

def mark (name : String) : List Char := (TestCase.placeholder name).toList

def PlainName (name : String) : Prop := '\x7b' ∉ name.toList ∧ '\x7d' ∉ name.toList

inductive Piece where
  | letter (c : Char)
  | hole (name : String)
deriving DecidableEq

-- Reads placeholders of the names from the left to the right, behind some characters that are passed over.
def read (names : List String) : Nat → List Char → List Piece
  | _, [] => []
  | n + 1, _ :: cs => read names n cs
  | 0, c :: cs =>
    match names.find? fun name => (mark name).isPrefixOf (c :: cs) with
    | some name => .hole name :: read names (name.length + 1) cs
    | none => .letter c :: read names 0 cs

-- A name without a value keeps its placeholder.
def Piece.filled (table : NameMap String) : Piece → List Char
  | letter c => [c]
  | hole name => ((table.get? name).map String.toList).getD (mark name)

def fill (table : NameMap String) (ps : List Piece) : List Char := ps.flatMap (Piece.filled table)

variable {names : List String} {ps : List Piece} {n m : String}

theorem fill_cons (table : NameMap String) (p : Piece) : fill table (p :: ps) = p.filled table ++ fill table ps :=
  List.flatMap_cons

theorem mark_eq (name : String) : mark name = '\x7b' :: (name.toList ++ ['\x7d']) := by
  simp [mark, TestCase.placeholder]

theorem mark_head? (name : String) : (mark name).head? = some '\x7b' := by
  rw [mark_eq, List.head?_cons]

theorem placeholder_ne_empty (name : String) : TestCase.placeholder name ≠ "" := by
  intro empty
  have head := mark_head? name
  rw [mark, empty] at head
  cases head

theorem eq_of_mark_prefix (plain : PlainName n) (plain' : PlainName m) {rest : List Char}
    (start : mark n <+: mark m ++ rest) : n = m := by
  obtain ⟨tail, same⟩ := start
  simp only [mark_eq, List.cons_append, List.append_assoc, List.nil_append, List.cons.injEq, true_and] at same
  have own {name : String} (plain : PlainName name) (rest : List Char) :
      (name.toList ++ '\x7d' :: rest).takeWhile (· != '\x7d') = name.toList := by
    have kept (c : Char) (member : c ∈ name.toList) : (c != '\x7d') = true := by
      rw [bne_iff_ne]
      rintro rfl
      exact plain.2 member
    rw [List.takeWhile_append_of_pos kept]
    simp
  have texts := congrArg (List.takeWhile (· != '\x7d')) same
  rwa [own plain, own plain', String.toList_inj] at texts

theorem occurrences_mark_append (plain : PlainName n) (plain' : PlainName m) (rest : List Char) :
    occurrences (mark n) (mark m ++ rest) = occurrences (mark n) rest + if n = m then 1 else 0 := by
  have inside : '\x7b' ∉ m.toList ++ ['\x7d'] := by simp [plain'.1]
  have start : mark n <+: mark m ++ rest ↔ n = m := by
    constructor
    · exact eq_of_mark_prefix plain plain'
    · rintro rfl
      exact List.prefix_append _ _
  have shape : mark m ++ rest = '\x7b' :: (m.toList ++ ['\x7d'] ++ rest) := by rw [mark_eq, List.cons_append]
  simp only [← start]
  rw [shape, occurrences, occurrences_append_of_not_mem (mark_head? n) inside]

-- The reading of a text by its placeholders of the names: no letter stands where one of them starts.
inductive Reads (names : List String) : List Piece → Prop
  | nil : Reads names []
  | letter {c : Char} {ps : List Piece} (rest : Reads names ps)
      (other : ∀ n ∈ names, ¬ mark n <+: c :: fill [] ps) : Reads names (.letter c :: ps)
  | hole {name : String} {ps : List Piece} (listed : name ∈ names) (rest : Reads names ps) :
      Reads names (.hole name :: ps)

theorem Reads.listed (reads : Reads names ps) (member : Piece.hole n ∈ ps) : n ∈ names := by
  induction reads with
  | nil => cases member
  | letter rest other ih => exact ih (by simpa using member)
  | hole own rest ih =>
    rcases List.mem_cons.mp member with same | later
    · cases same
      exact own
    · exact ih later

theorem reads_read (names : List String) (skipped : Nat) (cs : List Char) :
    Reads names (read names skipped cs) ∧ fill [] (read names skipped cs) = cs.drop skipped := by
  fun_induction read names skipped cs with
  | case1 => exact ⟨.nil, by simp [fill]⟩
  | case2 n c cs ih => exact ih
  | case3 c cs name found ih =>
    obtain ⟨reads, text⟩ := ih
    have start := List.find?_some found
    obtain ⟨rest, whole⟩ := List.isPrefixOf_iff_prefix.mp start
    have behind : cs.drop (name.length + 1) = rest := by
      rw [mark_eq, List.cons_append, List.cons.injEq] at whole
      rw [← whole.2]
      exact List.drop_left' (by simp [String.length_toList])
    refine ⟨.hole (List.mem_of_find?_eq_some found) reads, ?_⟩
    rw [fill_cons, text, behind]
    exact whole
  | case4 c cs missing ih =>
    obtain ⟨reads, text⟩ := ih
    rw [List.drop_zero] at text
    refine ⟨.letter reads fun n listed start => ?_, ?_⟩
    · rw [text] at start
      exact List.find?_eq_none.mp missing n listed (List.isPrefixOf_iff_prefix.mpr start)
    · rw [fill_cons, text]
      rfl

@[simp] theorem filled_letter (table : NameMap String) (c : Char) : (Piece.letter c).filled table = [c] := rfl

theorem filled_open {table : NameMap String} (unlisted : table.get? n = none) : (Piece.hole n).filled table = mark n := by
  rw [Piece.filled, unlisted]
  rfl

theorem filled_given {table : NameMap String} {value : String} (given : table.get? n = some value) :
    (Piece.hole n).filled table = value.toList := by
  rw [Piece.filled, given]
  rfl

theorem get?_eq_none_of_before {before after : NameMap String} {e : String × String}
    (distinct : (NameMap.names (before ++ e :: after)).Nodup) : before.get? e.1 = none := by
  refine NameMap.get?_eq_none_of_not_mem fun earlier => ?_
  rw [NameMap.names, List.map_append, List.map_cons] at distinct
  exact (List.nodup_append.mp distinct).2.2 _ earlier _ List.mem_cons_self rfl

theorem fill_congr {table table' : NameMap String}
    (same : ∀ m, Piece.hole m ∈ ps → (Piece.hole m).filled table = (Piece.hole m).filled table') :
    fill table ps = fill table' ps := by
  induction ps with
  | nil => rfl
  | cons p ps ih =>
    rw [fill_cons, fill_cons, ih fun m later => same m (List.mem_cons_of_mem p later)]
    cases p with
    | letter c => rfl
    | hole m => rw [same m List.mem_cons_self]

theorem fill_eq_of_not_mem {table : NameMap String} (absent : ∀ e ∈ table, Piece.hole e.1 ∉ ps) :
    fill table ps = fill [] ps := by
  refine fill_congr fun m member => ?_
  have unlisted : table.get? m = none := by
    refine NameMap.get?_eq_none_iff.mpr fun e listed => ?_
    rintro rfl
    exact absent e listed member
  rw [filled_open unlisted, filled_open (NameMap.get?_nil m)]

theorem get?_concat_self {table : NameMap String} (unlisted : table.get? n = none) (value : String) :
    NameMap.get? (table ++ [(n, value)]) n = some value := by
  rw [NameMap.get?_append, unlisted, Option.none_or, NameMap.get?_cons, if_pos rfl]

theorem get?_concat_of_ne {table : NameMap String} (other : m ≠ n) (value : String) :
    NameMap.get? (table ++ [(n, value)]) m = table.get? m := by
  rw [NameMap.get?_append, NameMap.get?_cons, if_neg other, NameMap.get?_nil, Option.or_none]

theorem length_fill_concat {table : NameMap String} (unlisted : table.get? n = none) (value : String) :
    (fill (table ++ [(n, value)]) ps).length + ps.count (.hole n) * (mark n).length =
      (fill table ps).length + ps.count (.hole n) * value.length := by
  induction ps with
  | nil => simp [fill]
  | cons p ps ih =>
    rw [fill_cons, fill_cons, List.length_append, List.length_append]
    cases p with
    | letter c =>
      rw [List.count_cons_of_ne (by simp), filled_letter, filled_letter]
      omega
    | hole m =>
      by_cases here : m = n
      · subst here
        rw [List.count_cons_self, filled_given (get?_concat_self unlisted value), filled_open unlisted, Nat.add_mul,
          Nat.add_mul, String.length_toList]
        omega
      · rw [List.count_cons_of_ne (by simpa using here), Piece.filled, get?_concat_of_ne here, Piece.filled]
        omega

theorem occurrences_letter {c : Char} {cs : List Char} (other : ¬ mark n <+: c :: cs) :
    occurrences (mark n) (c :: cs) = occurrences (mark n) cs := by
  rw [occurrences, if_neg other, Nat.add_zero]

variable (plain : ∀ n ∈ names, PlainName n) {table : NameMap String}
include plain

theorem occurrences_eq_count (reads : Reads names ps) (listed : n ∈ names) :
    occurrences (mark n) (fill [] ps) = ps.count (.hole n) := by
  induction reads with
  | nil => rfl
  | letter rest other ih =>
    rw [fill_cons, filled_letter, List.singleton_append, occurrences_letter (other n listed), ih]
    exact (List.count_cons_of_ne (by simp)).symm
  | @hole m ps listed' rest ih =>
    rw [fill_cons, filled_open (NameMap.get?_nil m), occurrences_mark_append (plain n listed) (plain m listed'), ih]
    by_cases same : n = m
    · simp [same]
    · simp [same, Ne.symm same]

-- Values in place of other names leave every placeholder of a name where it is.
theorem occurrences_fill_le (reads : Reads names ps) (listed : n ∈ names) (unlisted : table.get? n = none) :
    occurrences (mark n) (fill [] ps) ≤ occurrences (mark n) (fill table ps) := by
  induction reads with
  | nil => exact Nat.le_refl _
  | @letter c ps rest other ih =>
    calc occurrences (mark n) (fill [] (.letter c :: ps))
      _ = occurrences (mark n) (fill [] ps) := occurrences_letter (other n listed)
      _ ≤ occurrences (mark n) (fill table ps) := ih
      _ ≤ occurrences (mark n) (fill table (.letter c :: ps)) := occurrences_le_append _ [c] _
  | @hole m ps listed' rest ih =>
    rw [fill_cons, fill_cons, filled_open (NameMap.get?_nil m),
      occurrences_mark_append (plain n listed) (plain m listed')]
    by_cases same : n = m
    · subst same
      rw [filled_open unlisted, occurrences_mark_append (plain n listed) (plain n listed)]
      exact Nat.add_le_add_right ih _
    · rw [if_neg same]
      exact Nat.le_trans ih (occurrences_le_append _ _ _)

theorem replaced_fill (reads : Reads names ps) (listed : n ∈ names) (unlisted : table.get? n = none)
    (same : occurrences (mark n) (fill table ps) = occurrences (mark n) (fill [] ps)) (value : String) :
    replaced (TestCase.placeholder n) value (fill table ps) = fill (table ++ [(n, value)]) ps := by
  have own := get?_concat_self unlisted value
  induction reads with
  | nil => rfl
  | @letter c ps rest other ih =>
    have least := occurrences_fill_le plain rest listed unlisted
    simp only [fill_cons, filled_letter, List.singleton_append, occurrences_letter (other n listed)] at same ⊢
    have start : ¬ mark n <+: c :: fill table ps := by
      intro here
      rw [occurrences, if_pos here] at same
      omega
    rw [occurrences_letter start] at same
    rw [replaced_cons value start, ih same]
  | @hole m ps listed' rest ih =>
    have least := occurrences_fill_le plain rest listed unlisted
    rw [fill_cons, fill_cons, filled_open (NameMap.get?_nil m),
      occurrences_mark_append (plain n listed) (plain m listed')] at same
    rw [fill_cons, fill_cons]
    by_cases here : n = m
    · subst here
      rw [filled_open unlisted, occurrences_mark_append (plain n listed) (plain n listed), Nat.add_right_cancel_iff] at same
      rw [filled_open unlisted, filled_given own, mark, replaced_append (placeholder_ne_empty n), ih same]
    · rw [if_neg here, Nat.add_zero] at same
      have more := occurrences_le_append (mark n) ((Piece.hole m).filled table) (fill table ps)
      have tail : occurrences (mark n) (fill table ps) = occurrences (mark n) (fill [] ps) := by omega
      have kept : (Piece.hole m).filled (table ++ [(n, value)]) = (Piece.hole m).filled table := by
        rw [Piece.filled, get?_concat_of_ne (Ne.symm here), Piece.filled]
      rw [replaced_append_of_occurrences_eq value (same.trans tail.symm), ih tail, kept]

-- No value that is put in place makes a new placeholder for a name whose value comes after it.
def Undisturbed (table : NameMap String) (ps : List Piece) : Prop :=
  ∀ before e after, table = before ++ e :: after →
    occurrences (mark e.1) (fill before ps) = occurrences (mark e.1) (fill [] ps)

theorem foldl_replaced (reads : Reads names ps) (listed : ∀ e ∈ table, e.1 ∈ names)
    (distinct : (NameMap.names table).Nodup) (steady : Undisturbed table ps) :
    table.foldl (fun cs e => replaced (TestCase.placeholder e.1) e.2 cs) (fill [] ps) = fill table ps := by
  have onward (after : NameMap String) : ∀ before, table = before ++ after →
      after.foldl (fun cs e => replaced (TestCase.placeholder e.1) e.2 cs) (fill before ps) = fill table ps := by
    induction after with
    | nil =>
      intro before whole
      rw [whole, List.append_nil]
      rfl
    | cons e after ih =>
      intro before whole
      have member : e ∈ table := by simp [whole]
      rw [List.foldl_cons, replaced_fill plain reads (listed e member) (get?_eq_none_of_before (whole ▸ distinct))
        (steady before e after whole) e.2]
      exact ih (before ++ [e]) (by simp [whole])
  exact onward table [] rfl

theorem undisturbed_of_no_braces (reads : Reads names ps) (listed : ∀ e ∈ table, e.1 ∈ names)
    (distinct : (NameMap.names table).Nodup) (values : ∀ e ∈ table, '\x7b' ∉ e.2.toList)
    (letters : Piece.letter '\x7b' ∉ ps) : Undisturbed table ps := by
  intro before e after whole
  have own : e.1 ∈ names := listed e (by simp [whole])
  have unlisted : before.get? e.1 = none := get?_eq_none_of_before (whole ▸ distinct)
  induction reads with
  | nil => rfl
  | @letter c ps rest other ih =>
    rw [List.mem_cons, not_or] at letters
    have inner (cs : List Char) : ¬ mark e.1 <+: c :: cs := by
      intro start
      rw [mark_eq, List.cons_prefix_cons] at start
      exact letters.1 (congrArg Piece.letter start.1)
    simp only [fill_cons, filled_letter, List.singleton_append, occurrences_letter (inner _), ih letters.2]
  | @hole m ps listed' rest ih =>
    rw [List.mem_cons, not_or] at letters
    rw [fill_cons, fill_cons, filled_open (NameMap.get?_nil m),
      occurrences_mark_append (plain _ own) (plain m listed'), ← ih letters.2]
    cases given : before.get? m with
    | none => rw [filled_open given, occurrences_mark_append (plain _ own) (plain m listed')]
    | some value =>
      have differ : e.1 ≠ m := by
        rintro rfl
        cases unlisted.symm.trans given
      have clean : '\x7b' ∉ value.toList := values (m, value) (by simp [whole, NameMap.mem_of_get? given])
      rw [filled_given given, occurrences_append_of_not_mem (mark_head? _) clean, if_neg differ, Nat.add_zero]

theorem count_lt_occurrences (reads : Reads names ps) (listed : n ∈ names) (listed' : m ∈ names) (differ : m ≠ n)
    (member : Piece.hole m ∈ ps) :
    ps.count (.hole n) < occurrences (mark n) (fill [(m, TestCase.placeholder n)] ps) := by
  have unlisted : NameMap.get? [(m, TestCase.placeholder n)] n = none := by
    rw [NameMap.get?_cons, if_neg (Ne.symm differ), NameMap.get?_nil]
  have given : (Piece.hole m).filled [(m, TestCase.placeholder n)] = mark n :=
    filled_given (by rw [NameMap.get?_cons, if_pos rfl])
  induction reads with
  | nil => cases member
  | @letter c ps rest other ih =>
    have later : Piece.hole m ∈ ps := by simpa using member
    rw [List.count_cons_of_ne (by simp)]
    exact Nat.lt_of_lt_of_le (ih later) (occurrences_le_append _ [c] _)
  | @hole k ps own rest ih =>
    have least := occurrences_fill_le plain rest listed unlisted
    rw [occurrences_eq_count plain rest listed] at least
    rw [fill_cons]
    by_cases here : k = m
    · subst here
      rw [List.count_cons_of_ne (by simpa using differ), given,
        occurrences_mark_append (plain n listed) (plain n listed), if_pos rfl]
      exact Nat.lt_succ_of_le least
    have later : Piece.hole m ∈ ps := by simpa [Ne.symm here] using member
    have kept : (Piece.hole k).filled [(m, TestCase.placeholder n)] = mark k := by
      refine filled_open ?_
      rw [NameMap.get?_cons, if_neg here, NameMap.get?_nil]
    rw [kept, occurrences_mark_append (plain n listed) (plain k own)]
    by_cases again : n = k
    · subst again
      rw [List.count_cons_self, if_pos rfl]
      exact Nat.succ_lt_succ (ih later)
    · rw [List.count_cons_of_ne (by simpa using Ne.symm again), if_neg again]
      exact ih later

end SchemaProbe.Template
