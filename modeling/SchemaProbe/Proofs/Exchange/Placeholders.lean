import SchemaProbe.Proofs.Exchange.Headers
import SchemaProbe.Proofs.Exchange.Template

set_option autoImplicit false

namespace SchemaProbe

namespace Template

open Text

variable {names : List String} {ps : List Piece} {n m : String}

-- The value of `m` is the placeholder of `n`; that one has an empty value, and every other name its own placeholder.
def misled (m n name : String) : String × String :=
  (name, if name = m then TestCase.placeholder n else if name = n then "" else TestCase.placeholder name)

theorem misled_first (m n : String) : misled m n m = (m, TestCase.placeholder n) := by
  rw [misled, if_pos rfl]

theorem misled_last (differ : m ≠ n) : misled m n n = (n, "") := by
  rw [misled, if_neg (Ne.symm differ), if_pos rfl]

theorem misled_other {k : String} (other : k ≠ m) (other' : k ≠ n) : misled m n k = (k, TestCase.placeholder k) := by
  rw [misled, if_neg other, if_neg other']

theorem fill_misled (reads : Reads names ps) (distinct : names.Nodup) (differ : m ≠ n) :
    fill (names.map (misled m n)) ps = fill ([(m, TestCase.placeholder n)] ++ [(n, "")]) ps := by
  have keys : NameMap.names (names.map (misled m n)) = names := by
    simp [NameMap.names, Function.comp_def, misled]
  have given {k v : String} (hole : Piece.hole k ∈ ps) (own : misled m n k = (k, v)) :
      (Piece.hole k).filled (names.map (misled m n)) = v.toList := by
    refine filled_given ?_
    have member : misled m n k ∈ names.map (misled m n) := List.mem_map_of_mem (reads.listed hole)
    rw [own] at member
    exact NameMap.get?_of_mem (keys.symm ▸ distinct) member
  refine fill_congr fun k hole => ?_
  by_cases first : k = m
  · subst first
    rw [given hole (misled_first k n)]
    exact (filled_given (by simp [NameMap.get?_cons])).symm
  by_cases last : k = n
  · subst last
    rw [given hole (misled_last differ)]
    exact (filled_given (by simp [NameMap.get?_cons, Ne.symm differ])).symm
  · rw [given hole (misled_other first last)]
    exact (filled_open (by simp [NameMap.get?_cons, first, last])).symm

theorem foldl_misled_idle {others : List String} (absent : m ∉ others) (absent' : n ∉ others) (cs : List Char) :
    (others.map (misled m n)).foldl (fun cs e => replaced (TestCase.placeholder e.1) e.2 cs) cs = cs := by
  induction others generalizing cs with
  | nil => rfl
  | cons k rest ih =>
    rw [List.mem_cons, not_or] at absent absent'
    rw [List.map_cons, List.foldl_cons, misled_other (Ne.symm absent.1) (Ne.symm absent'.1),
      replaced_self (placeholder_ne_empty k), ih absent.2 absent'.2]

variable (plain : ∀ n ∈ names, PlainName n)
include plain

theorem foldl_misled (reads : Reads names ps) (distinct : names.Nodup) {before between : List String}
    (whole : names = before ++ m :: (between ++ [n])) :
    (names.map (misled m n)).foldl (fun cs e => replaced (TestCase.placeholder e.1) e.2 cs) (fill [] ps) =
      replaced (TestCase.placeholder n) "" (fill [(m, TestCase.placeholder n)] ps) := by
  have listed : m ∈ names := by simp [whole]
  have outside : (m ∉ before ∧ n ∉ before) ∧ (m ∉ between ∧ n ∉ between) ∧ m ≠ n := by
    rw [whole] at distinct
    simp only [List.nodup_append, List.nodup_cons, List.mem_append, List.mem_cons] at distinct
    grind
  obtain ⟨⟨absent, absent'⟩, ⟨skipped, skipped'⟩, differ⟩ := outside
  have step : replaced (TestCase.placeholder m) (TestCase.placeholder n) (fill [] ps) =
      fill [(m, TestCase.placeholder n)] ps :=
    replaced_fill plain reads listed (NameMap.get?_nil m) rfl _
  rw [whole, List.map_append, List.foldl_append, foldl_misled_idle absent absent', List.map_cons, List.foldl_cons,
    misled_first, step, List.map_append, List.foldl_append, foldl_misled_idle skipped skipped', List.map_singleton,
    misled_last differ]
  rfl

theorem foldl_misled_ne (reads : Reads names ps) (distinct : names.Nodup) {before between : List String}
    (whole : names = before ++ m :: (between ++ [n])) (member : Piece.hole m ∈ ps) :
    (names.map (misled m n)).foldl (fun cs e => replaced (TestCase.placeholder e.1) e.2 cs) (fill [] ps) ≠
      fill (names.map (misled m n)) ps := by
  have listed : m ∈ names := by simp [whole]
  have listed' : n ∈ names := by simp [whole]
  have differ : m ≠ n := by
    rintro rfl
    simp [whole, List.nodup_append] at distinct
  have unlisted : NameMap.get? [(m, TestCase.placeholder n)] n = none := by
    rw [NameMap.get?_cons, if_neg (Ne.symm differ), NameMap.get?_nil]
  have apart (rest : List Char) : occurrences (mark n) (mark n ++ rest) = occurrences (mark n) rest + 1 := by
    rw [occurrences_mark_append (plain n listed') (plain n listed'), if_pos rfl]
  have more := Nat.mul_lt_mul_of_pos_right (count_lt_occurrences plain reads listed' listed differ member)
    (List.length_pos_iff.mpr (toList_ne_nil (placeholder_ne_empty n)))
  have sequential := length_replaced (placeholder_ne_empty n) apart "" (fill [(m, TestCase.placeholder n)] ps)
  have atOnce : (fill ([(m, TestCase.placeholder n)] ++ [(n, "")]) ps).length + ps.count (.hole n) * (mark n).length =
      (fill [(m, TestCase.placeholder n)] ps).length + ps.count (.hole n) * "".length :=
    length_fill_concat unlisted ""
  intro same
  rw [foldl_misled plain reads distinct whole, fill_misled reads distinct differ] at same
  simp only [mark, String.length_toList, String.length_empty, Nat.mul_zero, Nat.add_zero] at more sequential atOnce same
  rw [same] at sequential
  omega

-- At most one placeholder starts at a place, so that the order of the names is of no account.
theorem find?_mark_congr {names' : List String} (same : ∀ n, n ∈ names' ↔ n ∈ names) (cs : List Char) :
    names'.find? (fun name => (mark name).isPrefixOf cs) = names.find? fun name => (mark name).isPrefixOf cs := by
  have unique {n m : String} (listed : n ∈ names) (listed' : m ∈ names) (start : (mark n).isPrefixOf cs = true)
      (start' : (mark m).isPrefixOf cs = true) : n = m := by
    obtain ⟨rest, rfl⟩ := List.isPrefixOf_iff_prefix.mp start'
    exact eq_of_mark_prefix (plain n listed) (plain m listed') (List.isPrefixOf_iff_prefix.mp start)
  cases found : names.find? fun name => (mark name).isPrefixOf cs with
  | none =>
    rw [List.find?_eq_none] at found ⊢
    exact fun n listed => found n ((same n).mp listed)
  | some n =>
    have listed := List.mem_of_find?_eq_some found
    have start := List.find?_some found
    cases found' : names'.find? fun name => (mark name).isPrefixOf cs with
    | none => exact absurd start (List.find?_eq_none.mp found' n ((same n).mpr listed))
    | some m =>
      have start' : (mark m).isPrefixOf cs = true := by simpa using List.find?_some found'
      rw [unique ((same m).mp (List.mem_of_find?_eq_some found')) listed start' start]

theorem read_congr {names' : List String} (same : ∀ n, n ∈ names' ↔ n ∈ names) (skipped : Nat) (cs : List Char) :
    read names' skipped cs = read names skipped cs := by
  fun_induction read names skipped cs with
  | case1 => rfl
  | case2 n c cs ih => exact ih
  | case3 c cs name found ih =>
    rw [read, find?_mark_congr plain same, found]
    exact congrArg _ ih
  | case4 c cs missing ih =>
    rw [read, find?_mark_congr plain same, missing]
    exact congrArg _ ih

end Template

namespace TestCase

def pathTable (c : TestCase) : NameMap String :=
  (c.operation.parametersIn .path).map fun p => (p.name, c.pathText p)

def pieces (c : TestCase) (segment : String) : List Template.Piece :=
  Template.read c.pathTable.names 0 segment.toList

def fillAtOnce (c : TestCase) (segment : String) : String :=
  String.ofList (Template.fill c.pathTable (c.pieces segment))

variable {c : TestCase}

theorem names_pathTable (c : TestCase) : c.pathTable.names = (c.operation.parametersIn .path).map Parameter.name := by
  simp [pathTable, NameMap.names, Function.comp_def]

theorem toList_fillSegment (c : TestCase) (segment : String) : (c.fillSegment segment).toList =
    c.pathTable.foldl (fun cs e => Text.replaced (placeholder e.1) e.2 cs) segment.toList := by
  unfold fillSegment pathTable
  induction c.operation.parametersIn .path generalizing segment with
  | nil => rfl
  | cons p ps ih =>
    rw [List.foldl_cons, List.map_cons, List.foldl_cons, ih,
      Text.toList_replaceAll (Template.placeholder_ne_empty p.name)]

theorem fillSegment_eq_fillAtOnce_iff (c : TestCase) (segment : String) :
    c.fillSegment segment = c.fillAtOnce segment ↔
      c.pathTable.foldl (fun cs e => Text.replaced (placeholder e.1) e.2 cs) (Template.fill [] (c.pieces segment)) =
        Template.fill c.pathTable (c.pieces segment) := by
  have text : Template.fill [] (c.pieces segment) = segment.toList :=
    (Template.reads_read c.pathTable.names 0 segment.toList).2
  rw [← String.toList_inj, toList_fillSegment, text, fillAtOnce, String.toList_ofList]

theorem fillSegment_of_undisturbed (plain : ∀ n ∈ c.pathTable.names, Template.PlainName n)
    (distinct : c.pathTable.names.Nodup) {segment : String}
    (steady : Template.Undisturbed c.pathTable (c.pieces segment)) :
    c.fillSegment segment = c.fillAtOnce segment := by
  have reads := (Template.reads_read c.pathTable.names 0 segment.toList).1
  rw [fillSegment_eq_fillAtOnce_iff]
  exact Template.foldl_replaced plain reads (fun e member => List.mem_map_of_mem member) distinct steady

theorem fillSegment_of_no_braces (plain : ∀ n ∈ c.pathTable.names, Template.PlainName n)
    (distinct : c.pathTable.names.Nodup) (values : ∀ e ∈ c.pathTable, '\x7b' ∉ e.2.toList) {segment : String}
    (letters : Template.Piece.letter '\x7b' ∉ c.pieces segment) : c.fillSegment segment = c.fillAtOnce segment := by
  have reads := (Template.reads_read c.pathTable.names 0 segment.toList).1
  refine fillSegment_of_undisturbed plain distinct ?_
  exact Template.undisturbed_of_no_braces plain reads (fun e member => List.mem_map_of_mem member) distinct values letters

theorem pieces_perm {c' : TestCase} (plain : ∀ n ∈ c.pathTable.names, Template.PlainName n)
    (reordered : c'.pathTable.Perm c.pathTable) (segment : String) : c'.pieces segment = c.pieces segment :=
  Template.read_congr plain (fun _ => (reordered.map Prod.fst).mem_iff) 0 segment.toList

theorem fillAtOnce_perm {c' : TestCase} (plain : ∀ n ∈ c.pathTable.names, Template.PlainName n)
    (distinct : c.pathTable.names.Nodup) (reordered : c'.pathTable.Perm c.pathTable) (segment : String) :
    c'.fillAtOnce segment = c.fillAtOnce segment := by
  rw [fillAtOnce, fillAtOnce, pieces_perm plain reordered, Template.fill_congr fun m _ => ?_]
  rw [Template.Piece.filled, NameMap.get?_perm distinct reordered, Template.Piece.filled]

-- A case with the given texts in the path.
theorem exists_pathTable (op : Operation) (text : String → String) :
    ∃ c : TestCase, c.operation = op ∧
      c.pathTable = ((op.parametersIn .path).map Parameter.name).map fun name => (name, text name) := by
  let value (p : Parameter) : ParameterValue := ⟨p.name, .path, .string (text p.name)⟩
  let c : TestCase :=
    { id := "", index := 0, operation := op, target := none, kind := .minimal
      values := (op.parametersIn .path).map value }
  have sent (p : Parameter) (listed : p ∈ op.parametersIn .path) : c.pathText p = text p.name := by
    have here : value p ∈ c.values := List.mem_map_of_mem listed
    cases found : c.values.find? fun v => v.name == p.name && v.location == .path with
    | none => exact absurd (List.find?_eq_none.mp found _ here) (by simp [value])
    | some v =>
      obtain ⟨q, -, rfl⟩ := List.mem_map.mp (List.mem_of_find?_eq_some found)
      have same : q.name = p.name := by simpa [value] using List.find?_some found
      rw [pathText, value?, found, ← same]
      rfl
  refine ⟨c, rfl, ?_⟩
  rw [List.map_map]
  exact List.map_congr_left fun p listed => congrArg (Prod.mk p.name) (sent p listed)

theorem containsText_placeholder_iff {names : List String} (plain : ∀ n ∈ names, Template.PlainName n) {n : String}
    (listed : n ∈ names) (segment : String) :
    Text.containsText (placeholder n) segment = true ↔ Template.Piece.hole n ∈ Template.read names 0 segment.toList := by
  obtain ⟨reads, text⟩ := Template.reads_read names 0 segment.toList
  have count := Template.occurrences_eq_count plain reads listed
  rw [text, List.drop_zero] at count
  rw [Text.containsText, Text.occurs_iff (Text.toList_ne_nil (Template.placeholder_ne_empty n)), ← List.count_pos_iff,
    ← count]
  rfl

-- Values are put in place of names that have no placeholder, up to the last one.
theorem fillSegment_of_last (plain : ∀ n ∈ c.pathTable.names, Template.PlainName n) (distinct : c.pathTable.names.Nodup)
    {segment : String}
    (last : ∀ p ∈ (c.operation.parametersIn .path).dropLast, Text.containsText (placeholder p.name) segment = false) :
    c.fillSegment segment = c.fillAtOnce segment := by
  refine fillSegment_of_undisturbed plain distinct fun before e after whole => ?_
  rw [Template.fill_eq_of_not_mem fun e' member hole => ?_]
  have early : e' ∈ c.pathTable.dropLast := by
    rw [whole, List.dropLast_append_of_ne_nil (List.cons_ne_nil e after)]
    exact List.mem_append_left _ member
  rw [pathTable, ← List.map_dropLast] at early
  obtain ⟨p, listed, rfl⟩ := List.mem_map.mp early
  have name : p.name ∈ c.pathTable.names := by
    rw [names_pathTable]
    exact List.mem_map_of_mem (List.dropLast_subset _ listed)
  exact absurd ((containsText_placeholder_iff plain name segment).mpr hole) (by simp [last p listed])

theorem exists_fillSegment_ne {op : Operation} (distinct : ((op.parametersIn .path).map Parameter.name).Nodup)
    (plain : ∀ n ∈ (op.parametersIn .path).map Parameter.name, Template.PlainName n) {p q : Parameter}
    {before between : List Parameter} (whole : op.parametersIn .path = before ++ p :: (between ++ [q]))
    {segment : String} (here : Text.containsText (placeholder p.name) segment = true) :
    ∃ c : TestCase, c.operation = op ∧ c.fillSegment segment ≠ c.fillAtOnce segment := by
  obtain ⟨c, own, table⟩ := exists_pathTable op fun name => (Template.misled p.name q.name name).2
  have names := c.names_pathTable
  rw [own] at names
  have listed : p.name ∈ (op.parametersIn .path).map Parameter.name := List.mem_map_of_mem (by simp [whole])
  have hole := (containsText_placeholder_iff plain listed segment).mp here
  have shape : (op.parametersIn .path).map Parameter.name =
      before.map Parameter.name ++ p.name :: (between.map Parameter.name ++ [q.name]) := by
    simp [whole]
  refine ⟨c, own, fun same => ?_⟩
  rw [fillSegment_eq_fillAtOnce_iff, pieces, names, table] at same
  exact Template.foldl_misled_ne plain (Template.reads_read _ 0 segment.toList).1 distinct shape hole same

/-- Values are put in place one after another. Where no value makes a new placeholder for a later name, this is the same
as all at once; so it is, in every order, where neither the values nor the rest of the segment have an opening brace.
It is the same for all cases of an operation if and only if only the last of its parameters has a placeholder there. -/
theorem fills_at_once_iff {op : Operation} (distinct : ((op.parametersIn .path).map Parameter.name).Nodup)
    (plain : ∀ p ∈ op.parametersIn .path, Template.PlainName p.name) (segment : String) :
    (∀ c : TestCase, c.operation = op →
      (Template.Undisturbed c.pathTable (c.pieces segment) → c.fillSegment segment = c.fillAtOnce segment) ∧
      ((∀ e ∈ c.pathTable, '\x7b' ∉ e.2.toList) → Template.Piece.letter '\x7b' ∉ c.pieces segment →
        ∀ c' : TestCase, c'.pathTable.Perm c.pathTable → c'.fillSegment segment = c.fillAtOnce segment) ∧
      ∀ c' : TestCase, c'.pathTable.Perm c.pathTable → c'.fillAtOnce segment = c.fillAtOnce segment) ∧
    ((∀ c : TestCase, c.operation = op → c.fillSegment segment = c.fillAtOnce segment) ↔
      ∀ p ∈ (op.parametersIn .path).dropLast, Text.containsText (placeholder p.name) segment = false) := by
  have plain' : ∀ n ∈ (op.parametersIn .path).map Parameter.name, Template.PlainName n := List.forall_mem_map.mpr plain
  have order {c : TestCase} (own : c.operation = op) : c.pathTable.names = (op.parametersIn .path).map Parameter.name := by
    rw [names_pathTable, own]
  refine ⟨fun c own => ?_, ?_, ?_⟩
  · rw [← order own] at plain' distinct
    refine ⟨fillSegment_of_undisturbed plain' distinct, fun values letters c' reordered => ?_,
      fun c' reordered => fillAtOnce_perm plain' distinct reordered segment⟩
    have names := reordered.map Prod.fst
    rw [← pieces_perm plain' reordered] at letters
    rw [← fillAtOnce_perm plain' distinct reordered]
    exact fillSegment_of_no_braces (fun n member => plain' n (names.mem_iff.mp member)) (names.nodup_iff.mpr distinct)
      (fun e member => values e (reordered.mem_iff.mp member)) letters
  · intro all p early
    rw [← Bool.not_eq_true]
    intro here
    obtain ⟨before, between, shape⟩ := List.append_of_mem early
    have nonempty : op.parametersIn .path ≠ [] := List.ne_nil_of_mem (List.dropLast_subset _ early)
    have whole : op.parametersIn .path = before ++ p :: (between ++ [(op.parametersIn .path).getLast nonempty]) := by
      rw [← List.cons_append, ← List.append_assoc, ← shape, List.dropLast_append_getLast]
    obtain ⟨c, own, differs⟩ := exists_fillSegment_ne distinct plain' whole here
    exact differs (all c own)
  · intro last c own
    subst own
    rw [← names_pathTable] at plain' distinct
    exact fillSegment_of_last plain' distinct last

end TestCase

def owned : Json :=
  let parameter (name : String) : Json := .object [
    ("in", .string "path"),
    ("name", .string name),
    ("required", .bool true),
    ("schema", .object [("type", .string "string")])]
  .object [
    ("openapi", .string "3.0.0"),
    ("paths", .object [
      ("/notes/\x7bowner\x7d/\x7btag\x7d", .object [
        ("get", .object [
          ("parameters", .array [parameter "owner", parameter "tag"]),
          ("responses", .object [("200", .object [("description", .string "Some notes.")])])])])])]

def ownedSettings : CaseSettings := { pathTexts := [("owner", "\x7btag\x7d"), ("tag", "x")] }

theorem owned_read : ∃ api op c, Document.read owned = .ok api ∧ op ∈ api.operations ∧
    (CasePlan.ofOperation op ownedSettings).case? 0 = some (.ok c) ∧
    (op.parametersIn .path).map Parameter.name = ["owner", "tag"] ∧
    c.fillSegment "\x7bowner\x7d" = "x" ∧ c.fillAtOnce "\x7bowner\x7d" = "\x7btag\x7d" := by
  refine ⟨_, _, _, rfl, List.mem_cons_self, rfl, rfl, ?_, ?_⟩
  · decide +kernel
  · decide +kernel

theorem TestCase.owned_fills_at_once : ∃ api op c, Document.read owned = .ok api ∧ op ∈ api.operations ∧
    (CasePlan.ofOperation op ownedSettings).case? 0 = some (.ok c) ∧
    c.fillSegment "\x7bowner\x7d" = "x" ∧ c.fillAtOnce "\x7bowner\x7d" = "\x7btag\x7d" ∧
    (∀ c' : TestCase, c'.operation = op → c'.fillSegment "\x7btag\x7d" = c'.fillAtOnce "\x7btag\x7d") ∧
    ¬ ∀ c' : TestCase, c'.operation = op → c'.fillSegment "\x7bowner\x7d" = c'.fillAtOnce "\x7bowner\x7d" := by
  obtain ⟨api, op, c, read, member, drawn, names, sequential, atOnce⟩ := owned_read
  have distinct : ((op.parametersIn .path).map Parameter.name).Nodup := by
    rw [names]
    decide
  have plain : ∀ p ∈ op.parametersIn .path, Template.PlainName p.name := by
    refine List.forall_mem_map.mp ?_
    rw [names]
    unfold Template.PlainName
    decide
  have first : (op.parametersIn .path).dropLast.map Parameter.name = ["owner"] := by
    rw [List.map_dropLast, names]
    rfl
  have tag := TestCase.fills_at_once_iff distinct plain "\x7btag\x7d"
  have owner := TestCase.fills_at_once_iff distinct plain "\x7bowner\x7d"
  refine ⟨api, op, c, read, member, drawn, sequential, atOnce, tag.2.mpr ?_, fun all => ?_⟩
  · intro p early
    have name : p.name ∈ (op.parametersIn .path).dropLast.map Parameter.name := List.mem_map_of_mem early
    rw [first, List.mem_singleton] at name
    rw [name]
    decide
  · obtain ⟨p, early, name⟩ := List.mem_map.mp (first ▸ List.mem_singleton_self "owner")
    have absent := owner.2.mp all p early
    rw [name] at absent
    exact absurd absent (by decide)

end SchemaProbe
