import Mathlib.Data.String.Basic
import SchemaProbe.Exchange.Record

set_option autoImplicit false

namespace SchemaProbe.Excerpt

-- The character that holds the byte at a place, with the texts before and behind it.
structure Around (body : String) (place : Nat) (before : String) (c : Char) (behind : String) : Prop where
  text : body = before ++ String.singleton c ++ behind
  starts : Text.byteLength before ≤ place
  ends : place < Text.byteLength before + c.utf8Size

-- The induction is on the text from its end: the byte stands before the last character, or belongs to it.
theorem exists_around {body : String} {place : Nat} (within : place < Text.byteLength body) :
    ∃ before c behind, Around body place before c behind := by
  induction body using String.push_induction with
  | empty => simp [Text.byteLength] at within
  | push body last ih =>
    rcases Nat.lt_or_ge place (Text.byteLength body) with earlier | here
    · obtain ⟨before, c, behind, around⟩ := ih earlier
      refine ⟨before, c, behind.push last, ⟨?_, around.starts, around.ends⟩⟩
      rw [← String.append_singleton, ← String.append_singleton, ← String.append_assoc, ← around.text]
    · refine ⟨body, last, "", ⟨by simp, here, ?_⟩⟩
      simpa [Text.byteLength] using within

theorem back_le (body : String) (n : Nat) : back body n ≤ n := by
  induction n with
  | zero => exact Nat.le_refl 0
  | succ n ih =>
    rw [back]
    split
    · exact Nat.le_refl _
    · exact Nat.le_succ_of_le ih

theorem le_back {body : String} {n place : Nat} (between : String.Pos.Raw.IsValid body ⟨place⟩) (le : place ≤ n) :
    place ≤ back body n := by
  induction n with
  | zero => exact le
  | succ n ih =>
    rw [back]
    split
    next => exact le
    next inside =>
      have other : place ≠ n + 1 := by
        rintro rfl
        exact inside (String.Pos.Raw.isValid_eq_true_iff.mpr between)
      exact ih (by omega)

theorem isValid_append (before behind : String) :
    String.Pos.Raw.IsValid (before ++ behind) ⟨Text.byteLength before⟩ :=
  String.Pos.Raw.isValid_iff_exists_append.mpr ⟨before, behind, rfl, rfl⟩

namespace Around

variable {body before behind : String} {place : Nat} {c : Char}

theorem isValid_before (around : Around body place before c behind) :
    String.Pos.Raw.IsValid body ⟨Text.byteLength before⟩ := by
  rw [around.text, String.append_assoc]
  exact isValid_append _ _

-- The bytes of a character but the first are no places to cut at.
theorem not_isValid (around : Around body place before c behind) {p : Nat} (low : Text.byteLength before < p)
    (high : p < Text.byteLength before + c.utf8Size) : ¬ String.Pos.Raw.IsValid body ⟨p⟩ := by
  rw [around.text, String.append_assoc, String.Pos.Raw.isValid_append, String.Pos.Raw.isValid_append,
    String.Pos.Raw.isValid_singleton]
  simp only [Text.byteLength] at low high
  rintro (first | ⟨-, (start | stop) | ⟨later, -⟩⟩)
  · have le : p ≤ before.utf8ByteSize := first.le_utf8ByteSize
    omega
  · have none : p - before.utf8ByteSize = 0 := congrArg String.Pos.Raw.byteIdx start
    omega
  · have all : p - before.utf8ByteSize = c.utf8Size := stop
    omega
  · have beyond : c.utf8Size ≤ p - before.utf8ByteSize := by simpa [String.Pos.Raw.le_iff] using later
    omega

theorem back_eq (around : Around body place before c behind) : back body place = Text.byteLength before := by
  have reached : Text.byteLength before ≤ back body place := le_back around.isValid_before around.starts
  refine Nat.le_antisymm (Nat.le_of_not_lt fun low => ?_) reached
  exact around.not_isValid low (Nat.lt_of_le_of_lt (back_le body place) around.ends) (isValid_back body place)

theorem kept_eq (around : Around body largest before c behind) : kept body = before := by
  have cut : (body.pos ⟨back body largest⟩ (isValid_back body largest)).Splits before (String.singleton c ++ behind) :=
    { eq_append := by rw [← String.append_assoc, ← around.text]
      offset_eq_rawEndPos := congrArg String.Pos.Raw.mk around.back_eq }
  exact (String.Pos.splits _).eq_left cut

end Around

-- The longest text of whole characters that a body begins with and that has no more than some bytes.
structure Longest (most : Nat) (body text : String) : Prop where
  begins : ∃ rest, body = text ++ rest
  fits : Text.byteLength text ≤ most
  longest : ∀ other rest, body = other ++ rest → Text.byteLength other ≤ most → ∃ more, text = other ++ more

theorem exists_append_of_byteLength_le {a b c d : String} (same : a ++ b = c ++ d)
    (le : Text.byteLength a ≤ Text.byteLength c) : ∃ more, c = a ++ more := by
  have lists : a.toList ++ b.toList = c.toList ++ d.toList := by
    rw [← String.toList_append, same, String.toList_append]
  rcases List.append_eq_append_iff.mp lists with ⟨more, whole, -⟩ | ⟨more, whole, -⟩
  · exact ⟨String.ofList more, by rw [← String.toList_inj, whole]; simp⟩
  · have sizes : Text.byteLength a = Text.byteLength c + String.utf8Len more := by
      simp only [Text.byteLength, ← String.utf8Len_toList, whole, String.utf8Len_append]
    have nothing : more = [] := String.utf8Len_eq_zero.mp (by omega)
    exact ⟨"", by rw [← String.toList_inj, String.append_empty, whole, nothing, List.append_nil]⟩

theorem Around.longest {body before behind : String} {place : Nat} {c : Char}
    (around : Around body place before c behind) : Longest place body before where
  begins := ⟨String.singleton c ++ behind, by rw [← String.append_assoc, ← around.text]⟩
  fits := around.starts
  longest other rest whole fits := by
    have between : String.Pos.Raw.IsValid body ⟨Text.byteLength other⟩ := whole ▸ isValid_append other rest
    have le : Text.byteLength other ≤ Text.byteLength before := around.back_eq ▸ le_back between fits
    have same : other ++ rest = before ++ (String.singleton c ++ behind) := by
      rw [← whole, around.text, String.append_assoc]
    exact exists_append_of_byteLength_le same le

/-- How the search for the end of an excerpt goes: no place that it passes is one to cut at, the one that it finds is,
and what stands between that place and the limit belongs to one character. -/
structure Search (body : String) : Prop where
  found : String.Pos.Raw.IsValid body ⟨back body largest⟩
  passed : ∀ place, back body largest < place → place ≤ largest → ¬ String.Pos.Raw.IsValid body ⟨place⟩
  near : back body largest ≤ largest ∧ largest ≤ back body largest + 3
  lost : ∃ c behind, body = kept body ++ String.singleton c ++ behind ∧
    Text.byteLength (kept body) = back body largest ∧ largest < back body largest + c.utf8Size

theorem search {body : String} (long : largest < Text.byteLength body) : Search body := by
  obtain ⟨before, c, behind, around⟩ := exists_around long
  have four := c.utf8Size_le_four
  have ends := around.ends
  have start := around.back_eq
  refine ⟨isValid_back body largest, fun place low high => ?_, ⟨back_le body largest, by omega⟩, c, behind, ?_⟩
  · exact around.not_isValid (start ▸ low) (Nat.lt_of_le_of_lt high ends)
  · rw [around.kept_eq, start]
    exact ⟨around.text, rfl, ends⟩

theorem kept_longest {body : String} (long : largest < Text.byteLength body) : Longest largest body (kept body) := by
  obtain ⟨before, c, behind, around⟩ := exists_around long
  rw [around.kept_eq]
  exact around.longest

theorem not_isEmpty {body : String} (some : 1 ≤ Text.byteLength body) : ¬ body.isEmpty := fun empty =>
  Nat.ne_of_gt some (String.isEmpty_iff_utf8ByteSize_eq_zero.mp empty)

theorem ofBody_eq_none_iff (body : String) : ofBody body = none ↔ body = "" := by
  rw [ofBody, ← String.isEmpty_iff]
  split
  next empty => simp [empty]
  next full => split <;> simp [full]

theorem ofBody_of_le {body : String} (full : 1 ≤ Text.byteLength body) (short : Text.byteLength body ≤ largest) :
    ofBody body = some body := by
  rw [ofBody, if_neg (not_isEmpty full), if_pos short]

theorem ofBody_of_lt {body : String} (long : largest < Text.byteLength body) :
    ofBody body = some (kept body ++ marker body) := by
  rw [ofBody, if_neg (not_isEmpty (Nat.one_le_of_lt long)), if_neg (Nat.not_le_of_lt long)]

theorem ofBody_eq_some_self_iff (body : String) : ofBody body = some body ↔
    1 ≤ Text.byteLength body ∧ Text.byteLength body ≤ largest ∨
      largest < Text.byteLength body ∧ body = kept body ++ marker body := by
  rcases Nat.lt_or_ge largest (Text.byteLength body) with long | short
  · rw [ofBody_of_lt long, Option.some_inj]
    constructor
    · exact fun same => .inr ⟨long, same.symm⟩
    · rintro (⟨-, short⟩ | ⟨-, same⟩)
      · exact absurd short (Nat.not_le_of_lt long)
      · exact same.symm
  · rcases Nat.eq_zero_or_pos (Text.byteLength body) with none | full
    · have empty : body = "" := String.utf8ByteSize_eq_zero_iff.mp none
      simp [(ofBody_eq_none_iff body).mpr empty, none]
    · simp [ofBody_of_le full short, Nat.one_le_of_lt full, short]

theorem byteLength_replicate {c : Char} (single : c.utf8Size = 1) (n : Nat) :
    Text.byteLength (String.ofList (List.replicate n c)) = n := by
  rw [Text.byteLength, String.utf8ByteSize_ofList]
  induction n with
  | zero => rfl
  | succ n ih => rw [List.replicate_succ, String.utf8Len_cons, ih, single]

theorem marked_comes_out {before : String} (size : Text.byteLength before = 4096) :
    Text.byteLength (before ++ "…(4117 bytes total)") = 4117 ∧
      ofBody (before ++ "…(4117 bytes total)") = some (before ++ "…(4117 bytes total)") := by
  have stop : Text.byteLength "…(4117 bytes total)" = 21 := by decide
  have whole : Text.byteLength (before ++ "…(4117 bytes total)") = 4117 := by
    rw [Text.byteLength] at size stop ⊢
    rw [String.utf8ByteSize_append, size, stop]
  have told : marker (before ++ "…(4117 bytes total)") = "…(4117 bytes total)" := by
    rw [marker, whole]
    decide
  have around : Around (before ++ "…(4117 bytes total)") largest before '…' "(4117 bytes total)" :=
    ⟨by rw [String.append_assoc]; rfl, Nat.le_of_eq size, by rw [size]; decide⟩
  have long : largest < Text.byteLength (before ++ "…(4117 bytes total)") := whole ▸ by decide
  exact ⟨whole, by rw [ofBody_of_lt long, around.kept_eq, told]⟩

/-- An empty body is left out, one of up to 4096 bytes is kept as it is, and of a longer one the longest text of whole
characters within 4096 bytes, with a marker that tells its length. A longer body comes out as it went in only if it ends
in that very marker, just behind that text. -/
theorem ofBody_longest (body : String) :
    (ofBody body = none ↔ body = "") ∧
    (ofBody body = some body ↔ 1 ≤ Text.byteLength body ∧ Text.byteLength body ≤ 4096 ∨
      4096 < Text.byteLength body ∧ body = kept body ++ marker body) ∧
    (4096 < Text.byteLength body →
      ofBody body = some (kept body ++ marker body) ∧ Longest 4096 body (kept body) ∧ Search body) :=
  ⟨ofBody_eq_none_iff body, ofBody_eq_some_self_iff body,
    fun long => ⟨ofBody_of_lt long, kept_longest long, search long⟩⟩

def selfMarked : String := String.ofList (List.replicate 4096 'a') ++ "…(4117 bytes total)"

theorem selfMarked_comes_out_whole : Text.byteLength selfMarked = 4117 ∧ ofBody selfMarked = some selfMarked ∧
    ¬ (ofBody selfMarked = some selfMarked ↔
      1 ≤ Text.byteLength selfMarked ∧ Text.byteLength selfMarked ≤ 4096) := by
  have single : 'a'.utf8Size = 1 := by decide
  have marked : Text.byteLength selfMarked = 4117 ∧ ofBody selfMarked = some selfMarked :=
    marked_comes_out (byteLength_replicate single 4096)
  refine ⟨marked.1, marked.2, fun both => ?_⟩
  have short : Text.byteLength selfMarked ≤ 4096 := (both.mp marked.2).2
  have size := marked.1
  omega

end SchemaProbe.Excerpt
