import SchemaProbe.Case.Plan
import SchemaProbe.Check.Judge
import SchemaProbe.Exchange.Request
import SchemaProbe.Proofs.Text.Digit
import SchemaProbe.Proofs.Text.Split
import SchemaProbe.Proofs.ValueType.Choices

set_option autoImplicit false

namespace SchemaProbe

-- Every integer in the value fits 64 bits, signed or unsigned, as in every value that was read.
inductive Json.Fits : Json → Prop where
  | null : Fits .null
  | bool (b : Bool) : Fits (.bool b)
  | integer {i : Int} (low : Number.smallestSigned ≤ i) (high : i ≤ Number.largestUnsigned) : Fits (.ofInt i)
  | float (x : Binary64) : Fits (.number (.float x))
  | string (s : String) : Fits (.string s)
  | array {xs : List Json} (each : ∀ x ∈ xs, Fits x) : Fits (.array xs)
  | object {ms : Members} (each : ∀ m ∈ ms, Fits m.2) : Fits (.object ms)

namespace Json

inductive Word : Json → Prop where
  | integer (i : Int) : Word (.ofInt i)
  | bool (b : Bool) : Word (.bool b)

-- The text of a word is never empty, and it has neither commas nor blanks.
theorem Word.written_ne_empty {v : Json} (word : v.Word) : v.written ≠ "" := by
  cases word with
  | integer i =>
    intro empty
    have digits : (toString i).toList = [] := congrArg String.toList empty
    rw [Text.toList_toString_int] at digits
    exact Nat.toDigits_ne_nil (List.append_eq_nil_iff.mp digits).2
  | bool b => cases b <;> decide

theorem Word.written_solid {v : Json} (word : v.Word) :
    ∀ c ∈ v.written.toList, c ≠ ',' ∧ Category.isBlank c = false := by
  cases word with
  | integer i =>
    intro c member
    change c ∈ (toString i).toList at member
    rw [Text.toList_toString_int, List.mem_append] at member
    rcases member with sign | digit
    · split at sign
      next => exact List.mem_singleton.mp sign ▸ by decide
      next => simp at sign
    · have isDigit := Nat.isDigit_of_mem_toDigits (by decide) (by decide) digit
      refine ⟨fun comma => absurd (comma ▸ isDigit) (by decide), ?_⟩
      rw [← Bool.not_eq_true]
      intro blank
      simp [Category.not_isDigit_of_isBlank blank] at isDigit
  | bool b =>
    have all : ∀ b, (Json.bool b).written.toList.all (fun c => c != ',' && !Category.isBlank c) = true := by decide
    intro c member
    simpa using List.all_eq_true.mp (all b) c member

theorem rendered_of_not_array {v : Json} (single : ∀ xs, v ≠ .array xs) (style : ListStyle) :
    v.rendered style = v.written := by
  cases v with
  | array xs => exact absurd rfl (single xs)
  | _ => rfl

end Json

namespace ValueType

theorem accepts_array {n : Bool} {items : ValueType} {r : ArrayRule} {v : Json} (present : v ≠ .null)
    (accepted : (array n items r).accepts v = true) :
    ∃ xs, v = .array xs ∧ r.accepts xs = true ∧ ∀ x ∈ xs, items.accepts x = true := by
  cases v with
  | null => exact absurd rfl present
  | array xs =>
    refine ⟨xs, rfl, ?_⟩
    simpa [accepts, Json.array?] using accepted
  | _ => simp [accepts, Json.array?] at accepted

theorem readInteger_written {i : Int} (low : Number.smallestSigned ≤ i) (high : i ≤ Number.largestSigned) :
    readInteger (Json.ofInt i).written = .ofInt i := by
  have trimmed : Text.trim (Json.ofInt i).written = toString i :=
    Text.trim_eq_self fun c member => ((Json.Word.integer i).written_solid c member).2
  rw [readInteger, trimmed, Text.int?_toString]
  exact if_pos ⟨low, high⟩

theorem readBoolean_written (b : Bool) : readBoolean (Json.bool b).written = .bool b := by
  have trimmed : Text.trim (Json.bool b).written = (Json.bool b).written :=
    Text.trim_eq_self fun c member => ((Json.Word.bool b).written_solid c member).2
  rw [readBoolean, trimmed]
  cases b <;> rfl

def isWord : ValueType → Bool
  | integer .. | boolean .. => true
  | _ => false

theorem read_word {t : ValueType} (word : t.isWord = true) {v : Json} (fits : v.Fits) (present : v ≠ .null)
    (accepted : t.accepts v = true) : v.Word ∧ t.read v.written = v := by
  cases t with
  | integer n r =>
    have taken : (integer n r).accepts v = v.int?.any r.accepts := by
      cases v <;> first | rfl | exact absurd rfl present
    rw [taken, Option.any_eq_true] at accepted
    obtain ⟨i, read, -⟩ := accepted
    obtain ⟨rfl, high⟩ := int?_eq_some_iff.mp read
    cases fits with | integer low _ =>
    exact ⟨.integer i, readInteger_written low high⟩
  | boolean n =>
    cases v with
    | bool b => exact ⟨.bool b, readBoolean_written b⟩
    | null => exact absurd rfl present
    | _ => simp [accepts, Json.isBool] at accepted
  | _ => cases word

theorem read_text {n : Bool} {r : TextRule} {v : Json} (present : v ≠ .null) (accepted : (text n r).accepts v = true) :
    (text n r).read v.written = v := by
  cases v with
  | string s => rfl
  | null => exact absurd rfl present
  | _ => simp [accepts, Json.string?] at accepted

-- Words are parted by the commas between them, and nothing else is.
theorem splitOn_written {xs : List Json} (words : ∀ x ∈ xs, x.Word) :
    (Text.splitOn ',' (",".intercalate (xs.map Json.written))).filter (· != "") = xs.map Json.written := by
  cases xs with
  | nil => decide
  | cons x xs =>
    have parted : Text.splitOn ',' (",".intercalate ((x :: xs).map Json.written)) = (x :: xs).map Json.written := by
      have apart : ∀ t ∈ (x :: xs).map Json.written, ',' ∉ t.toList := by
        intro t member comma
        obtain ⟨w, within, rfl⟩ := List.mem_map.mp member
        exact ((words w within).written_solid ',' comma).1 rfl
      exact Text.splitOn_intercalate (by simp) apart
    rw [parted, List.filter_eq_self]
    intro t member
    obtain ⟨w, within, rfl⟩ := List.mem_map.mp member
    exact bne_iff_ne.mpr (words w within).written_ne_empty

theorem read_list {n : Bool} {items : ValueType} {r : ArrayRule} {xs : List Json} {style : ListStyle}
    (commas : style.separator = ",") (words : ∀ x ∈ xs, x.Word ∧ items.read x.written = x) :
    (array n items r).read ((Json.array xs).rendered style) = .array xs := by
  have back : xs.map (fun x => items.read (Text.trim x.written)) = xs := by
    refine (List.map_congr_left fun x member => ?_).trans (List.map_id xs)
    rw [Text.trim_eq_self fun c within => ((words x member).1.written_solid c within).2, (words x member).2]
    rfl
  rw [Json.rendered, commas, read, splitOn_written fun x member => (words x member).1, List.map_map]
  exact congrArg Json.array back

-- What is read back in a style: text, integers and truth values in all of them, and lists of integers or truth values
-- without nulls where commas stand between the elements.
inductive ToldIn (style : ListStyle) : ValueType → Json → Prop where
  | text (n : Bool) (r : TextRule) (v : Json) : ToldIn style (.text n r) v
  | word {t : ValueType} (word : t.isWord = true) (v : Json) : ToldIn style t v
  | list (n : Bool) {items : ValueType} (r : ArrayRule) {xs : List Json} (word : items.isWord = true)
      (commas : style.separator = ",") (full : .null ∉ xs) : ToldIn style (.array n items r) (.array xs)

/-- A value is read back from its own text. So is a path value that is configured in this text, and a response header
with this text is held against its schema as the value itself. -/
theorem read_rendered {style : ListStyle} {t : ValueType} {v : Json} (told : ToldIn style t v) (fits : v.Fits)
    (present : v ≠ .null) (accepted : t.accepts v = true) :
    t.read (v.rendered style) = v ∧
      ((∀ n items r, t ≠ .array n items r) → t.read v.written = v) ∧
      (∀ (p : Parameter) (settings : CaseSettings), p.location = .path → p.type = t →
        settings.pathTexts.lookup p.name = some (v.rendered style) → Slot.fixedValue settings p = some v) ∧
      ∀ (r : Reply) (h : ResponseHeader) (documented : Json), h.type = t → h.schema = some documented →
        r.headers.get? h.name = some (v.rendered style) →
        (Check.headerFault? r h = none ↔
          JsonSchema.isSchema documented = true ∧ JsonSchema.accepts documented v = true) := by
  have back : t.read (v.rendered style) = v ∧ ((∀ n items r, t ≠ .array n items r) → t.read v.written = v) := by
    cases told with
    | text n r =>
      have whole := read_text present accepted
      cases v with
      | array xs => simp [accepts, Json.string?] at accepted
      | _ => exact ⟨whole, fun _ => whole⟩
    | word word =>
      obtain ⟨isWord, whole⟩ := read_word word fits present accepted
      refine ⟨?_, fun _ => whole⟩
      rwa [Json.rendered_of_not_array (by rintro xs rfl; cases isWord)]
    | list n r word commas full =>
      refine ⟨read_list commas fun x member => ?_, fun single => absurd rfl (single _ _ _)⟩
      obtain ⟨ys, same, -, each⟩ := accepts_array present accepted
      cases same
      cases fits with | array fit =>
      exact read_word word (fit x member) (fun null => full (null ▸ member)) (each x member)
  refine ⟨back.1, back.2, ?_, ?_⟩
  · rintro p settings place rfl configured
    have wanted : (p.location != .path) = false := by rw [place]; rfl
    simp [Slot.fixedValue, wanted, configured, back.1, accepted]
  · rintro r h documented rfl schema sent
    simp only [Check.headerFault?, schema, sent, back.1]
    split <;> simp_all

def ends : Json := .array [.ofInt Number.smallestSigned, .ofInt 7]

theorem ends_read_rendered : ends.rendered .repeated = "-9223372036854775808,7" ∧
    (array false (integer true {}) {}).read "-9223372036854775808,7" = ends := by
  have text : ends.rendered .repeated = "-9223372036854775808,7" := by decide +kernel
  have fits : ends.Fits := .array fun x member => by
    have either : x = .ofInt Number.smallestSigned ∨ x = .ofInt 7 := by simpa using member
    rcases either with rfl | rfl <;> exact .integer (by decide) (by decide)
  have told : ToldIn .repeated (array false (integer true {}) {}) ends :=
    .list false {} rfl rfl (by simp [Json.ofInt])
  exact ⟨text, text ▸ (read_rendered told fits nofun (by decide +kernel)).1⟩

end ValueType

end SchemaProbe
