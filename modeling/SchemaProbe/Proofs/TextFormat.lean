import SchemaProbe.Proofs.Text.Digit
import SchemaProbe.Proofs.Text.Split
import SchemaProbe.Proofs.ValueType.Fill

set_option autoImplicit false

namespace SchemaProbe

namespace TextFormat

open Draw

theorem part_yields {first last : Nat} (ordered : first ≤ last) :
    (part first last).Yields fun n => first ≤ n ∧ n ≤ last := by
  refine (yields_below (by decide) (Nat.succ_pos _)).bind fun k below => yields_pure ?_
  omega

theorem short_yields : short.Yields (· < 2 ^ 16) :=
  (yields_bits (by decide)).bind fun _ _ => yields_pure (Nat.mod_lt _ (by decide))

def TwoDigits (s : String) : Prop := ∃ a b, s.toList = [a, b] ∧ a.isDigit = true ∧ b.isDigit = true

theorem twoDigits_yields {first last : Nat} (ordered : first ≤ last) (small : last < 100) :
    (twoDigits first last).Yields TwoDigits := by
  refine (part_yields ordered).bind fun n within => yields_pure ?_
  have length : (Text.decimal 2 n).toList.length = 2 := Text.length_decimal (by decide) (by omega)
  have digit {c : Char} : c ∈ (Text.decimal 2 n).toList → c.isDigit = true := Text.isDigit_of_mem_decimal
  obtain ⟨a, b, both⟩ := List.length_eq_two.mp length
  exact ⟨a, b, both, digit (by simp [both]), digit (by simp [both])⟩

theorem isDate_of_parts {year month day : String} (y : TwoDigits year) (m : TwoDigits month) (d : TwoDigits day) :
    isDate ("20" ++ year ++ "-" ++ month ++ "-" ++ day).toList = true := by
  obtain ⟨y1, y2, year, hy1, hy2⟩ := y
  obtain ⟨m1, m2, month, hm1, hm2⟩ := m
  obtain ⟨d1, d2, day, hd1, hd2⟩ := d
  simp [isDate, *]

theorem randomDate_yields : randomDate.Yields fun s => isDate s.toList = true :=
  (twoDigits_yields (by decide) (by decide)).bind fun _ year =>
    (twoDigits_yields (by decide) (by decide)).bind fun _ month =>
      (twoDigits_yields (by decide) (by decide)).bind fun _ day => yields_pure (isDate_of_parts year month day)

theorem length_of_isDate {cs : List Char} (date : isDate cs = true) : cs.length = 10 := by
  unfold isDate at date
  split at date
  next => rfl
  next => cases date

theorem isDateTime_append {date : String} (isDate : isDate date.toList = true) (time : String) :
    isDateTime (date ++ "T" ++ time).toList = true := by
  have length := length_of_isDate isDate
  have text : (date ++ "T" ++ time).toList = date.toList ++ 'T' :: time.toList := by simp
  have next : (date.toList ++ 'T' :: time.toList)[10]? = some 'T' := by
    rw [List.getElem?_append_right (by omega), length]
    rfl
  rw [isDateTime, text, List.take_left' length, isDate, next]
  rfl

theorem randomDateTime_yields : randomDateTime.Yields fun s => isDateTime s.toList = true := by
  refine randomDate_yields.bind fun date isDate => ?_
  refine Yields.after fun hour => Yields.after fun minute => Yields.after fun second => yields_pure ?_
  have text : date ++ "T" ++ hour ++ ":" ++ minute ++ ":" ++ second ++ "Z" =
      date ++ "T" ++ (hour ++ ":" ++ minute ++ ":" ++ second ++ "Z") := by
    simp only [String.append_assoc]
  rw [text]
  exact isDateTime_append isDate _

structure HexGroup (length : Nat) (s : String) : Prop where
  length : s.toList.length = length
  digits : ∀ c ∈ s.toList, Text.isHexDigit c = true

theorem HexGroup.no_dash {length : Nat} {s : String} (group : HexGroup length s) : '-' ∉ s.toList :=
  fun dash => absurd (group.digits _ dash) (by decide)

theorem hexGroup_hex {width n : Nat} (positive : 0 < width) (fits : n < 16 ^ width) :
    HexGroup width (Text.hex width n) :=
  ⟨Text.length_hex positive fits, fun _ => Text.isHexDigit_of_mem_hex⟩

theorem HexGroup.version {length : Nat} {s : String} (group : HexGroup length s) : HexGroup (length + 1) ("4" ++ s) where
  length := by simp [group.length]
  digits := by
    have four : Text.isHexDigit '4' = true := by decide
    simpa [four] using group.digits

theorem isUuid_of_groups {a b c d e : String} (ha : HexGroup 8 a) (hb : HexGroup 4 b) (hc : HexGroup 4 c)
    (hd : HexGroup 4 d) (he : HexGroup 12 e) : isUuid (a ++ "-" ++ b ++ "-" ++ c ++ "-" ++ d ++ "-" ++ e) = true := by
  have joined : a ++ "-" ++ b ++ "-" ++ c ++ "-" ++ d ++ "-" ++ e =
      (String.singleton '-').intercalate [a, b, c, d, e] := by
    simp [String.intercalate_cons_cons, String.append_assoc]
  have apart : ∀ t ∈ [a, b, c, d, e], '-' ∉ t.toList := by
    simp only [List.forall_mem_cons]
    exact ⟨ha.no_dash, hb.no_dash, hc.no_dash, hd.no_dash, he.no_dash, by simp⟩
  have digits : [a, b, c, d, e].all (fun t => t.toList.all Text.isHexDigit) = true := by
    simp only [List.all_cons, List.all_nil, Bool.and_eq_true, List.all_eq_true]
    exact ⟨ha.digits, hb.digits, hc.digits, hd.digits, he.digits, trivial⟩
  rw [joined, isUuid, Text.splitOn_intercalate (by simp) apart, List.all_map]
  simp only [List.map_cons, List.map_nil, ha.length, hb.length, hc.length, hd.length, he.length]
  exact digits

theorem randomUuid_yields : randomUuid.Yields fun s => isUuid s = true := by
  refine (yields_bits (by decide)).bind fun a ha => ?_
  refine short_yields.bind fun b hb => short_yields.bind fun c hc => short_yields.bind fun d hd => ?_
  refine yields_word.bind fun e he => yields_pure ?_
  have version : ("-4" : String) = "-" ++ "4" := rfl
  have first : HexGroup 8 (Text.hex 8 a) := hexGroup_hex (by decide) ha
  have second : HexGroup 4 (Text.hex 4 b) := hexGroup_hex (by decide) hb
  have third : HexGroup 3 (Text.hex 3 (c % 2 ^ 12)) := hexGroup_hex (by decide) (Nat.mod_lt _ (by decide))
  have fourth : HexGroup 4 (Text.hex 4 (d % 2 ^ 14 + 2 ^ 15)) := hexGroup_hex (by decide) (by omega)
  have fifth : HexGroup 12 (Text.hex 12 (e.toNat % 2 ^ 48)) := hexGroup_hex (by decide) (Nat.mod_lt _ (by decide))
  have uuid := isUuid_of_groups first second third.version fourth fifth
  simpa only [version, String.append_assoc] using uuid

theorem readByte?_toString {n : Nat} (small : n ≤ 255) {rest : List Char}
    (stop : ∀ c, rest.head? = some c → c.isDigit = false) : readByte? ((toString n).toList ++ rest) = some rest := by
  have digit (c : Char) (member : c ∈ Nat.toDigits 10 n) : c.isDigit = true :=
    Nat.isDigit_of_mem_toDigits (by decide) (by decide) member
  have stopped : rest.takeWhile Char.isDigit = [] ∧ rest.dropWhile Char.isDigit = rest := by
    cases rest with
    | nil => exact ⟨rfl, rfl⟩
    | cons c cs => simp [stop c rfl]
  have short : (Nat.toDigits 10 n).length ≤ 3 := (Nat.length_toDigits_le_iff (by decide) (by decide)).mpr (by omega)
  have plain : 1 < (Nat.toDigits 10 n).length → (Nat.toDigits 10 n).head? ≠ some '0' := by
    intro long
    refine Text.head?_toDigits_ne_zero (Nat.pos_of_ne_zero ?_)
    rintro rfl
    simp at long
  rw [Text.toList_toString, readByte?, List.takeWhile_append_of_pos digit, List.dropWhile_append_of_pos digit,
    stopped.1, stopped.2, List.append_nil, Text.natOfDigits_toDigits]
  refine if_neg ?_
  simp only [Bool.or_eq_true, Bool.and_eq_true, decide_eq_true_eq, beq_iff_eq, List.isEmpty_iff, Nat.toDigits_ne_nil,
    false_or]
  rintro ((long | ⟨two, zero⟩) | large)
  · omega
  · exact plain two zero
  · omega

theorem randomIpv4_yields : randomIpv4.Yields fun s => isIpv4 s = true := by
  refine (part_yields (by decide)).bind fun a ha => (part_yields (by decide)).bind fun b hb =>
    (part_yields (by decide)).bind fun c hc => yields_pure ?_
  have text : ("10." ++ toString a ++ "." ++ toString b ++ "." ++ toString c).toList =
      (toString 10).toList ++ '.' :: ((toString a).toList ++ '.' :: ((toString b).toList ++ '.' ::
        ((toString c).toList ++ []))) := by
    have ten : Nat.toDigits 10 10 = ['1', '0'] := by decide
    simp [ten]
  have stop (cs : List Char) : ∀ d, ('.' :: cs).head? = some d → d.isDigit = false := by
    intro d first
    rw [List.head?_cons, Option.some_inj] at first
    exact first ▸ by decide
  have last : readByte? ((toString c).toList ++ []) = some [] := readByte?_toString (by omega) (by simp)
  have read : readIpv4? ((toString 10).toList ++ '.' :: ((toString a).toList ++ '.' :: ((toString b).toList ++ '.' ::
        ((toString c).toList ++ [])))) = some [] := by
    simp only [readIpv4?, readByte?_toString (n := 10) (by decide) (stop _), readByte?_toString ha.2 (stop _),
      readByte?_toString hb.2 (stop _), last, readDot?, Option.bind_eq_bind, Option.bind_some]
  rw [isIpv4, text, read]
  rfl

theorem randomEmail_yields : randomEmail.Yields fun s => isEmail s = true := by
  refine Yields.after fun n => yields_pure ?_
  have apart : '@' ∉ ("user" ++ toString n).toList := by
    rw [String.toList_append, List.mem_append, not_or]
    exact ⟨by decide, fun at' => absurd (Text.isDigit_of_mem_toString at') (by decide)⟩
  have text : "user" ++ toString n ++ "@example.com" =
      "user" ++ toString n ++ String.singleton '@' ++ "example.com" := by
    simp only [String.append_assoc]
    rfl
  have host : ("example.com".toList.contains '.') = true := by decide
  have named : "user" ++ toString n ≠ "" := by simp
  rw [text, isEmail, Text.splitOnce?_append apart]
  simp only [host, Bool.and_true, bne_iff_ne]
  exact named

theorem accepts_sample {format s : String} (sample : sample? format = some s) : accepts format s = true := by
  unfold sample? at sample
  split at sample
  all_goals cases sample
  all_goals decide +kernel

theorem random?_yields (format : String) : (random? format).Yields fun out =>
    out.isSome = (sample? format).isSome ∧ ∀ s, out = some s → accepts format s = true := by
  have made {d : Draw String} {P : String → Prop} (yields : d.Yields P) (known : (sample? format).isSome = true)
      (holds : ∀ s, P s → accepts format s = true) : (some <$> d).Yields fun out =>
        out.isSome = (sample? format).isSome ∧ ∀ s, out = some s → accepts format s = true := by
    refine yields.bind fun s text => yields_pure ⟨known.symm, ?_⟩
    exact fun t same => Option.some.inj same ▸ holds s text
  unfold random?
  split
  next => exact made randomEmail_yields rfl fun s => id
  next => exact made randomUuid_yields rfl fun s => id
  next => exact made randomDate_yields rfl fun s => id
  next => exact made randomDateTime_yields rfl fun s => id
  next => exact made randomIpv4_yields rfl fun s => id
  next => exact yields_pure ⟨rfl, fun s => accepts_sample⟩

end TextFormat

namespace Sample

theorem retry_of_accepted {t : ValueType} {room tries : Nat} {once : Draw (Option Json)} {source next : RandomSource}
    {v : Json} (drawn : once source = .ok (some v, next)) (accepted : t.accepts v = true) :
    retry t room once (tries + 1) source = .ok (some v, next) := by
  change (once source >>= fun r => _) = _
  rw [drawn]
  change (if t.accepts v then _ else _ : Draw (Option Json)) next = _
  rw [if_pos accepted]
  rfl

def formatted (nullable : Bool) (format : String) (examples : List String) : ValueType :=
  .text nullable { format := some format, examples }

variable {nullable : Bool} {format : String} {examples : List String}

theorem accepts_formatted (s : String) :
    (formatted nullable format examples).accepts (.string s) = TextFormat.accepts format s := by
  simp [formatted, ValueType.accepts, Json.string?, TextRule.accepts]

theorem representatives_formatted {s : String} (sample : TextFormat.sample? format = some s) :
    representatives (formatted nullable format examples) ≠ [] := by
  have proposed : .string s ∈ texts { format := some format, examples } := by simp [texts, sample]
  exact acceptedOnce_ne_nil proposed ((accepts_formatted s).trans (TextFormat.accepts_sample sample))

theorem fill_formatted (known : (TextFormat.sample? format).isSome = true) (source : RandomSource) :
    ∃ s next, propose (formatted nullable format examples) (deepest + 1) source = .ok (some (.string s), next) ∧
      (formatted nullable format examples).accepts (.string s) = true ∧
      fill (formatted nullable format examples) .random source = .ok (some (.string s), next) := by
  obtain ⟨out, next, drawn⟩ := TextFormat.random?_succeeds format source
  obtain ⟨given, passes⟩ := TextFormat.random?_yields format source out next drawn
  obtain ⟨s, rfl⟩ := Option.isSome_iff_exists.mp (given.trans known)
  have proposed : propose (formatted nullable format examples) (deepest + 1) source =
      .ok (some (.string s), next) := by
    change (TextFormat.random? format source >>= fun r => _) = _
    rw [drawn]
    rfl
  have accepted : (formatted nullable format examples).accepts (.string s) = true :=
    (accepts_formatted s).trans (passes s rfl)
  exact ⟨s, next, proposed, accepted, retry_of_accepted proposed accepted⟩

end Sample

/-- Texts made up for a format, at random or as its sample, pass the test of the format. A type of texts of a known
format therefore has a representative, and a random fill takes the first text that it draws. -/
theorem TextFormat.generated_accepted (format : String) :
    (∀ source, ∃ out next, random? format source = .ok (out, next) ∧ out.isSome = (sample? format).isSome ∧
      ∀ s, out = some s → accepts format s = true) ∧
    (∀ s, sample? format = some s → accepts format s = true) ∧
    ((sample? format).isSome = true → ∀ nullable examples,
      Sample.representatives (Sample.formatted nullable format examples) ≠ [] ∧
      ∀ source, ∃ s next,
        Sample.propose (Sample.formatted nullable format examples) (Sample.deepest + 1) source =
          .ok (some (.string s), next) ∧
        (Sample.formatted nullable format examples).accepts (.string s) = true ∧
        Sample.fill (Sample.formatted nullable format examples) .random source = .ok (some (.string s), next)) := by
  refine ⟨fun source => ?_, fun s => accepts_sample, fun known nullable examples => ⟨?_, Sample.fill_formatted known⟩⟩
  · obtain ⟨out, next, drawn⟩ := random?_succeeds format source
    exact ⟨out, next, drawn, random?_yields format source out next drawn⟩
  · obtain ⟨s, sample⟩ := Option.isSome_iff_exists.mp known
    exact Sample.representatives_formatted sample

theorem TextFormat.uuid_generated_accepted : (sample? "uuid").isSome = true ∧ ∃ s next,
    Sample.fill (Sample.formatted false "uuid" []) .random (RandomSource.ofSeed 7) = .ok (some (.string s), next) ∧
      isUuid s = true := by
  obtain ⟨-, -, typed⟩ := generated_accepted "uuid"
  obtain ⟨-, filled⟩ := typed rfl false []
  obtain ⟨s, next, -, accepted, taken⟩ := filled (RandomSource.ofSeed 7)
  exact ⟨rfl, s, next, taken, (Sample.accepts_formatted s).symm.trans accepted⟩

end SchemaProbe
