import SchemaProbe.Proofs.Except
import SchemaProbe.Proofs.Url.Query
import SchemaProbe.Url.Reader

set_option autoImplicit false

namespace SchemaProbe

def Text.dropSlash (s : String) : String :=
  if s.toList.getLast? = some '/' then String.ofList s.toList.dropLast else s

theorem Percent.slash_not_mem_encodeChars {kept : Char → Bool} {cs : List Char} (absent : '/' ∉ cs) :
    '/' ∉ encodeChars kept cs := by
  have digit : ∀ n < 16, upperHexDigit n ≠ '/' := by decide
  intro found
  obtain ⟨c, member, here⟩ := List.mem_flatMap.mp found
  split at here
  next =>
    rw [List.mem_singleton.mp here] at absent
    exact absent member
  next =>
    obtain ⟨b, -, within⟩ := List.mem_flatMap.mp here
    have small := b.toNat_lt
    simp only [escapeByte, List.mem_cons, List.not_mem_nil, or_false] at within
    rcases within with percent | high | low
    · cases percent
    · exact digit _ (by omega) high.symm
    · exact digit _ (by omega) low.symm

theorem Percent.encodeChars_eq_self {kept : Char → Bool} {cs : List Char} (all : ∀ c ∈ cs, kept c = true) :
    encodeChars kept cs = cs := by
  induction cs with
  | nil => rfl
  | cons c cs ih =>
    have rest := ih fun d member => all d (List.mem_cons_of_mem c member)
    rw [encodeChars] at rest
    rw [encodeChars, List.flatMap_cons, if_pos (all c List.mem_cons_self), rest, List.singleton_append]

namespace Url

def pathOf (segments : List String) : String := String.join (segments.map ("/" ++ ·))

def Apart (segments : List String) : Prop := ∀ s ∈ segments, '/' ∉ s.toList

variable {segments : List String}

theorem toList_pathOf (segments : List String) :
    (pathOf segments).toList = segments.flatMap fun s => '/' :: s.toList := by
  simp [pathOf, List.flatMap_map]

theorem pathOf_append (before after : List String) : pathOf (before ++ after) = pathOf before ++ pathOf after := by
  simp [← String.toList_inj, toList_pathOf]

theorem splitOn_pathOf (apart : Apart segments) : Text.splitOn '/' (pathOf segments) = "" :: segments := by
  have pieces {s : List Char} {segments : List String} (absent : '/' ∉ s) (apart : Apart segments) :
      Text.splitOn.pieces '/' (s ++ segments.flatMap fun s => '/' :: s.toList) = s :: segments.map String.toList := by
    induction segments generalizing s with
    | nil => rw [List.flatMap_nil, List.append_nil, Text.pieces_of_not_mem absent, List.map_nil]
    | cons t ts ih =>
      rw [List.flatMap_cons, List.cons_append, Text.pieces_append, Text.pieces_of_not_mem absent,
        ih (apart t List.mem_cons_self) fun u member => apart u (List.mem_cons_of_mem t member)]
      rfl
  rw [Text.splitOn, toList_pathOf, ← List.nil_append (segments.flatMap _), pieces List.not_mem_nil apart]
  simp [Function.comp_def]

theorem pathOf_inj {segments' : List String} (apart : Apart segments) (apart' : Apart segments') :
    pathOf segments = pathOf segments' ↔ segments = segments' := by
  constructor
  · intro same
    have split := congrArg (Text.splitOn '/') same
    rw [splitOn_pathOf apart, splitOn_pathOf apart'] at split
    exact (List.cons.inj split).2
  · rintro rfl
    rfl

-- Without an empty segment at the end, which is what a slash there stands before.
def bare (segments : List String) : List String :=
  if segments.getLast? = some "" then segments.dropLast else segments

theorem dropSlash_pathOf (apart : Apart segments) : Text.dropSlash (pathOf segments) = pathOf (bare segments) := by
  rcases List.eq_nil_or_concat segments with rfl | ⟨before, last, rfl⟩
  · rfl
  rw [List.concat_eq_append] at apart ⊢
  rw [bare, List.getLast?_concat, List.dropLast_concat]
  by_cases empty : last = ""
  · subst empty
    simp [Text.dropSlash, pathOf_append, ← String.toList_inj, toList_pathOf]
  · have nonempty : last.toList ≠ [] := by simpa using empty
    obtain ⟨c, ends⟩ : ∃ c, last.toList.getLast? = some c := ⟨_, List.getLast?_eq_some_getLast nonempty⟩
    have behind : (pathOf (before ++ [last])).toList.getLast? = some c := by
      rw [pathOf_append, String.toList_append, toList_pathOf [last], List.flatMap_singleton, ← List.singleton_append,
        ← List.append_assoc, List.getLast?_append, ends, Option.some_or]
    have other : c ≠ '/' := by
      rintro rfl
      exact apart last List.mem_concat_self (List.mem_of_getLast? ends)
    rw [Text.dropSlash, behind, if_neg (by simpa using other), if_neg (by simpa using empty)]

theorem slash_not_mem_pieces {wellKnown : Bool} {cs p : List Char} (member : p ∈ pieces wellKnown cs) : '/' ∉ p := by
  induction cs generalizing p with
  | nil => simp_all [pieces]
  | cons c cs ih =>
    rw [pieces] at member
    split at member
    next =>
      rcases List.mem_cons.mp member with rfl | later
      · exact List.not_mem_nil
      · exact ih later
    next other =>
      have plain : c ≠ '/' := by
        rintro rfl
        exact other rfl
      split at member
      next => simp_all [Ne.symm plain]
      next q qs rest =>
        rcases List.mem_cons.mp member with rfl | later
        · rw [List.mem_cons, not_or]
          exact ⟨Ne.symm plain, ih (rest ▸ List.mem_cons_self)⟩
        · exact ih (rest ▸ List.mem_cons_of_mem q later)

theorem apart_append {added : List String} (apart : Apart segments) (apart' : Apart added) :
    Apart (segments ++ added) := by
  intro s member
  rcases List.mem_append.mp member with before | after
  · exact apart s before
  · exact apart' s after

theorem apart_singleton {s : String} (absent : '/' ∉ s.toList) : Apart [s] := by
  intro t member
  rwa [List.mem_singleton.mp member]

theorem apart_dropLast (apart : Apart segments) : Apart segments.dropLast :=
  fun s member => apart s (List.dropLast_subset _ member)

theorem apart_resolve {done : List String} {ps : List (List Char)} (apart : Apart done) (plain : ∀ p ∈ ps, '/' ∉ p) :
    Apart (resolve done ps) := by
  have empty : Apart [""] := apart_singleton (by simp)
  have encoded {p : List Char} (absent : '/' ∉ p) : Apart [String.ofList (Percent.encodeChars Percent.inPath p)] := by
    refine apart_singleton ?_
    rw [String.toList_ofList]
    exact Percent.slash_not_mem_encodeChars absent
  fun_induction resolve done ps with
  | case1 => exact apart
  | case2 => exact apart_append (apart_dropLast apart) empty
  | case3 => exact apart_append apart empty
  | case4 => exact apart_append apart (encoded (plain _ List.mem_cons_self))
  | case5 done p ps _ _ ih => exact ih (apart_dropLast apart) fun q later => plain q (List.mem_cons_of_mem p later)
  | case6 done p ps _ _ _ ih => exact ih apart fun q later => plain q (List.mem_cons_of_mem p later)
  | case7 done p ps _ _ _ ih =>
    exact ih (apart_append apart (encoded (plain p List.mem_cons_self)))
      fun q later => plain q (List.mem_cons_of_mem p later)

theorem apart_readSegments (wellKnown : Bool) (cs : List Char) : Apart (readSegments wellKnown cs) := by
  have nothing : Apart [] := fun s member => absurd member List.not_mem_nil
  unfold readSegments
  split
  next => cases wellKnown <;> simp [Apart]
  next => exact apart_resolve nothing fun p => slash_not_mem_pieces

theorem exists_of_readAuthority {scheme : String} {cs : List Char} {u : Url}
    (read : readAuthority scheme cs = .ok u) : ∃ authority rest, u = withRest scheme authority rest := by
  unfold readAuthority at read
  dsimp only at read
  split at read
  next =>
    obtain ⟨_, thrown, -⟩ := bind_eq_ok_iff.mp read
    exact absurd thrown throw_ne_ok
  next =>
    obtain ⟨host, -, read⟩ := bind_eq_ok_iff.mp read
    split at read
    next =>
      obtain ⟨_, thrown, -⟩ := bind_eq_ok_iff.mp read
      exact absurd thrown throw_ne_ok
    next =>
      obtain ⟨tcpPort, -, read⟩ := bind_eq_ok_iff.mp read
      exact ⟨_, _, (pure_eq_ok_iff.mp read).symm⟩

theorem exists_of_readFile {cs : List Char} {u : Url} (read : readFile cs = .ok u) :
    ∃ authority rest, u = withRest "file" authority rest := by
  unfold readFile at read
  split at read
  next =>
    split at read
    next =>
      dsimp only at read
      split at read <;>
        · obtain ⟨host, -, read⟩ := bind_eq_ok_iff.mp read
          exact ⟨_, _, (pure_eq_ok_iff.mp read).symm⟩
    next => exact ⟨_, _, (pure_eq_ok_iff.mp read).symm⟩
  next => exact ⟨_, _, (pure_eq_ok_iff.mp read).symm⟩

theorem apart_of_parse {given : String} {u : Url} (parsed : parse given = .ok u) : Apart u.segments := by
  have shape : ∃ scheme authority rest, u = withRest scheme authority rest := by
    unfold parse at parsed
    split at parsed
    next => cases parsed
    next scheme cs _ =>
      split at parsed
      next => exact ⟨_, exists_of_readFile parsed⟩
      next =>
        split at parsed
        next => exact ⟨scheme, exists_of_readAuthority parsed⟩
        next =>
          split at parsed
          next => exact ⟨scheme, exists_of_readAuthority parsed⟩
          next =>
            cases parsed
            exact ⟨scheme, none, _, rfl⟩
          next => cases parsed
  obtain ⟨scheme, authority, rest, rfl⟩ := shape
  exact apart_readSegments _ rest

-- Letters, digits, hyphens and underscores.
def isPlain (c : Char) : Bool := c.isAlphanum || c == '-' || c == '_'

theorem lt_of_isPlain {c : Char} (plain : isPlain c = true) : c.toNat < 128 := by
  have bounded {last : Char} (high : decide (c.val ≤ last.val) = true) (ascii : last.toNat < 128) : c.toNat < 128 :=
    Nat.lt_of_le_of_lt (UInt32.le_iff_toNat_le.mp (of_decide_eq_true high)) ascii
  have shape : isPlain c = (((decide (c.val ≥ 'A'.val ∧ c.val ≤ 'Z'.val) || (c.val ≥ 'a'.val && c.val ≤ 'z'.val)) ||
      (c.val ≥ '0'.val && c.val ≤ '9'.val)) || c == '-' || c == '_') := rfl
  simp only [shape, Bool.or_eq_true, Bool.and_eq_true, Bool.decide_and, beq_iff_eq] at plain
  rcases plain with (((⟨-, high⟩ | ⟨-, high⟩) | ⟨-, high⟩) | rfl) | rfl
  · exact bounded high (by decide)
  · exact bounded high (by decide)
  · exact bounded high (by decide)
  · decide
  · decide

theorem isPlain_kept : ∀ n < 128, isPlain (Char.ofNat n) = true →
    Percent.inSegment (Char.ofNat n) = true ∧ isLineOrTab (Char.ofNat n) = false ∧
      Char.ofNat n ∉ ['.', '/', '\\', '\x7b'] := by
  decide

-- A plain character is kept as it is, and has no meaning of its own in a path.
theorem isSegmentChar_of_isPlain {c : Char} (plain : isPlain c = true) :
    (∀ scheme, isSegmentChar scheme c = true) ∧ isLineOrTab c = false ∧ c ∉ ['.', '/', '\\', '\x7b'] := by
  have kept := isPlain_kept c.toNat (lt_of_isPlain plain)
  rw [Char.ofNat_toNat] at kept
  obtain ⟨inSegment, line, apart⟩ := kept plain
  refine ⟨fun scheme => ?_, line, apart⟩
  have other : c ≠ '\\' := by
    rintro rfl
    exact apart (by decide)
  simp [isSegmentChar, inSegment, other]

def Plain (s : String) : Prop := ∀ c ∈ s.toList, isPlain c = true

instance (s : String) : Decidable (Plain s) := decidable_of_iff (s.toList.all isPlain = true) List.all_eq_true

theorem Plain.not_mem {s : String} (plain : Plain s) {c : Char} (apart : c ∈ ['.', '/', '\\', '\x7b']) : c ∉ s.toList :=
  fun member => (isSegmentChar_of_isPlain (plain c member)).2.2 apart

theorem push_plain (u : Url) {segment : String} (plain : Plain segment) :
    u.push segment = { u with segments := (if u.segments = [""] then [] else u.segments) ++ [segment] } := by
  have lines : segment.toList.filter (!isLineOrTab ·) = segment.toList := by
    rw [List.filter_eq_self]
    intro c member
    rw [(isSegmentChar_of_isPlain (plain c member)).2.1]
    rfl
  have encoded : Percent.encode (isSegmentChar u.scheme) segment = segment := by
    have kept (c : Char) (member : c ∈ segment.toList) := (isSegmentChar_of_isPlain (plain c member)).1 u.scheme
    rw [Percent.encode, Percent.encodeChars_eq_self kept, String.ofList_toList]
  have noPoint := plain.not_mem (c := '.') (by decide)
  have here : segment ≠ "." := by
    rintro rfl
    exact noPoint (by decide)
  have up : segment ≠ ".." := by
    rintro rfl
    exact noPoint (by decide)
  simp [push, lines, encoded, here, up]

-- The segments of an address after others have been added to it; a root gives way to them.
def extended (base added : List String) : List String :=
  if added = [] then base else (if base = [""] then [] else base) ++ added

theorem apart_extended {base added : List String} (apart : Apart base) (apart' : Apart added) :
    Apart (extended base added) := by
  have nothing : Apart [] := fun s member => absurd member List.not_mem_nil
  unfold extended
  split
  next => exact apart
  next =>
    split
    next => exact apart_append nothing apart'
    next => exact apart_append apart apart'

theorem extended_inj {base added added' : List String} (solid : ∀ s ∈ added, s ≠ "") (solid' : ∀ s ∈ added', s ≠ "") :
    extended base added = extended base added' ↔ added = added' := by
  have nothing {added : List String} (solid : ∀ s ∈ added, s ≠ "") : extended base added = base → added = [] := by
    intro same
    by_contra filled
    rw [extended, if_neg filled] at same
    split at same
    next root =>
      rw [List.nil_append, root] at same
      exact solid "" (by simp [same]) rfl
    next => exact filled (List.append_right_eq_self.mp same)
  constructor
  · intro same
    by_cases blank : added = []
    · subst blank
      exact (nothing solid' same.symm).symm
    by_cases blank' : added' = []
    · subst blank'
      exact nothing solid same
    rw [extended, extended, if_neg blank, if_neg blank'] at same
    exact List.append_cancel_left same
  · rintro rfl
    rfl

theorem foldl_push_plain (u : Url) {added : List String} (plain : ∀ s ∈ added, Plain s ∧ s ≠ "") :
    (added.foldl push u).segments = extended u.segments added := by
  induction added generalizing u with
  | nil => rfl
  | cons s rest ih =>
    obtain ⟨own, later⟩ := List.forall_mem_cons.mp plain
    have inside : (if u.segments = [""] then [] else u.segments) ++ [s] ≠ [""] := by
      intro root
      have last := congrArg List.getLast? root
      rw [List.getLast?_concat] at last
      exact own.2 (Option.some.inj last)
    rw [List.foldl_cons, push_plain u own.1, ih _ later]
    unfold extended
    rw [if_neg inside, if_neg (List.cons_ne_nil s rest)]
    cases rest <;> simp

theorem dropTrailingSlash_segments (u : Url) :
    u.dropTrailingSlash.segments = if u.segments = [""] then [""] else bare u.segments := by
  unfold dropTrailingSlash bare
  by_cases root : u.segments = [""]
  · simp [root]
  rw [if_neg root]
  by_cases slash : u.segments.getLast? = some ""
  · obtain ⟨before, shape⟩ := List.getLast?_eq_some_iff.mp slash
    have long : 1 < u.segments.length := by
      cases before with
      | nil => exact absurd shape root
      | cons s rest => simp [shape]
    rw [if_pos ⟨long, slash⟩, if_pos slash]
  · rw [if_neg fun both => slash both.2, if_neg slash]

theorem apart_bare (apart : Apart segments) : Apart (bare segments) := by
  unfold bare
  split
  next => exact apart_dropLast apart
  next => exact apart

theorem apart_dropTrailingSlash {u : Url} (apart : Apart u.segments) : Apart u.dropTrailingSlash.segments := by
  rw [dropTrailingSlash_segments]
  split
  next root => exact root ▸ apart
  next => exact apart_bare apart

theorem bare_eq_root_iff {base : List String} : bare base = [""] ↔ base = ["", ""] := by
  unfold bare
  constructor
  · intro root
    split at root
    next slash =>
      obtain ⟨before, rfl⟩ := List.getLast?_eq_some_iff.mp slash
      rw [List.dropLast_concat] at root
      rw [root, List.singleton_append]
    next slash =>
      rw [root] at slash
      exact absurd rfl slash
  · rintro rfl
    rfl

-- What is left of the stops of a path when the empty ones among them are passed over.
theorem extended_eq_append_iff (base : List String) {stops : List String} (nonempty : stops ≠ []) :
    extended (if base = [""] then [""] else bare base) (stops.filter (· != "")) = bare base ++ stops ↔
      "" ∉ stops ∧ base ≠ ["", ""] ∨ stops = [""] ∧ base = [""] := by
  have kept : stops.filter (· != "") = stops ↔ "" ∉ stops := by
    rw [List.filter_eq_self]
    constructor
    · intro all empty
      simpa using all "" empty
    · intro absent s member
      rw [bne_iff_ne]
      rintro rfl
      exact absent member
  have solid : "" ∉ stops.filter (· != "") := by simp
  have passed : stops.filter (· != "") = [] → "" ∈ stops := by
    intro blank
    by_contra absent
    exact nonempty ((kept.mpr absent).symm.trans blank)
  have several : stops.filter (· != "") ≠ [] → stops ≠ [""] := by
    rintro filled rfl
    exact filled rfl
  generalize stops.filter (· != "") = left at *
  by_cases root : base = [""]
  · subst root
    have nothing : bare [""] = [] := rfl
    rw [if_pos rfl, extended, if_pos rfl, nothing, List.nil_append, List.nil_append]
    by_cases blank : left = []
    · simp [blank, passed blank, eq_comm]
    · simp [blank, several blank, kept]
  rw [if_neg root, extended]
  by_cases double : base = ["", ""]
  · have reached : (if left = [] then [""] else [] ++ left) ≠ "" :: stops := by
      split
      next => simpa using nonempty.symm
      next =>
        rintro rfl
        exact solid List.mem_cons_self
    rw [if_pos (bare_eq_root_iff.mpr double), bare_eq_root_iff.mpr double, List.singleton_append,
      iff_false_left reached]
    simp [double]
  · rw [if_neg (mt bare_eq_root_iff.mp double)]
    by_cases blank : left = []
    · simp [blank, passed blank, nonempty, root]
    · simp [blank, kept, root, double]

theorem addPairs_segments (u : Url) (pairs : List (String × String)) : (u.addPairs pairs).segments = u.segments := by
  unfold addPairs
  dsimp only
  repeat' split
  all_goals rfl

end Url

end SchemaProbe
