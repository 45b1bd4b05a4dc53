import SchemaProbe.Url.Basic

set_option autoImplicit false

namespace SchemaProbe

namespace Text

theorem pieces_ne_nil (sep : Char) (cs : List Char) : splitOn.pieces sep cs ≠ [] := by
  cases cs with
  | nil => simp [splitOn.pieces]
  | cons c cs =>
    rw [splitOn.pieces]
    split
    · simp
    · split <;> simp

theorem pieces_append (sep : Char) (before after : List Char) :
    splitOn.pieces sep (before ++ sep :: after) = splitOn.pieces sep before ++ splitOn.pieces sep after := by
  induction before with
  | nil => simp [splitOn.pieces]
  | cons c cs ih =>
    rw [List.cons_append, splitOn.pieces, splitOn.pieces, ih]
    split
    · rfl
    · obtain ⟨p, ps, first⟩ := List.exists_cons_of_ne_nil (pieces_ne_nil sep cs)
      rw [first]
      rfl

theorem pieces_of_not_mem {sep : Char} {cs : List Char} (absent : sep ∉ cs) : splitOn.pieces sep cs = [cs] := by
  induction cs with
  | nil => rfl
  | cons c cs ih =>
    rw [List.mem_cons, not_or] at absent
    rw [splitOn.pieces, if_neg (Ne.symm absent.1), ih absent.2]

def bytes (s : String) : List UInt8 := s.toList.flatMap String.utf8EncodeChar

theorem bytes_inj {s t : String} : bytes s = bytes t ↔ s = t := by
  constructor
  · intro same
    have whole (s : String) : s.toByteArray = (bytes s).toByteArray := by
      rw [← @String.ofList_toList s, String.toByteArray_ofList]
      simp [List.utf8Encode, bytes]
    rw [← String.toByteArray_inj, whole s, whole t, same]
  · rintro rfl
    rfl

end Text

namespace Percent

def formChars (c : Char) : List Char := if c = ' ' then ['+'] else if inForm c then [c] else escape c

theorem formText_toList (s : String) : (formText s).toList = s.toList.flatMap formChars := by
  rw [formText, String.toList_ofList]
  rfl

theorem upperHexDigit_read : ∀ n < 16, Text.hexValue? (upperHexDigit n) = some n := by
  decide

theorem upperHexDigit_plain : ∀ n < 16, upperHexDigit n ∉ ['+', '&', '='] := by
  decide

theorem decodeBytes_cons {c : Char} (plain : c ≠ '%') (rest : List Char) :
    decodeBytes (c :: rest) = String.utf8EncodeChar c ++ decodeBytes rest := by
  rw [decodeBytes]
  exact fun a b rest' same _ => plain same

theorem decodeBytes_escapeByte (b : UInt8) (rest : List Char) :
    decodeBytes (escapeByte b ++ rest) = b :: decodeBytes rest := by
  have small := b.toNat_lt
  have high := upperHexDigit_read (b.toNat / 16) (by omega)
  have low := upperHexDigit_read (b.toNat % 16) (by omega)
  have value : Text.natOfHex? [upperHexDigit (b.toNat / 16), upperHexDigit (b.toNat % 16)] = some b.toNat := by
    simp only [Text.natOfHex?, List.mapM_cons, List.mapM_nil, high, low, Option.pure_def, Option.bind_eq_bind,
      Option.bind_some, Option.map_some, List.foldl_cons, List.foldl_nil, Option.some.injEq]
    omega
  rw [escapeByte, List.cons_append, List.cons_append, List.cons_append, List.nil_append, decodeBytes, value]
  simp

-- The bytes of a component of a form, in which a plus sign is a space.
def formBytes (cs : List Char) : List UInt8 := decodeBytes (cs.map fun c => if c = '+' then ' ' else c)

theorem formBytes_escapeByte (b : UInt8) (rest : List Char) :
    formBytes (escapeByte b ++ rest) = b :: formBytes rest := by
  have small := b.toNat_lt
  have high := upperHexDigit_plain (b.toNat / 16) (by omega)
  have low := upperHexDigit_plain (b.toNat % 16) (by omega)
  have same : (escapeByte b).map (fun c => if c = '+' then ' ' else c) = escapeByte b := by
    simp_all [escapeByte]
  rw [formBytes, List.map_append, same, decodeBytes_escapeByte]
  rfl

theorem formBytes_escape (bs : List UInt8) (rest : List Char) :
    formBytes (bs.flatMap escapeByte ++ rest) = bs ++ formBytes rest := by
  induction bs with
  | nil => rfl
  | cons b bs ih => rw [List.flatMap_cons, List.append_assoc, formBytes_escapeByte, ih, List.cons_append]

theorem formBytes_formChars (c : Char) (rest : List Char) :
    formBytes (formChars c ++ rest) = String.utf8EncodeChar c ++ formBytes rest := by
  unfold formChars
  split
  next blank =>
    subst blank
    exact decodeBytes_cons (by decide) _
  next =>
    split
    next kept =>
      have plain : c ≠ '+' ∧ c ≠ '%' := by
        constructor <;> (rintro rfl; exact absurd kept (by decide))
      rw [formBytes, List.singleton_append, List.map_cons, if_neg plain.1, decodeBytes_cons plain.2]
      rfl
    next => exact formBytes_escape _ rest

theorem formBytes_formText (s : String) : formBytes (formText s).toList = Text.bytes s := by
  rw [formText_toList, Text.bytes]
  induction s.toList with
  | nil => simp [formBytes, decodeBytes]
  | cons c cs ih => rw [List.flatMap_cons, formBytes_formChars, ih, List.flatMap_cons]

-- The characters that part pairs, and names from values, are escaped.
theorem formText_plain (s : String) : '&' ∉ (formText s).toList ∧ '=' ∉ (formText s).toList := by
  have each (c : Char) (stop : Char) (here : stop ∈ formChars c) : stop ≠ '&' ∧ stop ≠ '=' := by
    unfold formChars at here
    split at here
    next =>
      obtain rfl := List.mem_singleton.mp here
      decide
    next =>
      split at here
      next kept =>
        obtain rfl := List.mem_singleton.mp here
        constructor <;> (rintro rfl; exact absurd kept (by decide))
      next =>
        obtain ⟨b, -, within⟩ := List.mem_flatMap.mp here
        have small := b.toNat_lt
        have high := upperHexDigit_plain (b.toNat / 16) (by omega)
        have low := upperHexDigit_plain (b.toNat % 16) (by omega)
        simp only [escapeByte, List.mem_cons, List.not_mem_nil, or_false] at within
        rcases within with rfl | rfl | rfl <;> simp_all
  rw [formText_toList]
  constructor <;>
    · intro found
      obtain ⟨c, -, here⟩ := List.mem_flatMap.mp found
      simpa using each c _ here

def names (cs : List Char) : List (List UInt8) :=
  ((Text.splitOn.pieces '&' cs).filter (!·.isEmpty)).map fun piece => formBytes (piece.takeWhile (· != '='))

theorem names_append (before after : List Char) : names (before ++ '&' :: after) = names before ++ names after := by
  rw [names, Text.pieces_append, List.filter_append, List.map_append]
  rfl

theorem names_pair (p : String × String) : names (formText p.1 ++ "=" ++ formText p.2).toList = [Text.bytes p.1] := by
  obtain ⟨noAmp, noEq⟩ := formText_plain p.1
  have text : (formText p.1 ++ "=" ++ formText p.2).toList = (formText p.1).toList ++ '=' :: (formText p.2).toList := by
    simp
  have whole : '&' ∉ (formText p.1).toList ++ '=' :: (formText p.2).toList := by
    simp [noAmp, (formText_plain p.2).1]
  have name : ((formText p.1).toList ++ '=' :: (formText p.2).toList).takeWhile (· != '=') = (formText p.1).toList := by
    have kept (c : Char) (member : c ∈ (formText p.1).toList) : (c != '=') = true := by
      rw [bne_iff_ne]
      rintro rfl
      exact noEq member
    rw [List.takeWhile_append_of_pos kept]
    simp
  rw [text, names, Text.pieces_of_not_mem whole]
  simp [name, formBytes_formText]

theorem names_formPairs (pairs : List (String × String)) :
    names (formPairs pairs).toList = pairs.map fun p => Text.bytes p.1 := by
  rw [formPairs]
  induction pairs with
  | nil => rfl
  | cons p pairs ih =>
    cases pairs with
    | nil => rw [List.map_singleton, String.intercalate_singleton, names_pair, List.map_singleton]
    | cons q pairs =>
      have text (t : String) : (formText p.1 ++ "=" ++ formText p.2 ++ "&" ++ t).toList =
          (formText p.1 ++ "=" ++ formText p.2).toList ++ '&' :: t.toList := by simp
      rw [List.map_cons, List.map_cons, String.intercalate_cons_cons, text, names_append, names_pair]
      exact congrArg _ ih

end Percent

namespace Url

def queryNames (u : Url) : List (List UInt8) := (u.query.map fun q => Percent.names q.toList).getD []

theorem queryNames_addPairs (u : Url) (pairs : List (String × String)) :
    (u.addPairs pairs).queryNames = u.queryNames ++ pairs.map fun p => Text.bytes p.1 := by
  unfold addPairs
  split
  next empty => simp [List.isEmpty_iff.mp empty]
  next =>
    cases query : u.query with
    | none => simp [queryNames, query, Percent.names_formPairs]
    | some q =>
      by_cases empty : q = ""
      · subst empty
        have nothing : Percent.names [] = [] := rfl
        simp [queryNames, query, Percent.names_formPairs, nothing]
      · have text : (q ++ "&" ++ Percent.formPairs pairs).toList = q.toList ++ '&' :: (Percent.formPairs pairs).toList := by
          simp
        simp only [empty, if_false, queryNames, query, Option.map_some, Option.getD_some, text, Percent.names_append,
          Percent.names_formPairs]

theorem push_query (u : Url) (segment : String) : (u.push segment).query = u.query := by
  unfold push
  dsimp only
  repeat' split
  all_goals rfl

theorem dropTrailingSlash_query (u : Url) : u.dropTrailingSlash.query = u.query := by
  unfold dropTrailingSlash
  split <;> rfl

theorem foldl_push_query (u : Url) (segments : List String) : (segments.foldl push u).query = u.query := by
  induction segments generalizing u with
  | nil => rfl
  | cons segment segments ih => exact (ih (u.push segment)).trans (u.push_query segment)

theorem queryNames_below (u : Url) (segments : List String) :
    (segments.foldl push u.dropTrailingSlash).queryNames = u.queryNames := by
  rw [queryNames, foldl_push_query, dropTrailingSlash_query, queryNames]

end Url

end SchemaProbe
