import SchemaProbe.Text.Category

set_option autoImplicit false

namespace SchemaProbe.Text

def trimStart (cs : List Char) : List Char := cs.dropWhile Category.isBlank

def trimEnd (cs : List Char) : List Char := (cs.reverse.dropWhile Category.isBlank).reverse

def trim (s : String) : String := String.ofList (trimEnd (trimStart s.toList))

-- The pieces between separators, at least one.
def splitOn (sep : Char) (s : String) : List String := (pieces s.toList).map String.ofList
where
  pieces : List Char → List (List Char)
    | [] => [[]]
    | c :: cs =>
      if c = sep then [] :: pieces cs
      else match pieces cs with
        | [] => [[c]]
        | p :: ps => (c :: p) :: ps

def splitOnce? (sep : Char) (s : String) : Option (String × String) :=
  let cs := s.toList
  match cs.dropWhile (· != sep) with
  | [] => none
  | _ :: rest => some (String.ofList (cs.takeWhile (· != sep)), String.ofList rest)

def splitLast? (sep : Char) (s : String) : Option (String × String) :=
  let cs := s.toList.reverse
  match cs.dropWhile (· != sep) with
  | [] => none
  | _ :: rest => some (String.ofList rest.reverse, String.ofList (cs.takeWhile (· != sep)).reverse)

def lowerAscii (s : String) : String := String.ofList (s.toList.map Char.toLower)

def startsWith (start s : String) : Bool := start.toList.isPrefixOf s.toList

def dropPrefix? (start s : String) : Option String :=
  if startsWith start s then some (String.ofList (s.toList.drop start.toList.length)) else none

def byteLength (s : String) : Nat := s.utf8ByteSize

def occurs (part : List Char) : List Char → Bool
  | [] => part.isEmpty
  | c :: cs => part.isPrefixOf (c :: cs) || occurs part cs

def containsText (part s : String) : Bool := occurs part.toList s.toList

def replaceAll (part replacement s : String) : String :=
  if part = "" then s else String.ofList (go s.length s.toList)
where
  go : Nat → List Char → List Char
    | 0, cs => cs
    | _, [] => []
    | n + 1, c :: cs =>
      if part.toList.isPrefixOf (c :: cs) then replacement.toList ++ go n ((c :: cs).drop part.length)
      else c :: go n cs

def padRight (width : Nat) (c : Char) (s : String) : String :=
  s ++ String.ofList (List.replicate (width - s.length) c)

end SchemaProbe.Text
