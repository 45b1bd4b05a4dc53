import SchemaProbe.Url.Host

set_option autoImplicit false

namespace SchemaProbe

structure Authority where
  user : String := ""
  password : String := ""
  host : String
  -- Absent if it is the usual one.
  tcpPort : Option Nat := none
deriving DecidableEq, Repr

def Authority.text (a : Authority) : String :=
  a.user ++ (if a.password = "" then "" else ":" ++ a.password) ++
    (if a.user = "" ∧ a.password = "" then "" else "@") ++ a.host ++
    (match a.tcpPort with
      | some p => ":" ++ toString p
      | none => "")

-- The path is written with a slash before each of its segments.
structure Url where
  scheme : String
  authority : Option Authority
  segments : List String
  query : Option String := none
  fragment : Option String := none
deriving DecidableEq, Repr

namespace Url

def usualPort? (scheme : String) : Option Nat :=
  [("http", 80), ("https", 443), ("ws", 80), ("wss", 443), ("ftp", 21)].lookup scheme

def isWellKnown (scheme : String) : Bool := scheme == "file" || (usualPort? scheme).isSome

def path (u : Url) : String := String.join (u.segments.map ("/" ++ ·))

def suffix (query fragment : Option String) : String :=
  (match query with
    | some q => "?" ++ q
    | none => "") ++
  (match fragment with
    | some f => "#" ++ f
    | none => "")

def text (u : Url) : String :=
  u.scheme ++ ":" ++
    (match u.authority with
      | some a => "//" ++ a.text
      | none => "") ++
    u.path ++ suffix u.query u.fragment

def isSegmentChar (scheme : String) (c : Char) : Bool :=
  Percent.inSegment c && !(c == '\\' && isWellKnown scheme)

def isLineOrTab (c : Char) : Bool := c == '\t' || c == '\n' || c == '\r'

-- Adds a segment; a root that holds only an empty one gives way to it. The segments `.` and `..` are not added, and
-- lines and tabs are not kept.
def push (u : Url) (segment : String) : Url :=
  if segment = "." ∨ segment = ".." then u
  else
    let before := if u.segments = [""] then [] else u.segments
    let kept := String.ofList (segment.toList.filter (!isLineOrTab ·))
    if kept = ".." then { u with segments := before.dropLast ++ [""] }
    else if kept = "." then { u with segments := before ++ [""] }
    else { u with segments := before ++ [Percent.encode (isSegmentChar u.scheme) kept] }

-- Without one trailing slash of the path, unless that is all of it.
def dropTrailingSlash (u : Url) : Url :=
  if 1 < u.segments.length ∧ u.segments.getLast? = some "" then { u with segments := u.segments.dropLast } else u

def addPairs (u : Url) (pairs : List (String × String)) : Url :=
  if pairs.isEmpty then u
  else
    let added := Percent.formPairs pairs
    match u.query with
    | some q => if q = "" then { u with query := some added } else { u with query := some (q ++ "&" ++ added) }
    | none => { u with query := some added }

end Url

end SchemaProbe
