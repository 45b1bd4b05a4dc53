import SchemaProbe.Url.Basic

set_option autoImplicit false

namespace SchemaProbe.Url

-- Without controls and blanks around it, and without lines and tabs in it.
def cleaned (s : String) : List Char :=
  let start := s.toList.dropWhile (· ≤ ' ')
  ((start.reverse.dropWhile (· ≤ ' ')).reverse).filter (!isLineOrTab ·)

def readScheme? (cs : List Char) : Option (String × List Char) :=
  let name := cs.takeWhile fun c => c.isAlphanum || c == '+' || c == '-' || c == '.'
  match name, cs.drop name.length with
  | first :: _, ':' :: rest => if first.isAlpha then some (Text.lowerAscii (String.ofList name), rest) else none
  | _, _ => none

def isSlash (wellKnown : Bool) (c : Char) : Bool := c == '/' || (wellKnown && c == '\\')

def isStop (wellKnown : Bool) (c : Char) : Bool := isSlash wellKnown c || c == '?' || c == '#'

def pieces (wellKnown : Bool) : List Char → List (List Char)
  | [] => [[]]
  | c :: cs =>
    if isSlash wellKnown c then [] :: pieces wellKnown cs
    else match pieces wellKnown cs with
      | [] => [[c]]
      | p :: ps => (c :: p) :: ps

def isHere (piece : List Char) : Bool := [".", "%2e"].contains (Text.lowerAscii (String.ofList piece))

def isUp (piece : List Char) : Bool :=
  ["..", ".%2e", "%2e.", "%2e%2e"].contains (Text.lowerAscii (String.ofList piece))

-- Resolves dot segments; one at the end leaves an empty segment there.
def resolve (done : List String) : List (List Char) → List String
  | [] => done
  | [p] =>
    if isUp p then done.dropLast ++ [""]
    else if isHere p then done ++ [""]
    else done ++ [String.ofList (Percent.encodeChars Percent.inPath p)]
  | p :: ps =>
    if isUp p then resolve done.dropLast ps
    else if isHere p then resolve done ps
    else resolve (done ++ [String.ofList (Percent.encodeChars Percent.inPath p)]) ps

def readFragment (cs : List Char) : Option String :=
  match cs.dropWhile (· != '#') with
  | [] => none
  | _ :: rest => some (String.ofList (Percent.encodeChars Percent.inFragment rest))

def isQueryChar (wellKnown : Bool) (c : Char) : Bool := Percent.inQuery c && !(wellKnown && c == '\'')

def readQuery (wellKnown : Bool) (cs : List Char) : Option String :=
  match (cs.takeWhile (· != '#')).dropWhile (· != '?') with
  | [] => none
  | _ :: rest => some (String.ofList (Percent.encodeChars (isQueryChar wellKnown) rest))

def readSegments (wellKnown : Bool) (cs : List Char) : List String :=
  match cs.takeWhile fun c => c != '?' && c != '#' with
  | [] => if wellKnown then [""] else []
  | c :: rest => resolve [] (pieces wellKnown (if isSlash wellKnown c then rest else c :: rest))

def withRest (scheme : String) (authority : Option Authority) (cs : List Char) : Url :=
  let wellKnown := isWellKnown scheme
  { scheme
    authority
    segments := readSegments wellKnown cs
    query := readQuery wellKnown cs
    fragment := readFragment cs }

-- The host ends at a colon outside of brackets.
def takeHost (inBrackets : Bool) : List Char → List Char
  | [] => []
  | c :: cs =>
    if c = ':' ∧ !inBrackets then []
    else c :: takeHost (if c = '[' then true else if c = ']' then false else inBrackets) cs

def readPort (scheme : String) (cs : List Char) : Except UrlFault (Option Nat) :=
  if !cs.all Char.isDigit then .error .invalidPort
  else
    let n := Text.natOfDigits cs
    if 65535 < n then .error .invalidPort
    else .ok (if cs.isEmpty || usualPort? scheme == some n then none else some n)

def encodeUser (cs : List Char) : String := String.ofList (Percent.encodeChars Percent.inUser cs)

def splitUser (cs : List Char) : Option (List Char) × List Char :=
  let back := cs.reverse
  match back.dropWhile (· != '@') with
  | [] => (none, cs)
  | _ :: before => (some before.reverse, (back.takeWhile (· != '@')).reverse)

def readHost (scheme : String) (host : List Char) : Except UrlFault String :=
  if isWellKnown scheme then
    if host.isEmpty then .error .emptyHost else Host.parse (String.ofList host)
  else Host.parseOther (String.ofList host)

def readAuthority (scheme : String) (cs : List Char) : Except UrlFault Url := do
  let wellKnown := isWellKnown scheme
  let rest := cs.dropWhile fun c => !isStop wellKnown c
  let (user?, hostAndPort) := splitUser (cs.takeWhile fun c => !isStop wellKnown c)
  let user := user?.getD []
  if user?.isSome && user.isEmpty && hostAndPort.isEmpty && !rest.isEmpty then throw .emptyHost
  let hostPart := takeHost false hostAndPort
  let host ← readHost scheme hostPart
  let portPart := hostAndPort.drop hostPart.length
  let authority : Authority :=
    { user := encodeUser (user.takeWhile (· != ':'))
      password := encodeUser ((user.dropWhile (· != ':')).drop 1)
      host }
  if host.isEmpty && (!portPart.isEmpty || authority.user != "" || authority.password != "") then throw .emptyHost
  let tcpPort ← readPort scheme (portPart.drop 1)
  return withRest scheme (some { authority with tcpPort }) rest

def readFile (cs : List Char) : Except UrlFault Url := do
  match cs with
  | a :: b :: rest =>
    if isSlash true a && isSlash true b then
      let hostPart := rest.takeWhile fun c => !isStop true c
      let host ← if hostPart.isEmpty then pure "" else Host.parse (String.ofList hostPart)
      return withRest "file" (some { host := if host = "localhost" then "" else host }) (rest.dropWhile fun c => !isStop true c)
    else return withRest "file" (some { host := "" }) cs
  | cs => return withRest "file" (some { host := "" }) cs

def opaqueText (scheme : String) (cs : List Char) : String :=
  let path := cs.takeWhile fun c => c != '?' && c != '#'
  scheme ++ ":" ++ String.ofList (Percent.encodeChars Percent.isPrintable path) ++
    suffix (readQuery false cs) (readFragment cs)

def parse (s : String) : Except UrlFault Url :=
  match readScheme? (cleaned s) with
  | none => .error .relative
  | some (scheme, rest) =>
    if scheme = "file" then readFile rest
    else if isWellKnown scheme then readAuthority scheme (rest.dropWhile (isSlash true))
    else match rest with
      | '/' :: '/' :: rest => readAuthority scheme rest
      | '/' :: rest => .ok (withRest scheme none ('/' :: rest))
      | rest => .error (.withoutPath (opaqueText scheme rest))

end SchemaProbe.Url

namespace SchemaProbe.UrlFault

def baseMessage (given : String) : UrlFault → String
  | relative => "base URL '" ++ given ++ "': relative URL without a base"
  | emptyHost => "base URL '" ++ given ++ "': empty host"
  | invalidPort => "base URL '" ++ given ++ "': invalid port number"
  | invalidIpv4 => "base URL '" ++ given ++ "': invalid IPv4 address"
  | invalidIpv6 => "base URL '" ++ given ++ "': invalid IPv6 address"
  | invalidName => "base URL '" ++ given ++ "': invalid international domain name"
  | invalidHostCharacter => "base URL '" ++ given ++ "': invalid domain character"
  | withoutPath address => "base URL '" ++ address ++ "' cannot have a path"

end SchemaProbe.UrlFault
