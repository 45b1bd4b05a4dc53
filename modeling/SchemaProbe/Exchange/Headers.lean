import SchemaProbe.NameMap
import SchemaProbe.Text.Trim

set_option autoImplicit false

namespace SchemaProbe

abbrev Headers := List (String × String)

namespace Headers

def isTokenChar (c : Char) : Bool :=
  c.isAlphanum ||
    ['!', '#', '$', '%', '&', '\'', '*', '+', '-', '.', '^', '_', '`', '|', '~'].contains c

def isToken (s : String) : Bool := !s.isEmpty && s.toList.all isTokenChar

def name? (s : String) : Option String :=
  if isToken s then some (Text.lowerAscii s) else none

-- Values may be sent in any script, but without controls other than tabs.
def isSendable (value : String) : Bool := value.toList.all fun c => c = '\t' || (' ' ≤ c && c != '\x7f')

-- Only values in ASCII are read as text.
def isReadable (value : String) : Bool := value.toList.all fun c => c = '\t' || (' ' ≤ c && c ≤ '~')

def put (h : Headers) (name value : String) : Headers := h.filter (·.1 != name) ++ [(name, value)]

-- A header that cannot be sent is left out.
def set (h : Headers) (name value : String) : Headers :=
  match name? name with
  | some n => if isSendable value then h.put n value else h
  | none => h

-- The first value of a name, unless it cannot be read.
def get? (h : Headers) (name : String) : Option String :=
  ((name? name).bind fun n => h.lookup n).filter isReadable

def addTo (m : NameMap String) (name value : String) : NameMap String :=
  match NameMap.get? m name with
  | some earlier => NameMap.insert m name (earlier ++ ", " ++ value)
  | none => NameMap.insert m name value

def joined (h : Headers) : NameMap String := h.foldl (fun m e => addTo m e.1 e.2) []

end Headers

end SchemaProbe
