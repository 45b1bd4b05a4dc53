import SchemaProbe.Text.Trim

set_option autoImplicit false

namespace SchemaProbe

inductive SchemaLocation where
  | url (address : String)
  | file (path : String)
deriving DecidableEq, Repr

namespace SchemaLocation

def isUrl (s : String) : Bool := Text.startsWith "http://" s || Text.startsWith "https://" s

def parse (location : String) : SchemaLocation :=
  let trimmed := Text.trim location
  if isUrl trimmed then url trimmed else file trimmed

def text : SchemaLocation → String
  | url s => s
  | file s => s

-- The last component of a path, unless that leads upwards.
def fileName? (path : String) : Option String :=
  let parts := (Text.splitOn '/' path).filter fun part => part != "" && part != "."
  parts.getLast?.filter (· != "..")

def urlName (address : String) : String :=
  let path := String.ofList (address.toList.takeWhile fun c => c != '?' && c != '#')
  ((Text.splitOn '/' path).getLast?).getD ""

-- What follows the last point of the name, in lower case.
def extension? (l : SchemaLocation) : Option String :=
  let name? := match l with
    | url s => some (urlName s)
    | file s => fileName? s
  ((name?.bind (Text.splitLast? '.')).map fun parts => Text.lowerAscii parts.2).filter (· != "")

end SchemaLocation

inductive Target where
  | main
  | dev
  | qa
  | test
  | localHost
deriving DecidableEq, Repr

namespace Target

def all : List Target := [main, dev, qa, test, localHost]

def name : Target → String
  | main => "main"
  | dev => "dev"
  | qa => "qa"
  | test => "test"
  | localHost => "local"

-- The target of that name in any case, blanks around it aside; the local one for an empty name.
def parse? (s : String) : Option Target :=
  let name := Text.lowerAscii (Text.trim s)
  if name = "" then some localHost else all.find? fun t => t.name == name

def unknownMessage (s : String) : String :=
  "Unknown target '" ++ Text.lowerAscii (Text.trim s) ++ "' (expected one of: main, dev, qa, test, local)"

def baseUrl : Target → String
  | main => "https://gridproxy.grid.tf"
  | localHost => "http://localhost:8080"
  | t => "https://gridproxy." ++ t.name ++ ".grid.tf"

def schema : Target → SchemaLocation
  | localHost => .file "docs/swagger.json"
  | t => .url (t.baseUrl ++ "/swagger/doc.json")

end Target

end SchemaProbe
