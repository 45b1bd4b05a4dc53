import SchemaProbe.Json.Basic
import SchemaProbe.Text.Digit
import SchemaProbe.Text.Trim

set_option autoImplicit false

namespace SchemaProbe.Json

-- `~1` stands for a slash and `~0` for a tilde.
def unescapeToken : List Char → List Char
  | '~' :: '1' :: cs => '/' :: unescapeToken cs
  | '~' :: '0' :: cs => '~' :: unescapeToken cs
  | c :: cs => c :: unescapeToken cs
  | [] => []

-- A position in decimal without sign and needless zeros.
def index? (token : String) : Option Nat :=
  let ds := token.toList
  if ds.isEmpty || !ds.all Char.isDigit || (ds.head? == some '0' && ds.length != 1) then none
  else some (Text.natOfDigits ds)

def child? (v : Json) (token : String) : Option Json :=
  match v with
  | object ms => NameMap.get? ms token
  | array xs => (index? token).bind fun i => xs[i]?
  | _ => none

def at? (v : Json) (pointer : String) : Option Json :=
  if pointer = "" then some v
  else if !Text.startsWith "/" pointer then none
  else
    ((Text.splitOn '/' pointer).drop 1).foldl
      (fun acc token => acc.bind fun v => v.child? (String.ofList (unescapeToken token.toList))) (some v)

end SchemaProbe.Json
