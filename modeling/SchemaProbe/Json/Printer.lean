import SchemaProbe.Json.Basic

set_option autoImplicit false

namespace SchemaProbe.Json

-- The quote, the backslash and control characters are escaped, everything else stands for itself.
def escapeChar (c : Char) : List Char :=
  if c = '"' then ['\\', '"']
  else if c = '\\' then ['\\', '\\']
  else if c = '\x08' then ['\\', 'b']
  else if c = '\t' then ['\\', 't']
  else if c = '\n' then ['\\', 'n']
  else if c = '\x0c' then ['\\', 'f']
  else if c = '\r' then ['\\', 'r']
  else if c.toNat < 0x20 then ['\\', 'u', '0', '0', Text.hexDigit (c.toNat / 16), Text.hexDigit (c.toNat % 16)]
  else [c]

def quote (s : String) : String := String.ofList ('"' :: s.toList.flatMap escapeChar ++ ['"'])

mutual
def compact : Json → String
  | null => "null"
  | bool true => "true"
  | bool false => "false"
  | number n => n.text
  | string s => quote s
  | array xs => "[" ++ String.intercalate "," (compactElements xs) ++ "]"
  | object ms => "\x7b" ++ String.intercalate "," (compactMembers ms) ++ "\x7d"
def compactElements : List Json → List String
  | [] => []
  | x :: xs => compact x :: compactElements xs
def compactMembers : List (String × Json) → List String
  | [] => []
  | (k, x) :: ms => (quote k ++ ":" ++ compact x) :: compactMembers ms
end

def lineBreak (level : Nat) : String := "\n" ++ String.ofList (List.replicate (2 * level) ' ')

mutual
def pretty (v : Json) (level : Nat) : String :=
  match v with
  | array [] => "[]"
  | array (x :: xs) =>
    "[" ++ String.intercalate "," (prettyElements (x :: xs) (level + 1)) ++ lineBreak level ++ "]"
  | object [] => "\x7b\x7d"
  | object (m :: ms) =>
    "\x7b" ++ String.intercalate "," (prettyMembers (m :: ms) (level + 1)) ++ lineBreak level ++ "\x7d"
  | null => "null"
  | bool true => "true"
  | bool false => "false"
  | number n => n.text
  | string s => quote s
def prettyElements (xs : List Json) (level : Nat) : List String :=
  match xs with
  | [] => []
  | x :: rest => (lineBreak level ++ pretty x level) :: prettyElements rest level
def prettyMembers (ms : List (String × Json)) (level : Nat) : List String :=
  match ms with
  | [] => []
  | (k, x) :: rest => (lineBreak level ++ quote k ++ ": " ++ pretty x level) :: prettyMembers rest level
end

instance : ToString Json := ⟨compact⟩

end SchemaProbe.Json
