import SchemaProbe.Text.Digit

set_option autoImplicit false

namespace SchemaProbe.Percent

def upperHexDigit (n : Nat) : Char := (Text.hexDigit n).toUpper

def escapeByte (b : UInt8) : List Char := ['%', upperHexDigit (b.toNat / 16), upperHexDigit (b.toNat % 16)]

def escape (c : Char) : List Char := (String.utf8EncodeChar c).flatMap escapeByte

def encodeChars (kept : Char → Bool) (cs : List Char) : List Char :=
  cs.flatMap fun c => if kept c then [c] else escape c

def encode (kept : Char → Bool) (s : String) : String := String.ofList (encodeChars kept s.toList)

def isPrintable (c : Char) : Bool := ' ' ≤ c && c ≤ '~'

def inFragment (c : Char) : Bool := isPrintable c && !([' ', '"', '<', '>', '`'].contains c)

def inQuery (c : Char) : Bool := isPrintable c && !([' ', '"', '#', '<', '>'].contains c)

def inPath (c : Char) : Bool := inFragment c && !(['#', '?', '\x7b', '\x7d'].contains c)

def inSegment (c : Char) : Bool := inPath c && c != '/' && c != '%'

def inUser (c : Char) : Bool := inPath c && !(['/', ':', ';', '=', '@', '[', '\\', ']', '^', '|'].contains c)

def inForm (c : Char) : Bool := c.isAlphanum || ['*', '-', '.', '_'].contains c

-- A space of a form becomes a plus sign.
def formText (s : String) : String :=
  String.ofList (s.toList.flatMap fun c => if c = ' ' then ['+'] else if inForm c then [c] else escape c)

def formPairs (pairs : List (String × String)) : String :=
  "&".intercalate (pairs.map fun p => formText p.1 ++ "=" ++ formText p.2)

-- The bytes that a text with escapes stands for; a percent sign without two digits stands for itself.
def decodeBytes : List Char → List UInt8
  | [] => []
  | '%' :: a :: b :: rest =>
    match Text.natOfHex? [a, b] with
    | some n => n.toUInt8 :: decodeBytes rest
    | none => '%'.toUInt8 :: decodeBytes (a :: b :: rest)
  | c :: rest => String.utf8EncodeChar c ++ decodeBytes rest
termination_by cs => cs.length

-- The decoded text, unless its bytes are no text.
def decode? (s : String) : Option String :=
  let bytes : ByteArray := ⟨(decodeBytes s.toList).toArray⟩
  if h : bytes.IsValidUTF8 then some (String.ofByteArray bytes h) else none

end SchemaProbe.Percent
