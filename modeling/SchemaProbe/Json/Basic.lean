import SchemaProbe.Binary64.Decimal
import SchemaProbe.NameMap

set_option autoImplicit false

namespace SchemaProbe

-- An `int` of a value that was read fits 64 bits, signed or unsigned.
inductive Number where
  | int (i : Int)
  | float (x : Binary64)
deriving DecidableEq, Inhabited, Repr

namespace Number

def largestSigned : Int := 2 ^ 63 - 1
def smallestSigned : Int := -(2 ^ 63)
def largestUnsigned : Int := 2 ^ 64 - 1

-- The integer when it fits 64 signed bits; an integral double is no integer.
def toInt? : Number → Option Int
  | int i => if i ≤ largestSigned then some i else none
  | float _ => none

def toNat? : Number → Option Nat
  | int i => if 0 ≤ i then some i.toNat else none
  | float _ => none

def toBinary64 : Number → Binary64
  | int i => Binary64.ofInt i
  | float x => x

def toRat : Number → Rat
  | int i => i
  | float x => x.toRat

def isIntegral (n : Number) : Bool := n.toRat.den == 1

-- Equality of values of one kind: the two zeros are equal, an integer and a double never are.
def same : Number → Number → Bool
  | int i, int j => i == j
  | float x, float y => x.eq y
  | _, _ => false

instance : BEq Number := ⟨same⟩

def text : Number → String
  | int i => toString i
  | float x => x.jsonText

end Number

inductive Json where
  | null
  | bool (b : Bool)
  | number (n : Number)
  | string (s : String)
  | array (elements : List Json)
  | object (members : List (String × Json))
deriving Inhabited, Repr

abbrev Members := NameMap Json

namespace Json

mutual
def beq : Json → Json → Bool
  | null, null => true
  | bool a, bool b => a == b
  | number m, number n => m == n
  | string s, string t => s == t
  | array xs, array ys => beqList xs ys
  | object xs, object ys => beqMembers xs ys
  | _, _ => false
def beqList : List Json → List Json → Bool
  | [], [] => true
  | x :: xs, y :: ys => beq x y && beqList xs ys
  | _, _ => false
def beqMembers : List (String × Json) → List (String × Json) → Bool
  | [], [] => true
  | (k, x) :: xs, (l, y) :: ys => k == l && beq x y && beqMembers xs ys
  | _, _ => false
end

instance : BEq Json := ⟨beq⟩

mutual
def depth : Json → Nat
  | array xs => depthList xs + 1
  | object ms => depthMembers ms + 1
  | _ => 0
def depthList : List Json → Nat
  | [] => 0
  | x :: xs => max (depth x) (depthList xs)
def depthMembers : List (String × Json) → Nat
  | [] => 0
  | (_, x) :: ms => max (depth x) (depthMembers ms)
end

mutual
def sorted : Json → Json
  | array xs => array (sortedList xs)
  | object ms => object (NameMap.ofList (sortedMembers ms))
  | v => v
def sortedList : List Json → List Json
  | [] => []
  | x :: xs => sorted x :: sortedList xs
def sortedMembers : List (String × Json) → List (String × Json)
  | [] => []
  | (k, x) :: ms => (k, sorted x) :: sortedMembers ms
end

def ofInt (i : Int) : Json := number (.int i)

def ofNat (n : Nat) : Json := number (.int n)

-- A double as a value; infinities and NaN have no number and become null.
def ofBinary64 (x : Binary64) : Json := if x.isFinite then number (.float x) else null

def isNull : Json → Bool
  | null => true
  | _ => false

def isString : Json → Bool
  | string _ => true
  | _ => false

def isBool : Json → Bool
  | bool _ => true
  | _ => false

def isNumber : Json → Bool
  | number _ => true
  | _ => false

def isObject : Json → Bool
  | object _ => true
  | _ => false

def bool? : Json → Option Bool
  | bool b => some b
  | _ => none

def number? : Json → Option Number
  | number n => some n
  | _ => none

def int? (v : Json) : Option Int := v.number?.bind Number.toInt?

def nat? (v : Json) : Option Nat := v.number?.bind Number.toNat?

def binary64? (v : Json) : Option Binary64 := v.number?.map Number.toBinary64

def string? : Json → Option String
  | string s => some s
  | _ => none

def array? : Json → Option (List Json)
  | array xs => some xs
  | _ => none

def object? : Json → Option Members
  | object ms => some ms
  | _ => none

def get? (v : Json) (name : String) : Option Json := v.object?.bind (NameMap.get? · name)

def has (v : Json) (name : String) : Bool := (v.get? name).isSome

-- The member of that name, set; a value that is no object stays as it is.
def set (v : Json) (name : String) (w : Json) : Json :=
  match v with
  | object ms => object (NameMap.insert ms name w)
  | v => v

end Json

end SchemaProbe
