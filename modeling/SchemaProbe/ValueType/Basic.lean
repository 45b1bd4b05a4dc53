import SchemaProbe.Json.Basic
import SchemaProbe.Pattern.Reader
import SchemaProbe.TextFormat

set_option autoImplicit false

namespace SchemaProbe

-- A pattern by its source; one that cannot be read accepts nothing.
structure TextPattern where
  source : String
  pattern : Option Pattern
deriving DecidableEq, Repr

namespace TextPattern

def ofSource (source : String) : TextPattern := ⟨source, Pattern.parameter? source⟩

def accepts (p : TextPattern) (s : String) : Bool := p.pattern.any (·.occursIn s)

end TextPattern

structure TextRule where
  format : Option String := none
  minLength : Option Nat := none
  maxLength : Option Nat := none
  patterns : List TextPattern := []
  choices : Option (List String) := none
  examples : List String := []
deriving DecidableEq, Repr, Inhabited

-- Both bounds are inclusive.
structure IntegerRule where
  minimum : Option Int := none
  maximum : Option Int := none
  multipleOf : Option Int := none
  choices : Option (List Int) := none
deriving DecidableEq, Repr, Inhabited

structure NumberRule where
  minimum : Option Binary64 := none
  maximum : Option Binary64 := none
  exclusiveMinimum : Bool := false
  exclusiveMaximum : Bool := false
  multipleOf : Option Binary64 := none
  choices : Option (List Binary64) := none
deriving DecidableEq, Repr, Inhabited

structure ArrayRule where
  minItems : Nat := 0
  maxItems : Option Nat := none
  uniqueItems : Bool := false
deriving DecidableEq, Repr, Inhabited

structure Property (α : Type) where
  name : String
  required : Bool
  type : α
deriving Repr, Inhabited

inductive ValueType where
  | text (nullable : Bool) (rule : TextRule)
  | integer (nullable : Bool) (rule : IntegerRule)
  | number (nullable : Bool) (rule : NumberRule)
  | boolean (nullable : Bool)
  | array (nullable : Bool) (items : ValueType) (rule : ArrayRule)
  | object (nullable : Bool) (properties : List (Property ValueType))
  | any (nullable : Bool)
deriving Repr, Inhabited

def TextRule.accepts (r : TextRule) (s : String) : Bool :=
  match r.choices with
  | some values => values.contains s
  | none =>
    r.minLength.all (· ≤ s.length) && r.maxLength.all (s.length ≤ ·) && r.patterns.all (·.accepts s) &&
      r.format.all (TextFormat.accepts · s)

def IntegerRule.accepts (r : IntegerRule) (i : Int) : Bool :=
  match r.choices with
  | some values => values.contains i
  | none => r.minimum.all (· ≤ i) && r.maximum.all (i ≤ ·) && r.multipleOf.all (i % · == 0)

-- Integral steps divide by the remainder. Other steps need an exact integer quotient of the two binary values and admit
-- nothing between zero and the step.
def Binary64.isMultipleOf (x step : Binary64) : Bool :=
  if step.isIntegral then x.isIntegral && (x % step).isZero
  else if x.isZero then true
  else if x.lt step then false
  else
    let (a, e) := x.oddPart
    let (b, f) := step.oddPart
    f ≤ e && a % b == 0

def NumberRule.accepts (r : NumberRule) (x : Binary64) : Bool :=
  if !x.isFinite then false
  else match r.choices with
    | some values => values.any fun v => (v - x).abs.lt Binary64.epsilon
    | none =>
      r.minimum.all (fun lo => if r.exclusiveMinimum then lo.lt x else lo.le x) &&
        r.maximum.all (fun hi => if r.exclusiveMaximum then x.lt hi else x.le hi) &&
        r.multipleOf.all x.isMultipleOf

def Json.distinct (xs : List Json) : Bool :=
  match xs with
  | [] => true
  | x :: rest => !rest.contains x && distinct rest

def ArrayRule.accepts (r : ArrayRule) (xs : List Json) : Bool :=
  r.minItems ≤ xs.length && r.maxItems.all (xs.length ≤ ·) && (!r.uniqueItems || Json.distinct xs)

namespace ValueType

def nullable : ValueType → Bool
  | text n _ | integer n _ | number n _ | boolean n | array n _ _ | object n _ | any n => n

def orNull (n : Bool) : ValueType → ValueType
  | text m r => text (m || n) r
  | integer m r => integer (m || n) r
  | number m r => number (m || n) r
  | boolean m => boolean (m || n)
  | array m items r => array (m || n) items r
  | object m ps => object (m || n) ps
  | any m => any (m || n)

def isAny : ValueType → Bool
  | any _ => true
  | _ => false

def name : ValueType → String
  | text .. => "string"
  | integer .. => "integer"
  | number .. => "number"
  | boolean .. => "boolean"
  | array .. => "array"
  | object .. => "object"
  | any .. => "any"

def properties : ValueType → List (Property ValueType)
  | object _ ps => ps
  | _ => []

def hasOptional (t : ValueType) : Bool := t.properties.any (!·.required)

mutual
def accepts : ValueType → Json → Bool
  | any _, _ => true
  | t, .null => t.nullable
  | text _ r, v => v.string?.any r.accepts
  | integer _ r, v => v.int?.any r.accepts
  | number _ r, v => v.binary64?.any r.accepts
  | boolean _, v => v.isBool
  | array _ items r, v => v.array?.any fun xs => r.accepts xs && xs.all (accepts items)
  | object _ ps, v => v.object?.any (acceptsMembers ps)
-- Every declared member that is present is accepted, and the required ones are present.
def acceptsMembers : List (Property ValueType) → Members → Bool
  | [], _ => true
  | ⟨name, required, t⟩ :: ps, ms =>
    (match NameMap.get? ms name with
      | some v => accepts t v
      | none => !required) && acceptsMembers ps ms
end

end ValueType

end SchemaProbe
