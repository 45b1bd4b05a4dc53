import SchemaProbe.Json.Basic

set_option autoImplicit false

namespace SchemaProbe.JsonSchema

inductive Position where
  | data
  -- One schema; an array in its place is read as several.
  | schema
  | schemas
  | named
deriving DecidableEq, Repr

inductive Sub (α : Type) where
  | none
  | one (a : α)
  | many (as : List α)
  | named (as : List (String × α))

structure Entry (α : Type) where
  keyword : String
  value : Json
  sub : Sub α

mutual
-- Folds over a schema: `leaf` for what is no object, `node` for the entries of an object, subschemas folded.
def fold {α : Type} (position : String → Position) (leaf : Json → α) (node : List (Entry α) → α) : Json → α
  | .object ms => node (foldMembers position leaf node ms)
  | v => leaf v
def foldMembers {α : Type} (position : String → Position) (leaf : Json → α) (node : List (Entry α) → α) :
    List (String × Json) → List (Entry α)
  | [] => []
  | (k, v) :: ms =>
    ⟨k, v, match position k, v with
      | .data, _ => .none
      | .schema, .array xs => .many (foldList position leaf node xs)
      | .schema, v => .one (fold position leaf node v)
      | .schemas, .array xs => .many (foldList position leaf node xs)
      | .schemas, _ => .none
      | .named, .object ps => .named (foldNamed position leaf node ps)
      | .named, _ => .none⟩ :: foldMembers position leaf node ms
def foldList {α : Type} (position : String → Position) (leaf : Json → α) (node : List (Entry α) → α) :
    List Json → List α
  | [] => []
  | x :: xs => fold position leaf node x :: foldList position leaf node xs
def foldNamed {α : Type} (position : String → Position) (leaf : Json → α) (node : List (Entry α) → α) :
    List (String × Json) → List (String × α)
  | [] => []
  | (k, x) :: ms => (k, fold position leaf node x) :: foldNamed position leaf node ms
end

def Sub.one? {α : Type} : Sub α → Option α
  | one a => some a
  | _ => Option.none

def Sub.many? {α : Type} : Sub α → Option (List α)
  | many as => some as
  | _ => Option.none

def Sub.named? {α : Type} : Sub α → Option (List (String × α))
  | named as => some as
  | _ => Option.none

def Sub.map {α β : Type} (f : α → β) : Sub α → Sub β
  | none => .none
  | one a => .one (f a)
  | many as => .many (as.map f)
  | named as => .named (as.map fun a => (a.1, f a.2))

def Entry.map {α β : Type} (f : α → β) (e : Entry α) : Entry β := ⟨e.keyword, e.value, e.sub.map f⟩

def entryFor {α : Type} (es : List (Entry α)) (keyword : String) : Option (Entry α) := es.find? (·.keyword == keyword)

def subNamed {α : Type} (es : List (Entry α)) (keyword : String) : List (String × α) :=
  ((entryFor es keyword).bind fun e => e.sub.named?).getD []

def subMany {α : Type} (es : List (Entry α)) (keyword : String) : List α :=
  ((entryFor es keyword).bind fun e => e.sub.many?).getD []

def subOne? {α : Type} (es : List (Entry α)) (keyword : String) : Option α :=
  (entryFor es keyword).bind fun e => e.sub.one?

def position (keyword : String) : Position :=
  match keyword with
  | "items" | "additionalProperties" | "not" | "contains" | "propertyNames" | "if" | "then" | "else"
  | "unevaluatedItems" | "unevaluatedProperties" | "contentSchema" => .schema
  | "allOf" | "anyOf" | "oneOf" | "prefixItems" => .schemas
  | "properties" | "patternProperties" | "definitions" | "$defs" | "dependentSchemas" => .named
  | _ => .data

mutual
def same : Json → Json → Bool
  | .null, .null => true
  | .bool a, .bool b => a == b
  | .number m, .number n => m.toRat == n.toRat
  | .string s, .string t => s == t
  | .array xs, .array ys => sameList xs ys
  | .object xs, .object ys => sameMembers xs ys
  | _, _ => false
def sameList : List Json → List Json → Bool
  | [], [] => true
  | x :: xs, y :: ys => same x y && sameList xs ys
  | _, _ => false
def sameMembers : List (String × Json) → List (String × Json) → Bool
  | [], [] => true
  | (k, x) :: xs, (l, y) :: ys => k == l && same x y && sameMembers xs ys
  | _, _ => false
end

def typeNames : List String := ["array", "boolean", "integer", "null", "number", "object", "string"]

def hasType (name : String) (v : Json) : Bool :=
  match name, v with
  | "null", .null | "boolean", .bool _ | "number", .number _ | "string", .string _ | "array", .array _
  | "object", .object _ => true
  | "integer", .number n => n.isIntegral
  | _, _ => false

end SchemaProbe.JsonSchema
