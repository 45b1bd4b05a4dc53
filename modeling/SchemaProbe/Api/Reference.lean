import SchemaProbe.Api.Fault
import SchemaProbe.Json.Pointer

set_option autoImplicit false

namespace SchemaProbe.Reference

def deepest : Nat := 20

def reference? (v : Json) : Option String := (v.get? "$ref").bind Json.string?

def lookup (doc : Json) (place reference : String) : Except DocumentFault Json :=
  match Text.dropPrefix? "#" reference with
  | none => .error (.externalReference place reference)
  | some pointer =>
    match doc.at? pointer with
    | none => .error (.unresolvableReference place reference)
    | some v => .ok v

def followFrom (doc : Json) (place : String) : Nat → Json → Except DocumentFault Json
  | 0, _ => .error (.chainTooDeep place)
  | n + 1, v =>
    match reference? v with
    | none => .ok v
    | some r => (lookup doc place r).bind (followFrom doc place n)

def follow (doc : Json) (place : String) (v : Json) : Except DocumentFault Json := followFrom doc place deepest v

mutual
-- Replaces every reference by what `expand` makes of it; what stands beside a reference is dropped.
def replace (expand : String → Except DocumentFault Json) : Json → Except DocumentFault Json
  | .object ms =>
    match reference? (.object ms) with
    | some r => expand r
    | none => (replaceMembers expand ms).map .object
  | .array xs => (replaceList expand xs).map .array
  | v => .ok v
def replaceMembers (expand : String → Except DocumentFault Json) :
    List (String × Json) → Except DocumentFault (List (String × Json))
  | [] => .ok []
  | (k, v) :: ms => do
    let w ← replace expand v
    let rest ← replaceMembers expand ms
    return (k, w) :: rest
def replaceList (expand : String → Except DocumentFault Json) : List Json → Except DocumentFault (List Json)
  | [] => .ok []
  | x :: xs => do
    let y ← replace expand x
    let rest ← replaceList expand xs
    return y :: rest
end

-- `expanding` holds the references being replaced above this one; `budget` is how many more may be nested.
def expand (doc : Json) (place : String) : Nat → List String → String → Except DocumentFault Json
  | 0, _, _ => .ok (.object [])
  | budget + 1, expanding, r =>
    if expanding.contains r then .ok (.object [])
    else do
      let target ← lookup doc place r
      replace (expand doc place budget (r :: expanding)) target

def inline (doc : Json) (place : String) (schema : Json) : Except DocumentFault Json :=
  replace (expand doc place deepest []) schema

end SchemaProbe.Reference
