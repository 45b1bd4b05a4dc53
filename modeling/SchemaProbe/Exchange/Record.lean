import SchemaProbe.Exchange.Reply
import SchemaProbe.Exchange.Request

set_option autoImplicit false

namespace SchemaProbe

structure RequestRecord where
  method : String
  url : String
  headers : NameMap String := []
  body : Option String := none
deriving DecidableEq, Repr

structure ReplyRecord where
  status : UInt16
  headers : NameMap String := []
  body : Option String := none
  elapsedMillis : UInt64 := 0
deriving DecidableEq, Repr

def Request.record (r : Request) : RequestRecord :=
  { method := r.method.text
    url := r.url.text
    headers := r.headers.joined
    body := r.body.text? }

namespace Excerpt

def largest : Nat := 4096

-- Goes back from a place, counted in bytes, to the next one that is not within a character.
def back (body : String) : Nat → Nat
  | 0 => 0
  | n + 1 => if String.Pos.Raw.isValid body ⟨n + 1⟩ then n + 1 else back body n

theorem isValid_back (body : String) (n : Nat) : String.Pos.Raw.IsValid body ⟨back body n⟩ := by
  induction n with
  | zero => exact String.Pos.Raw.isValid_zero
  | succ n ih =>
    rw [back]
    split
    next between => exact String.Pos.Raw.isValid_eq_true_iff.mp between
    next => exact ih

-- A text can be cut only where no character is cut through.
def kept (body : String) : String := (body.sliceTo (body.pos ⟨back body largest⟩ (isValid_back body largest))).copy

def marker (body : String) : String := "…(" ++ toString (Text.byteLength body) ++ " bytes total)"

def ofBody (body : String) : Option String :=
  if body.isEmpty then none
  else if Text.byteLength body ≤ largest then some body
  else some (kept body ++ marker body)

end Excerpt

def Reply.record (r : Reply) : ReplyRecord :=
  { status := r.status
    headers := r.headers.joined
    body := Excerpt.ofBody r.body
    elapsedMillis := (min (r.elapsedMicros / 1000) (2 ^ 64 - 1)).toUInt64 }

end SchemaProbe
