import SchemaProbe.Text.Digit

set_option autoImplicit false

namespace SchemaProbe

inductive StatusKey where
  | code (status : Nat)
  | range (hundreds : Nat)
  | default
deriving DecidableEq, Repr, Inhabited

namespace StatusKey

-- Codes are 100 to 599 in three digits, ranges a digit from 1 to 5 and two letters X in either case.
def parse? (key : String) : Option StatusKey :=
  if key = "default" then some default
  else match key.toList with
    | [a, b, c] =>
      if (b = 'X' || b = 'x') && (c = 'X' || c = 'x') then
        if '1' ≤ a ∧ a ≤ '5' then some (range (Text.digitValue a)) else none
      else if [a, b, c].all Char.isDigit then
        let n := Text.natOfDigits [a, b, c]
        if 100 ≤ n ∧ n ≤ 599 then some (code n) else none
      else none
    | _ => none

-- A range is written for a single byte, so that higher statuses have no class.
def class? (status : Nat) : Option Nat := if status / 100 < 256 then some (status / 100) else none

def accepts (key : StatusKey) (status : Nat) : Bool :=
  match key with
  | code n => n == status
  | range n => status / 100 == n
  | default => true

def text : StatusKey → String
  | code n => toString n
  | range n => toString n ++ "XX"
  | default => "default"

-- Codes come before ranges, and the default last.
def rank : StatusKey → Nat × Nat
  | code n => (0, n)
  | range n => (1, n)
  | default => (2, 0)

def before (a b : StatusKey) : Bool := a.rank.1 < b.rank.1 || (a.rank.1 == b.rank.1 && a.rank.2 < b.rank.2)

end StatusKey

abbrev ByStatus (α : Type) := List (StatusKey × α)

namespace ByStatus

variable {α : Type}

def insert : ByStatus α → StatusKey → α → ByStatus α
  | [], k, v => [(k, v)]
  | (l, w) :: rest, k, v =>
    if k = l then (k, v) :: rest
    else if k.before l then (k, v) :: (l, w) :: rest
    else (l, w) :: insert rest k v

def get? (m : ByStatus α) (k : StatusKey) : Option α := m.lookup k

def keys (m : ByStatus α) : List StatusKey := m.map Prod.fst

def find? (m : ByStatus α) (status : Nat) : Option α :=
  (get? m (.code status)).orElse fun _ =>
    ((StatusKey.class? status).bind fun c => get? m (.range c)).orElse fun _ => get? m .default

end ByStatus

end SchemaProbe
