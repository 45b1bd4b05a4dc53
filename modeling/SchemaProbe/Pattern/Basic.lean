import SchemaProbe.Text.Category
import SchemaProbe.Text.LetterCase

set_option autoImplicit false

namespace SchemaProbe

inductive CharSet where
  | any
  | range (first last : Char)
  | decimalDigit
  | word
  | blank
  | ranges (runs : List (Nat × Nat))
  -- Every second code point or so, from the first to the last.
  | steps (runs : List (Nat × Nat × Nat))
  | compl (a : CharSet)
  | union (a b : CharSet)
  | inter (a b : CharSet)
  -- Letters count in either case.
  | anyCase (a : CharSet)
deriving DecidableEq, Repr, Inhabited

namespace CharSet

def contains : CharSet → Char → Bool
  | any, _ => true
  | range a b, c => a ≤ c && c ≤ b
  | decimalDigit, c => Category.isDecimalDigit c
  | word, c => Category.isWord c
  | blank, c => Category.isBlank c
  | ranges runs, c => Category.holds runs c
  | steps runs, c => Category.holdsSteps runs c
  | compl a, c => !a.contains c
  | union a b, c => a.contains c || b.contains c
  | inter a b, c => a.contains c && b.contains c
  | anyCase a, c => a.contains c || a.contains (LetterCase.lower c) || a.contains (LetterCase.upper c)

def single (c : Char) : CharSet := range c c

def empty : CharSet := compl any

def unionAll (sets : List CharSet) : CharSet := sets.foldl union empty

def diff (a b : CharSet) : CharSet := inter a (compl b)

end CharSet

inductive Anchor where
  | textStart
  | textEnd
  | lineStart
  | lineEnd
  | wordBoundary
  | noWordBoundary
  | wordStart
  | wordEnd
deriving DecidableEq, Repr

inductive Pattern where
  | empty
  | set (s : CharSet)
  | anchor (a : Anchor)
  | seq (p q : Pattern)
  | alt (p q : Pattern)
  | repeated (p : Pattern) (atLeast : Nat) (atMost : Option Nat)
  | group (index : Nat) (p : Pattern)
  | ahead (holds : Bool) (p : Pattern)
  | behind (holds : Bool) (p : Pattern)
  | again (index : Nat)
deriving DecidableEq, Repr, Inhabited

structure Spot where
  pos : Nat
  groups : List (Nat × Nat × Nat)
deriving DecidableEq, Repr

namespace Spot

def addNew (xs ys : List Spot) : List Spot := ys.foldl (fun acc y => if acc.contains y then acc else acc ++ [y]) xs

def record (index start : Nat) (s : Spot) : Spot :=
  { s with groups := (index, start, s.pos) :: s.groups.filter (·.1 != index) }

def group? (index : Nat) (s : Spot) : Option (Nat × Nat) :=
  s.groups.lookup index

end Spot

def Anchor.holds (text : Array Char) (pos : Nat) : Anchor → Bool
  | textStart => pos == 0
  | textEnd => pos == text.size
  | lineStart => pos == 0 || text[pos - 1]? == some '\n'
  | lineEnd => pos == text.size || text[pos]? == some '\n'
  | wordBoundary => before != after
  | noWordBoundary => before == after
  | wordStart => !before && after
  | wordEnd => before && !after
where
  before : Bool := 0 < pos && (text[pos - 1]?).any Category.isWord
  after : Bool := (text[pos]?).any Category.isWord

namespace Pattern

-- Spots reached by up to `rounds` further matches; it stops when a round brings nothing new.
def closure (once : List Spot → List Spot) (found frontier : List Spot) : Nat → List Spot
  | 0 => found
  | rounds + 1 =>
    let fresh := (once frontier).filter fun s => !found.contains s
    if fresh.isEmpty then found else closure once (Spot.addNew found fresh) (Spot.addNew [] fresh) rounds

def iterate (once : List Spot → List Spot) (spots : List Spot) : Nat → List Spot
  | 0 => spots
  | n + 1 =>
    let next := once spots
    if next.isEmpty || next == spots then next else iterate once next n

-- From the spots where a match may start to those where it may end, so that a search tries every start at once.
def reach (text : Array Char) : Pattern → List Spot → List Spot
  | empty, spots => spots
  | set s, spots =>
    spots.filterMap fun spot =>
      if (text[spot.pos]?).any s.contains then some { spot with pos := spot.pos + 1 } else none
  | anchor a, spots => spots.filter fun spot => a.holds text spot.pos
  | seq p q, spots => reach text q (reach text p spots)
  | alt p q, spots => Spot.addNew (reach text p spots) (reach text q spots)
  | repeated p atLeast atMost, spots =>
    let once := reach text p
    let start := iterate once spots atLeast
    let rounds := match atMost with
      | some m => min (m - atLeast) (text.size + 1)
      | none => text.size + 1
    closure once start start rounds
  | group index p, spots =>
    spots.foldl (fun acc spot => Spot.addNew acc ((reach text p [spot]).map (Spot.record index spot.pos))) []
  | ahead holds p, spots => spots.filter fun spot => !(reach text p [spot]).isEmpty == holds
  | behind holds p, spots =>
    spots.filter fun spot =>
      (List.range (spot.pos + 1)).any
        (fun q => (reach text p [{ spot with pos := q }]).any (·.pos == spot.pos)) == holds
  | again index, spots =>
    spots.filterMap fun spot =>
      match spot.group? index with
      | some (a, b) =>
        if text.extract a b == text.extract spot.pos (spot.pos + (b - a)) then
          some { spot with pos := spot.pos + (b - a) }
        else none
      | none => none

def occursIn (p : Pattern) (text : String) : Bool :=
  let chars := text.toList.toArray
  let starts := (List.range (chars.size + 1)).map fun pos => (⟨pos, []⟩ : Spot)
  !(p.reach chars starts).isEmpty

end Pattern

end SchemaProbe
