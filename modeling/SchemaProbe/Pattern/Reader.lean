import SchemaProbe.Pattern.Property
import SchemaProbe.Text.Digit

set_option autoImplicit false

namespace SchemaProbe.Pattern

structure Dialect where
  lookAround : Bool
  references : Bool
  asciiClasses : Bool

inductive Trouble where
  | lookAround
  | malformed
deriving DecidableEq, Repr

structure Flags where
  anyCase : Bool := false
  multiLine : Bool := false
  dotAll : Bool := false
  verbose : Bool := false

structure Cursor where
  rest : List Char
  flags : Flags := {}
  groups : Nat := 0
  names : List String := []

def malformed {α : Type} : Except Trouble α := .error .malformed

def charOfHex? (ds : List Char) : Option Char :=
  if ds.isEmpty then none else (Text.natOfHex? ds).bind Text.charOfCode?

def hexEscape (width : Nat) (cs : List Char) : Except Trouble (Char × List Char) :=
  match cs with
  | '\x7b' :: r =>
    match r.dropWhile (· != '\x7d'), charOfHex? (r.takeWhile (· != '\x7d')) with
    | _ :: rest, some c => .ok (c, rest)
    | _, _ => malformed
  | cs =>
    if cs.length < width then malformed
    else match charOfHex? (cs.take width) with
      | some c => .ok (c, cs.drop width)
      | none => malformed

def asciiDigit : CharSet := .range '0' '9'
def asciiAlpha : CharSet := .union (.range 'A' 'Z') (.range 'a' 'z')
def asciiWord : CharSet := .unionAll [asciiDigit, asciiAlpha, .single '_']

-- Blanks of the ASCII dialect: these ten characters.
def plainBlank : CharSet :=
  .unionAll ([' ', '\t', '\n', '\r', '\x0b', '\x0c', '\u2003', '\ufeff', '\u2029', '\u00a0'].map .single)

def shortClass? (d : Dialect) (c : Char) : Option CharSet :=
  let digits : CharSet := if d.asciiClasses then asciiDigit else .decimalDigit
  let words : CharSet := if d.asciiClasses then asciiWord else .word
  let blanks : CharSet := if d.asciiClasses then plainBlank else .blank
  if c = 'd' then some digits
  else if c = 'D' then some (.compl digits)
  else if c = 'w' then some words
  else if c = 'W' then some (.compl words)
  else if c = 's' then some blanks
  else if c = 'S' then some (.compl blanks)
  else none

def propertyClass (negated : Bool) (cs : List Char) : Except Trouble (CharSet × List Char) := do
  let (negated, name, rest) ← match cs with
    | '\x7b' :: '^' :: r => .ok (!negated, r.takeWhile (· != '\x7d'), r.dropWhile (· != '\x7d') |>.drop 1)
    | '\x7b' :: r => .ok (negated, r.takeWhile (· != '\x7d'), r.dropWhile (· != '\x7d') |>.drop 1)
    | c :: r => .ok (negated, [c], r)
    | [] => malformed
  match CharSet.ofProperty? name with
  | some s => .ok (if negated then .compl s else s, rest)
  | none => malformed

-- What an escape stands for, with what follows the letter behind the backslash.
inductive Escape where
  | char (c : Char)
  | set (s : CharSet)
  | anchor (a : Anchor)
  | again (index : Nat)

def boundary (cs : List Char) : Anchor × List Char :=
  match cs with
  | '\x7b' :: 's' :: 't' :: 'a' :: 'r' :: 't' :: '\x7d' :: r => (.wordStart, r)
  | '\x7b' :: 'e' :: 'n' :: 'd' :: '\x7d' :: r => (.wordEnd, r)
  | cs => (.wordBoundary, cs)

def controlChar? (c : Char) : Option Char :=
  if c = 'n' then some '\n'
  else if c = 't' then some '\t'
  else if c = 'r' then some '\r'
  else if c = 'f' then some '\x0c'
  else if c = 'v' then some '\x0b'
  else if c = 'a' then some '\x07'
  else none

def readEscape (d : Dialect) (cs : List Char) : Except Trouble (Escape × List Char) :=
  match cs with
  | [] => malformed
  | c :: rest =>
    if c.isDigit then
      if d.references && c ≠ '0' then
        let ds := (c :: rest).takeWhile Char.isDigit
        .ok (.again (Text.natOfDigits ds), (c :: rest).dropWhile Char.isDigit)
      else malformed
    else if c = 'x' then (hexEscape 2 rest).map fun (c, r) => (.char c, r)
    else if c = 'u' then (hexEscape 4 rest).map fun (c, r) => (.char c, r)
    else if c = 'U' then (hexEscape 8 rest).map fun (c, r) => (.char c, r)
    else if c = 'p' || c = 'P' then (propertyClass (c = 'P') rest).map fun (s, r) => (.set s, r)
    else if c = 'A' then .ok (.anchor .textStart, rest)
    else if c = 'z' then .ok (.anchor .textEnd, rest)
    else if c = 'b' then (boundary rest).map Escape.anchor id |> .ok
    else if c = 'B' then .ok (.anchor .noWordBoundary, rest)
    else if c = '<' then .ok (.anchor .wordStart, rest)
    else if c = '>' then .ok (.anchor .wordEnd, rest)
    else match shortClass? d c, controlChar? c with
      | some s, _ => .ok (.set s, rest)
      | none, some e => .ok (.char e, rest)
      | none, none => if c.isAlphanum || 0x80 ≤ c.toNat then malformed else .ok (.char c, rest)

def namedClass? (name : String) : Option CharSet :=
  match name with
  | "alnum" => some (.union asciiDigit asciiAlpha)
  | "alpha" => some asciiAlpha
  | "ascii" => some (.range '\x00' '\x7f')
  | "blank" => some (.union (.single ' ') (.single '\t'))
  | "cntrl" => some (.union (.range '\x00' '\x1f') (.single '\x7f'))
  | "digit" => some asciiDigit
  | "graph" => some (.range '!' '~')
  | "lower" => some (.range 'a' 'z')
  | "print" => some (.range ' ' '~')
  | "punct" =>
    some (.unionAll [.range '!' '/', .range ':' '@', .range '[' '\x60', .range '\x7b' '~'])
  | "space" => some (.union (.range '\t' '\r') (.single ' '))
  | "upper" => some (.range 'A' 'Z')
  | "word" => some asciiWord
  | "xdigit" => some (.unionAll [asciiDigit, .range 'A' 'F', .range 'a' 'f'])
  | _ => none

def readNamedClass? (cs : List Char) : Option (CharSet × List Char) :=
  match cs with
  | ':' :: r =>
    let (negated, r) := match r with
      | '^' :: r => (true, r)
      | r => (false, r)
    match r.dropWhile (· != ':') with
    | ':' :: ']' :: rest =>
      (namedClass? (String.ofList (r.takeWhile (· != ':')))).map fun s => (if negated then .compl s else s, rest)
    | _ => none
  | _ => none

def skipVerbose (flags : Flags) (cs : List Char) : List Char :=
  if flags.verbose then go cs.length cs else cs
where
  go : Nat → List Char → List Char
    | 0, cs => cs
    | n + 1, cs =>
      match cs with
      | '#' :: r => go n (r.dropWhile (· != '\n'))
      | c :: r => if Category.isBlank c then go n r else c :: r
      | [] => []

def readClassAtom (d : Dialect) (cs : List Char) : Except Trouble (Escape × List Char) :=
  match cs with
  | [] => malformed
  | '\\' :: r => readEscape d r
  | c :: r => .ok (.char c, r)

def Escape.set? : Escape → Except Trouble CharSet
  | char c => .ok (.single c)
  | set s => .ok s
  | _ => malformed

def readClassRange (d : Dialect) (cs : List Char) : Except Trouble (CharSet × List Char) := do
  let (first, rest) ← readClassAtom d cs
  match rest with
  | '-' :: c :: r =>
    if c = ']' || c = '-' then return (← first.set?, rest)
    else
      let (last, rest) ← readClassAtom d (c :: r)
      match first, last with
      | .char a, .char b => if a ≤ b then return (.range a b, rest) else malformed
      | _, _ => malformed
  | rest => return (← first.set?, rest)

inductive SetOperator where
  | inter
  | diff
  | symmetric

def SetOperator.apply : SetOperator → CharSet → CharSet → CharSet
  | inter, a, b => .inter a b
  | diff, a, b => a.diff b
  | symmetric, a, b => .union (a.diff b) (b.diff a)

mutual
def readClass (d : Dialect) (flags : Flags) : Nat → List Char → Except Trouble (CharSet × List Char)
  | 0, _ => malformed
  | fuel + 1, cs => do
    let (negated, cs) := match cs with
      | '^' :: r => (true, r)
      | r => (false, r)
    let dashes := cs.takeWhile (· = '-')
    let cs := cs.drop dashes.length
    let start : List CharSet := if dashes.isEmpty then [] else [.single '-']
    let (start, cs) := match cs with
      | ']' :: r => if dashes.isEmpty then ([CharSet.single ']'], r) else (start, cs)
      | cs => (start, cs)
    let (s, rest) ← readClassItems d flags none (CharSet.unionAll start) fuel cs
    let s := if flags.anyCase then .anyCase s else s
    return (if negated then .compl s else s, rest)

-- The items up to the closing bracket; `pending` is the left operand of a set operator.
def readClassItems (d : Dialect) (flags : Flags) (pending : Option (CharSet × SetOperator)) (acc : CharSet) :
    Nat → List Char → Except Trouble (CharSet × List Char)
  | 0, _ => malformed
  | fuel + 1, cs =>
    let settled := match pending with
      | some (left, op) => op.apply left acc
      | none => acc
    match skipVerbose flags cs with
    | [] => malformed
    | ']' :: rest => .ok (settled, rest)
    | '&' :: '&' :: rest => readClassItems d flags (some (settled, .inter)) .empty fuel rest
    | '-' :: '-' :: rest => readClassItems d flags (some (settled, .diff)) .empty fuel rest
    | '~' :: '~' :: rest => readClassItems d flags (some (settled, .symmetric)) .empty fuel rest
    | '[' :: rest =>
      match readNamedClass? rest with
      | some (s, rest) => readClassItems d flags pending (.union acc s) fuel rest
      | none => do
        let (s, rest) ← readClass d flags fuel rest
        readClassItems d flags pending (.union acc s) fuel rest
    | c :: rest => do
      let (s, rest) ← readClassRange d (c :: rest)
      readClassItems d flags pending (.union acc s) fuel rest
end

def readCount? (cs : List Char) : Option (Nat × List Char) :=
  let ds := cs.takeWhile Char.isDigit
  if ds.isEmpty then none else some (Text.natOfDigits ds, cs.dropWhile Char.isDigit)

def readBounds (cs : List Char) : Except Trouble ((Nat × Option Nat) × List Char) :=
  match readCount? cs with
  | none => malformed
  | some (n, '\x7d' :: rest) => .ok ((n, some n), rest)
  | some (n, ',' :: '\x7d' :: rest) => .ok ((n, none), rest)
  | some (n, ',' :: rest) =>
    match readCount? rest with
    | some (m, '\x7d' :: rest) => if n ≤ m then .ok ((n, some m), rest) else malformed
    | _ => malformed
  | some _ => malformed

def skipLazy (cs : List Char) : List Char :=
  match cs with
  | '?' :: r => r
  | r => r

def readRepeats (flags : Flags) (p : Pattern) : Nat → List Char → Except Trouble (Pattern × List Char)
  | 0, cs => .ok (p, cs)
  | fuel + 1, cs =>
    match skipVerbose flags cs with
    | '*' :: r => readRepeats flags (.repeated p 0 none) fuel (skipLazy r)
    | '+' :: r => readRepeats flags (.repeated p 1 none) fuel (skipLazy r)
    | '?' :: r => readRepeats flags (.repeated p 0 (some 1)) fuel (skipLazy r)
    | '\x7b' :: r => do
      let ((n, m), r) ← readBounds r
      readRepeats flags (.repeated p n m) fuel (skipLazy r)
    | cs => .ok (p, cs)

def readFlags (flags : Flags) (on any : Bool) : List Char → Except Trouble (Flags × Char × List Char)
  | [] => malformed
  | c :: rest =>
    if c = ')' || c = ':' then if any then .ok (flags, c, rest) else malformed
    else if c = '-' then if on then readFlags flags false false rest else malformed
    else if c = 'i' then readFlags { flags with anyCase := on } on true rest
    else if c = 'm' then readFlags { flags with multiLine := on } on true rest
    else if c = 's' then readFlags { flags with dotAll := on } on true rest
    else if c = 'x' then readFlags { flags with verbose := on } on true rest
    else if c = 'U' || c = 'u' || c = 'R' then readFlags flags on true rest
    else malformed

def readGroupName (names : List String) (cs : List Char) : Except Trouble (String × List Char) :=
  let name := cs.takeWhile (· != '>')
  match cs.dropWhile (· != '>') with
  | [] => malformed
  | _ :: rest =>
    match name with
    | [] => malformed
    | c :: r =>
      let text := String.ofList name
      if (c = '_' || Category.isLetter c) && r.all (fun c => Category.isWord c || c = '.' || c = '[' || c = ']') &&
          !names.contains text then .ok (text, rest)
      else malformed

def literal (flags : Flags) (s : CharSet) : Pattern := .set (if flags.anyCase then .anyCase s else s)

def dot (flags : Flags) : Pattern := .set (if flags.dotAll then .any else .compl (.single '\n'))

def lookAroundOf? (cs : List Char) : Option ((Pattern → Pattern) × List Char) :=
  match cs with
  | '?' :: '=' :: r => some (.ahead true, r)
  | '?' :: '!' :: r => some (.ahead false, r)
  | '?' :: '<' :: '=' :: r => some (.behind true, r)
  | '?' :: '<' :: '!' :: r => some (.behind false, r)
  | _ => none

mutual
def readAlternatives (d : Dialect) : Nat → Cursor → Except Trouble (Pattern × Cursor)
  | 0, _ => malformed
  | fuel + 1, cur => do
    let (p, cur) ← readSequence d fuel cur
    match cur.rest with
    | '|' :: rest => do
      let (q, cur) ← readAlternatives d fuel { cur with rest }
      return (.alt p q, cur)
    | _ => return (p, cur)

def readSequence (d : Dialect) : Nat → Cursor → Except Trouble (Pattern × Cursor)
  | 0, _ => malformed
  | fuel + 1, cur =>
    match skipVerbose cur.flags cur.rest with
    | [] => .ok (.empty, { cur with rest := [] })
    | '|' :: rest => .ok (.empty, { cur with rest := '|' :: rest })
    | ')' :: rest => .ok (.empty, { cur with rest := ')' :: rest })
    | cs => do
      let (item, cur) ← readItem d fuel { cur with rest := cs }
      match item with
      | none => readSequence d fuel cur
      | some p => do
        let (p, rest) ← readRepeats cur.flags p cur.rest.length cur.rest
        let (q, cur) ← readSequence d fuel { cur with rest }
        return (.seq p q, cur)

-- One item before its repetitions; a change of flags is no item.
def readItem (d : Dialect) : Nat → Cursor → Except Trouble (Option Pattern × Cursor)
  | 0, _ => malformed
  | fuel + 1, cur =>
    match cur.rest with
    | [] => malformed
    | '(' :: rest => readGroup d fuel { cur with rest }
    | '.' :: rest => .ok (some (dot cur.flags), { cur with rest })
    | '^' :: rest => .ok (some (.anchor (if cur.flags.multiLine then .lineStart else .textStart)), { cur with rest })
    | '$' :: rest => .ok (some (.anchor (if cur.flags.multiLine then .lineEnd else .textEnd)), { cur with rest })
    | '[' :: rest => do
      let (s, rest) ← readClass d cur.flags (rest.length + 1) rest
      return (some (.set s), { cur with rest })
    | '\\' :: rest => do
      let (e, rest) ← readEscape d rest
      let p := match e with
        | .char c => literal cur.flags (.single c)
        | .set s => literal cur.flags s
        | .anchor a => .anchor a
        | .again n => .again n
      return (some p, { cur with rest })
    | c :: rest =>
      if c = '*' || c = '+' || c = '?' || c = '\x7b' then malformed
      else .ok (some (literal cur.flags (.single c)), { cur with rest })

-- A group behind its opening bracket. Flags set inside it end with it.
def readGroup (d : Dialect) : Nat → Cursor → Except Trouble (Option Pattern × Cursor)
  | 0, _ => malformed
  | fuel + 1, cur =>
    match lookAroundOf? cur.rest with
    | some (look, rest) =>
      if d.lookAround then readBody d look fuel { cur with rest } cur.flags else .error .lookAround
    | none =>
      match cur.rest with
      | '?' :: 'P' :: '<' :: rest => readNamed d fuel { cur with rest }
      | '?' :: '<' :: rest => readNamed d fuel { cur with rest }
      | '?' :: rest => do
        let (flags, stop, rest) ← match rest with
          | ':' :: r => .ok (cur.flags, ':', r)
          | r => readFlags cur.flags true false r
        if stop = ')' then return (none, { cur with rest, flags })
        else readBody d id fuel { cur with rest, flags } cur.flags
      | _ =>
        let index := cur.groups + 1
        readBody d (.group index) fuel { cur with groups := index } cur.flags

def readNamed (d : Dialect) : Nat → Cursor → Except Trouble (Option Pattern × Cursor)
  | 0, _ => malformed
  | fuel + 1, cur => do
    let (name, rest) ← readGroupName cur.names cur.rest
    let index := cur.groups + 1
    readBody d (.group index) fuel { cur with rest, groups := index, names := name :: cur.names } cur.flags

def readBody (d : Dialect) (wrap : Pattern → Pattern) :
    Nat → Cursor → Flags → Except Trouble (Option Pattern × Cursor)
  | 0, _, _ => malformed
  | fuel + 1, cur, outer => do
    let (p, cur) ← readAlternatives d fuel cur
    match cur.rest with
    | ')' :: rest => return (some (wrap p), { cur with rest, flags := outer })
    | _ => malformed
end

def refersBack : Pattern → Bool
  | seq p q | alt p q => p.refersBack || q.refersBack
  | repeated p _ _ | group _ p | ahead _ p | behind _ p => p.refersBack
  | again _ => true
  | empty | set _ | anchor _ => false

-- Groups matter only to what refers back to them.
def dropGroups : Pattern → Pattern
  | seq p q => .seq p.dropGroups q.dropGroups
  | alt p q => .alt p.dropGroups q.dropGroups
  | repeated p n m => .repeated p.dropGroups n m
  | group _ p => p.dropGroups
  | ahead b p => .ahead b p.dropGroups
  | behind b p => .behind b p.dropGroups
  | p => p

def read (d : Dialect) (source : String) : Except Trouble Pattern := do
  let cs := source.toList
  let (p, cur) ← readAlternatives d (8 * cs.length + 8) { rest := cs }
  match cur.rest with
  | [] => return if p.refersBack then p else p.dropGroups
  | _ => malformed

-- Patterns without look-around and references, over the classes of every script.
def plain : Dialect := ⟨false, false, false⟩

def plainAscii : Dialect := ⟨false, false, true⟩

def extended : Dialect := ⟨true, true, false⟩

def parameter? (source : String) : Option Pattern := (read plain source).toOption

-- The pattern of a validated schema: short classes are ASCII unless there is look-around.
def schema? (source : String) : Option Pattern :=
  match read plainAscii source with
  | .ok p => some p
  | .error .lookAround => (read extended source).toOption
  | .error .malformed => none

end SchemaProbe.Pattern
