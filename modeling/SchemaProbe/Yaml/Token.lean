import SchemaProbe.Text.Digit

set_option autoImplicit false

namespace SchemaProbe.Yaml

inductive Token where
  | documentStart
  | documentEnd
  | versionDirective
  | tagDirective (handle uri : String)
  | sequenceStart
  | mappingStart
  | blockEnd
  | flowSequenceStart
  | flowSequenceEnd
  | flowMappingStart
  | flowMappingEnd
  | blockEntry
  | flowEntry
  | key
  | value
  | alias (name : String)
  | anchor (name : String)
  | tag (handle suffix : String)
  | scalar (text : String) (plain : Bool)
  | streamEnd
deriving DecidableEq, Repr, Inhabited

structure Place where
  rest : List Char
  line : Nat
  column : Nat
  index : Nat

-- A mapping key is known only by the colon behind it, so its token is put in later, where the key may have started.
structure PendingKey where
  possible : Bool
  required : Bool
  token : Nat
  line : Nat
  column : Nat
  index : Nat

def PendingKey.none : PendingKey := ⟨false, false, 0, 0, 0, 0⟩

structure Scanner where
  place : Place
  tokens : Array Token
  indent : Int
  indents : List Int
  flow : Nat
  keyAllowed : Bool
  -- One per flow level, the innermost first.
  keys : List PendingKey

def isBreak (c : Char) : Bool := c = '\n' || c = '\r' || c = '\u0085' || c = '\u2028' || c = '\u2029'

def isSpace (c : Char) : Bool := c = ' ' || c = '\t'

def endsWord : Option Char → Bool
  | none => true
  | some c => isSpace c || isBreak c

def Place.peek (p : Place) (n : Nat) : Option Char := p.rest[n]?

def Place.next (p : Place) : Place :=
  match p.rest with
  | [] => p
  | _ :: r => { rest := r, line := p.line, column := p.column + 1, index := p.index + 1 }

def Place.skip (p : Place) : Nat → Place
  | 0 => p
  | n + 1 => p.next.skip n

-- Behind the line break, and the character that stands for it.
def Place.nextLine (p : Place) : Option (Char × Place) :=
  match p.rest with
  | '\r' :: '\n' :: r => some ('\n', ⟨r, p.line + 1, 0, p.index + 2⟩)
  | c :: r =>
    if isBreak c then
      some (if c = '\u2028' || c = '\u2029' then c else '\n', ⟨r, p.line + 1, 0, p.index + 1⟩)
    else none
  | [] => none

-- Whether a line starts here with three equal marks that stand alone.
def Place.atMarker (p : Place) (c : Char) : Bool :=
  p.column = 0 && p.peek 0 == some c && p.peek 1 == some c && p.peek 2 == some c && endsWord (p.peek 3)

abbrev Scan := StateT Scanner Option

namespace Scan

def fail {α : Type} : Scan α := fun _ => none

def require (b : Bool) : Scan Unit := if b then pure () else fail

def place : Scan Place := do return (← get).place

def moveTo (p : Place) : Scan Unit := modify fun s => { s with place := p }

def peek (n : Nat) : Scan (Option Char) := do return (← place).peek n

def skip (n : Nat) : Scan Unit := modify fun s => { s with place := s.place.skip n }

def emit (t : Token) : Scan Unit := modify fun s => { s with tokens := s.tokens.push t }

def allowKey (b : Bool) : Scan Unit := modify fun s => { s with keyAllowed := b }

-- A key that may start here is lost; one that had to be one is a fault.
def dropKey : Scan Unit := do
  match (← get).keys with
  | [] => pure ()
  | k :: ks => do
    require !(k.possible && k.required)
    modify fun s => { s with keys := { k with possible := false } :: ks }

def saveKey : Scan Unit := do
  let s ← get
  if s.keyAllowed then
    dropKey
    let required := s.flow = 0 && s.indent = s.place.column
    let key : PendingKey := ⟨true, required, s.tokens.size, s.place.line, s.place.column, s.place.index⟩
    modify fun s => { s with keys := key :: s.keys.drop 1 }

-- Keys end on their line, within 1024 characters.
def dropStaleKeys : Scan Unit := do
  let s ← get
  let stale (k : PendingKey) : Bool :=
    k.possible && (k.line < s.place.line || k.index + 1024 < s.place.index)
  require !(s.keys.any fun k => stale k && k.required)
  set { s with keys := s.keys.map fun k => if stale k then { k with possible := false } else k }

def rollIndent (column : Nat) (token : Option Nat) (t : Token) : Scan Unit :=
  modify fun s =>
    if s.flow = 0 && s.indent < (column : Int) then
      let tokens := match token with
        | some n => (s.tokens.extract 0 n).push t ++ s.tokens.extract n s.tokens.size
        | none => s.tokens.push t
      { s with indents := s.indent :: s.indents, indent := column, tokens }
    else s

def unrollIndent (column : Int) : Scan Unit :=
  modify fun s =>
    if s.flow = 0 then go s s.indents.length else s
where
  go (s : Scanner) : Nat → Scanner
    | 0 => s
    | n + 1 =>
      if column < s.indent then
        go { s with tokens := s.tokens.push .blockEnd, indent := s.indents.headD (-1), indents := s.indents.drop 1 } n
      else s

def skipComment : Nat → Place → Place
  | 0, p => p
  | n + 1, p =>
    match p.peek 0 with
    | none => p
    | some c => if isBreak c then p else skipComment n p.next

-- To the next token, over blanks, comments and line breaks. Tabs are blanks where no key can start.
def skipToToken : Nat → Scan Unit
  | 0 => pure ()
  | n + 1 => do
    let s ← get
    match s.place.peek 0 with
    | none => pure ()
    | some c =>
      if c = ' ' || (c = '\t' && (0 < s.flow || !s.keyAllowed)) then
        skip 1
        skipToToken n
      else if c = '#' then
        moveTo (skipComment s.place.rest.length s.place)
        skipToToken n
      else match s.place.nextLine with
        | some (_, p) =>
          moveTo p
          if s.flow = 0 then allowKey true
          skipToToken n
        | none => pure ()

def isNameChar (c : Char) : Bool := c.isAlphanum || c = '_' || c = '-'

def takeWhile (test : Char → Bool) : Scan (List Char) := do
  let p ← place
  let cs := p.rest.takeWhile test
  skip cs.length
  return cs

def takeBlanks : Scan Unit := do
  let _ ← takeWhile isSpace

-- Behind a directive only a comment may follow.
def endOfLine : Scan Unit := do
  takeBlanks
  let p ← place
  let p := if p.peek 0 == some '#' then skipComment p.rest.length p else p
  match p.peek 0, p.nextLine with
  | none, _ => moveTo p
  | some _, some (_, p) => moveTo p
  | some _, none => fail

def isUriChar (c : Char) : Bool := isNameChar c || ";/?:@&=+$,.!~*'()[]%#".toList.contains c

-- The bytes written as `%XX` are not decoded; tags of this kind are refused later in any case.
def directive : Scan Unit := do
  unrollIndent (-1)
  dropKey
  allowKey false
  skip 1
  let name ← takeWhile isNameChar
  require (!name.isEmpty)
  match String.ofList name with
  | "YAML" => do
    takeBlanks
    let major ← takeWhile Char.isDigit
    require (!major.isEmpty && (← peek 0) == some '.')
    skip 1
    let minor ← takeWhile Char.isDigit
    require (!minor.isEmpty)
    emit .versionDirective
  | "TAG" => do
    takeBlanks
    require ((← peek 0) == some '!')
    skip 1
    let inner ← takeWhile isNameChar
    let closed := (← peek 0) == some '!'
    if closed then skip 1
    require (closed || inner.isEmpty)
    takeBlanks
    let uri ← takeWhile isUriChar
    require (!uri.isEmpty && endsWord (← peek 0))
    emit (.tagDirective (String.ofList ('!' :: inner ++ (if closed then ['!'] else []))) (String.ofList uri))
  | _ => fail
  endOfLine

def documentMarker (t : Token) : Scan Unit := do
  unrollIndent (-1)
  dropKey
  allowKey false
  skip 3
  emit t

def flowStart (t : Token) : Scan Unit := do
  saveKey
  modify fun s => { s with flow := s.flow + 1, keys := .none :: s.keys }
  allowKey true
  skip 1
  emit t

def flowEnd (t : Token) : Scan Unit := do
  dropKey
  modify fun s => if s.flow = 0 then s else { s with flow := s.flow - 1, keys := s.keys.drop 1 }
  allowKey false
  skip 1
  emit t

def flowEntry : Scan Unit := do
  dropKey
  allowKey true
  skip 1
  emit .flowEntry

def blockEntry : Scan Unit := do
  let s ← get
  if s.flow = 0 then
    require s.keyAllowed
    rollIndent s.place.column none .sequenceStart
  dropKey
  allowKey true
  skip 1
  emit .blockEntry

def explicitKey : Scan Unit := do
  let s ← get
  if s.flow = 0 then
    require s.keyAllowed
    rollIndent s.place.column none .mappingStart
  dropKey
  allowKey (s.flow = 0)
  skip 1
  emit .key

def value : Scan Unit := do
  let s ← get
  match s.keys with
  | [] => fail
  | k :: ks =>
    if k.possible then
      set { s with
        tokens := (s.tokens.extract 0 k.token).push .key ++ s.tokens.extract k.token s.tokens.size
        keys := { k with possible := false } :: ks }
      rollIndent k.column (some k.token) .mappingStart
      allowKey false
    else
      if s.flow = 0 then
        require s.keyAllowed
        rollIndent s.place.column none .mappingStart
      allowKey (s.flow = 0)
  skip 1
  emit .value

def anchorEnds (c : Option Char) : Bool := endsWord c || c.any fun c => "?:,]\x7d%@`".toList.contains c

def anchor (make : String → Token) : Scan Unit := do
  saveKey
  allowKey false
  skip 1
  let name ← takeWhile isNameChar
  require (!name.isEmpty && anchorEnds (← peek 0))
  emit (make (String.ofList name))

def tag : Scan Unit := do
  saveKey
  allowKey false
  let p ← place
  if p.peek 1 == some '<' then
    skip 2
    let uri ← takeWhile isUriChar
    require (!uri.isEmpty && (← peek 0) == some '>')
    skip 1
    emit (.tag "" (String.ofList uri))
  else
    skip 1
    let inner ← takeWhile isNameChar
    if (← peek 0) == some '!' then
      skip 1
      let suffix ← takeWhile fun c => isUriChar c && !"!,[]".toList.contains c
      require (!suffix.isEmpty)
      emit (.tag (String.ofList ('!' :: inner ++ ['!'])) (String.ofList suffix))
    else
      let rest ← takeWhile fun c => isUriChar c && !"!,[]".toList.contains c
      emit (.tag "!" (String.ofList (inner ++ rest)))
  let s ← get
  require (endsWord (s.place.peek 0) || (0 < s.flow && s.place.peek 0 == some ','))

-- Blank lines ahead of a line of a block scalar. An indent of zero is yet to be found.
def blockBreaks (base : Int) (indent : Nat) (widest : Nat) (breaks : List Char) :
    Nat → Place → Option (Nat × List Char × Place)
  | 0, _ => none
  | n + 1, p =>
    match p.peek 0 with
    | some ' ' =>
      if indent = 0 || p.column < indent then blockBreaks base indent widest breaks n p.next else done p
    | some '\t' => if indent = 0 || p.column < indent then none else done p
    | _ =>
      match p.nextLine with
      | some (c, q) => blockBreaks base indent (max widest p.column) (breaks ++ [c]) n q
      | none => done p
where
  done (p : Place) : Option (Nat × List Char × Place) :=
    let found := max (max (max widest p.column) (base + 1).toNat) 1
    some (if indent = 0 then found else indent, breaks, p)

structure BlockText where
  text : List Char
  leadingBreak : List Char
  trailingBreaks : List Char
  leadingBlank : Bool

def blockLines (literal : Bool) (base : Int) (indent : Nat) : Nat → BlockText → Place → Option (BlockText × Place)
  | 0, b, p => some (b, p)
  | n + 1, b, p =>
    if p.column = indent && (p.peek 0).isSome then do
      let blank := (p.peek 0).any isSpace
      let folded := !literal && b.leadingBreak == ['\n'] && !b.leadingBlank && !blank
      let gap := if folded then (if b.trailingBreaks.isEmpty then [' '] else []) else b.leadingBreak
      let line := p.rest.takeWhile fun c => !isBreak c
      let text := b.text ++ gap ++ b.trailingBreaks ++ line
      let p := p.skip line.length
      let (leadingBreak, p) := match p.nextLine with
        | some (c, q) => ([c], q)
        | none => ([], p)
      let (_, trailingBreaks, p) ← blockBreaks base indent 0 [] (p.rest.length + 1) p
      blockLines literal base indent n ⟨text, leadingBreak, trailingBreaks, blank⟩ p
    else some (b, p)

inductive Chomp where
  | clip
  | strip
  | keep

def chompOf? (c : Char) : Option Chomp := if c = '+' then some .keep else if c = '-' then some .strip else none

-- The chomping and the indentation indicator, in either order.
def blockHeader (p : Place) : Option (Chomp × Nat × Place) :=
  let digit (c : Char) : Bool := c.isDigit
  match p.rest with
  | a :: b :: _ =>
    match chompOf? a, chompOf? b with
    | some chomp, _ =>
      if digit b then (if b = '0' then none else some (chomp, Text.digitValue b, p.skip 2))
      else some (chomp, 0, p.next)
    | none, some chomp =>
      if digit a then (if a = '0' then none else some (chomp, Text.digitValue a, p.skip 2)) else some (.clip, 0, p)
    | none, none =>
      if digit a then (if a = '0' then none else some (.clip, Text.digitValue a, p.next)) else some (.clip, 0, p)
  | [a] =>
    match chompOf? a with
    | some chomp => some (chomp, 0, p.next)
    | none => if digit a then (if a = '0' then none else some (.clip, Text.digitValue a, p.next)) else some (.clip, 0, p)
  | [] => some (.clip, 0, p)

def blockScalar (literal : Bool) : Scan Unit := do
  dropKey
  allowKey true
  skip 1
  let s ← get
  match blockHeader s.place with
  | none => fail
  | some (chomp, increment, p) => do
    moveTo p
    endOfLine
    let p ← place
    let base := s.indent
    let wanted := if increment = 0 then 0 else if 0 ≤ base then base.toNat + increment else increment
    match blockBreaks base wanted 0 [] (p.rest.length + 1) p with
    | none => fail
    | some (indent, breaks, p) =>
      match blockLines literal base indent (p.rest.length + 1) ⟨[], [], breaks, false⟩ p with
      | none => fail
      | some (b, p) => do
        moveTo p
        let text := match chomp with
          | .strip => b.text
          | .clip => b.text ++ b.leadingBreak
          | .keep => b.text ++ b.leadingBreak ++ b.trailingBreaks
        emit (.scalar (String.ofList text) false)

def simpleEscape? (c : Char) : Option Char :=
  match c with
  | '0' => some '\x00' | 'a' => some '\x07' | 'b' => some '\x08' | 't' => some '\t' | '\t' => some '\t'
  | 'n' => some '\n' | 'v' => some '\x0b' | 'f' => some '\x0c' | 'r' => some '\r' | 'e' => some '\x1b'
  | ' ' => some ' ' | '"' => some '"' | '/' => some '/' | '\\' => some '\\' | 'N' => some '\u0085'
  | '_' => some '\u00a0' | 'L' => some '\u2028' | 'P' => some '\u2029' | _ => none

def escapeWidth? (c : Char) : Option Nat :=
  match c with
  | 'x' => some 2 | 'u' => some 4 | 'U' => some 8 | _ => none

def escape (p : Place) : Option (Char × Place) := do
  let c ← p.peek 0
  match simpleEscape? c, escapeWidth? c with
  | some e, _ => some (e, p.next)
  | none, some width => do
    let ds := p.next.rest.take width
    if ds.length < width then none
    else
      let e ← (Text.natOfHex? ds).bind Text.charOfCode?
      some (e, p.skip (width + 1))
  | none, none => none

-- Blanks and breaks between words: the blanks when on one line, otherwise the first break and the further ones.
structure Gap where
  blanks : List Char := []
  brk : List Char := []
  further : List Char := []
  broken : Bool := false

-- One line break between words is a blank, each further one stands for itself.
def Gap.text (g : Gap) : List Char :=
  if !g.broken then g.blanks
  else if g.brk == ['\n'] then (if g.further.isEmpty then [' '] else g.further)
  else g.brk ++ g.further

-- `indent` is the column below which a tab behind a line break is a fault.
def readGap (indent : Nat) (g : Gap) : Nat → Place → Option (Gap × Place)
  | 0, p => some (g, p)
  | n + 1, p =>
    match p.peek 0 with
    | none => some (g, p)
    | some c =>
      if isSpace c then
        if g.broken then (if c = '\t' && p.column < indent then none else readGap indent g n p.next)
        else readGap indent { g with blanks := g.blanks ++ [c] } n p.next
      else match p.nextLine with
        | some (b, q) =>
          if g.broken then readGap indent { g with further := g.further ++ [b] } n q
          else readGap indent { g with brk := [b], broken := true } n q
        | none => some (g, p)

def quotedText (quote : Char) (acc : List Char) : Nat → Place → Option (List Char × Place)
  | 0, _ => none
  | n + 1, p =>
    if p.atMarker '-' || p.atMarker '.' then none
    else match p.peek 0 with
      | none => none
      | some c =>
        if quote = '\'' && c = '\'' && p.peek 1 == some '\'' then quotedText quote ('\'' :: acc) n (p.skip 2)
        else if c = quote then some (acc.reverse, p.next)
        else if quote = '"' && c = '\\' then
          match p.next.nextLine with
          | some (_, q) => do
            let (g, q) ← readGap 0 { broken := true } (q.rest.length + 1) q
            quotedText quote (g.text.reverse ++ acc) n q
          | none => do
            let (e, q) ← escape p.next
            quotedText quote (e :: acc) n q
        else if isSpace c || isBreak c then do
          let (g, q) ← readGap 0 {} (p.rest.length + 1) p
          quotedText quote (g.text.reverse ++ acc) n q
        else quotedText quote (c :: acc) n p.next

def quotedScalar (quote : Char) : Scan Unit := do
  saveKey
  allowKey false
  let p ← place
  match quotedText quote [] (p.rest.length + 1) p.next with
  | none => fail
  | some (cs, p) => do
    moveTo p
    emit (.scalar (String.ofList cs) false)

def isFlowIndicator (c : Char) : Bool := c = ',' || c = '[' || c = ']' || c = '\x7b' || c = '\x7d'

-- A word of a plain scalar; a colon before a flow indicator is a fault.
def plainWord (inFlow : Bool) (acc : List Char) : Nat → Place → Option (List Char × Place)
  | 0, p => some (acc, p)
  | n + 1, p =>
    match p.peek 0 with
    | none => some (acc, p)
    | some c =>
      if isSpace c || isBreak c then some (acc, p)
      else if inFlow && c = ':' && (p.peek 1).any (fun d => isFlowIndicator d || d = '?') then none
      else if (c = ':' && endsWord (p.peek 1)) || (inFlow && isFlowIndicator c) then some (acc, p)
      else plainWord inFlow (c :: acc) n p.next

-- The words of a plain scalar, in reverse, and the gap that follows them.
def plainText (inFlow : Bool) (indent : Nat) (acc : List Char) (gap : Gap) : Nat → Place → Option (List Char × Gap × Place)
  | 0, p => some (acc, gap, p)
  | n + 1, p =>
    if p.atMarker '-' || p.atMarker '.' || p.peek 0 == some '#' then some (acc, gap, p)
    else do
      let (word, q) ← plainWord inFlow [] (p.rest.length + 1) p
      let (acc, gap) := if word.isEmpty then (acc, gap) else (word ++ gap.text.reverse ++ acc, {})
      match q.peek 0 with
      | none => some (acc, gap, q)
      | some c =>
        if isSpace c || isBreak c then do
          let (gap, q) ← readGap indent {} (q.rest.length + 1) q
          if !inFlow && q.column < indent then some (acc, gap, q) else plainText inFlow indent acc gap n q
        else some (acc, gap, q)

def plainScalar : Scan Unit := do
  saveKey
  allowKey false
  let s ← get
  match plainText (0 < s.flow) (s.indent + 1).toNat [] {} (s.place.rest.length + 1) s.place with
  | none => fail
  | some (cs, gap, p) => do
    moveTo p
    if gap.broken then allowKey true
    emit (.scalar (String.ofList cs.reverse) true)

def startsPlain (inFlow : Bool) (p : Place) : Bool :=
  match p.peek 0 with
  | none => false
  | some c =>
    !(isSpace c || isBreak c || "-?:,[]\x7b\x7d#&*!|>'\"%@`".toList.contains c) ||
      (c = '-' && !(p.peek 1).any isSpace) || (!inFlow && (c = '?' || c = ':') && !endsWord (p.peek 1))

def streamEnd : Scan Unit := do
  unrollIndent (-1)
  dropKey
  emit .streamEnd

-- One token more, or the end of the stream: then the answer is false.
def token : Scan Bool := do
  skipToToken ((← place).rest.length + 1)
  dropStaleKeys
  unrollIndent (← place).column
  let s ← get
  let p := s.place
  let inFlow := 0 < s.flow
  let alone := endsWord (p.peek 1)
  match p.peek 0 with
  | none => do
    streamEnd
    return false
  | some c => do
    if p.column = 0 && c = '%' then directive
    else if p.atMarker '-' then documentMarker .documentStart
    else if p.atMarker '.' then documentMarker .documentEnd
    else if c = '[' then flowStart .flowSequenceStart
    else if c = '\x7b' then flowStart .flowMappingStart
    else if c = ']' then flowEnd .flowSequenceEnd
    else if c = '\x7d' then flowEnd .flowMappingEnd
    else if c = ',' then flowEntry
    else if c = '-' && alone then blockEntry
    else if c = '?' && (inFlow || alone) then explicitKey
    else if c = ':' && (inFlow || alone) then value
    else if c = '*' then anchor .alias
    else if c = '&' then anchor .anchor
    else if c = '!' then tag
    else if c = '|' && !inFlow then blockScalar true
    else if c = '>' && !inFlow then blockScalar false
    else if c = '\'' || c = '"' then quotedScalar c
    else if startsPlain inFlow p then plainScalar
    else fail
    return true

def tokens : Nat → Scan Unit
  | 0 => fail
  | n + 1 => do
    if ← token then tokens n

end Scan

-- Characters that may not stand in YAML text at all are the controls and a misplaced byte order mark.
def isAllowed (c : Char) : Bool :=
  let n := c.toNat
  n = 0x9 || n = 0xA || n = 0xD || (0x20 ≤ n && n ≤ 0x7E) || n = 0x85 || (0xA0 ≤ n && n ≤ 0xD7FF) ||
    (0xE000 ≤ n && n ≤ 0xFFFD && n ≠ 0xFEFF) || 0x10000 ≤ n

def tokens? (text : String) : Option (List Token) :=
  let cs := match text.toList with
    | '\ufeff' :: r => r
    | cs => cs
  if !cs.all isAllowed then none
  else
    let start : Scanner := ⟨⟨cs, 0, 0, 0⟩, #[], -1, [], 0, true, [.none]⟩
    ((Scan.tokens (2 * cs.length + 4)).run start).map fun r => r.2.tokens.toList

end SchemaProbe.Yaml
