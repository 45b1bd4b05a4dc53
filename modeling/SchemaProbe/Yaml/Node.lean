import SchemaProbe.Yaml.Token

set_option autoImplicit false

namespace SchemaProbe.Yaml

inductive Node where
  | scalar (tag : Option String) (text : String) (plain : Bool)
  | sequence (tag : Option String) (items : List Node)
  | mapping (tag : Option String) (pairs : List (Node × Node))
deriving Inhabited

namespace Node

def empty : Node := scalar none "" true

structure Context where
  rest : List Token
  anchors : List (String × Node)
  handles : List (String × String)

abbrev Build := StateT Context Option

def fail {α : Type} : Build α := fun _ => none

def peek : Build Token := do return (← get).rest.headD .streamEnd

def drop : Build Unit := modify fun c => { c with rest := c.rest.drop 1 }

def standardHandles : List (String × String) := [("!", "!"), ("!!", "tag:yaml.org,2002:")]

def resolveTag (handle suffix : String) : Build String := do
  if handle = "" then return suffix
  match (← get).handles.lookup handle with
  | some uri => return uri ++ suffix
  | none => fail

structure Properties where
  anchor : Option String := none
  tag : Option String := none

def properties : Nat → Properties → Build Properties
  | 0, p => return p
  | n + 1, p => do
    match ← peek with
    | .anchor name =>
      if p.anchor.isSome then return p
      drop
      properties n { p with anchor := some name }
    | .tag handle suffix =>
      if p.tag.isSome then return p
      drop
      let tag ← resolveTag handle suffix
      properties n { p with tag := some tag }
    | _ => return p

def name (p : Properties) (node : Node) : Build Node := do
  match p.anchor with
  | some a => modify fun c => { c with anchors := (a, node) :: c.anchors }
  | none => pure ()
  return node

-- What may follow in the place of a node that is left out.
def ends (stops : List Token) : Build Bool := do return stops.contains (← peek)

mutual
def node (block indentless : Bool) : Nat → Build Node
  | 0 => fail
  | fuel + 1 => do
    match ← peek with
    | .alias a => do
      drop
      match (← get).anchors.lookup a with
      | some n => return n
      | none => fail
    | _ => do
      let p ← properties 2 {}
      match ← peek with
      | .blockEntry =>
        if indentless then do
          let items ← indentlessItems fuel []
          name p (.sequence p.tag items)
        else bare p
      | .scalar text plain => do
        drop
        name p (.scalar p.tag text plain)
      | .flowSequenceStart => do
        drop
        let items ← flowItems fuel []
        name p (.sequence p.tag items)
      | .flowMappingStart => do
        drop
        let pairs ← flowPairs fuel []
        name p (.mapping p.tag pairs)
      | .sequenceStart =>
        if block then do
          drop
          let items ← blockItems fuel []
          name p (.sequence p.tag items)
        else bare p
      | .mappingStart =>
        if block then do
          drop
          let pairs ← blockPairs fuel []
          name p (.mapping p.tag pairs)
        else bare p
      | _ => bare p
def bare (p : Properties) : Build Node :=
  if p.anchor.isSome || p.tag.isSome then name p (.scalar p.tag "" (p.tag.isNone)) else fail

-- The node ahead, or an empty one if one of the tokens that end it is.
def nodeUnless (stops : List Token) (block indentless : Bool) : Nat → Build Node
  | 0 => fail
  | fuel + 1 => do if ← ends stops then return empty else node block indentless fuel

def blockItems : Nat → List Node → Build (List Node)
  | 0, _ => fail
  | fuel + 1, acc => do
    match ← peek with
    | .blockEntry => do
      drop
      let item ← nodeUnless [.blockEntry, .blockEnd] true false fuel
      blockItems fuel (item :: acc)
    | .blockEnd => do
      drop
      return acc.reverse
    | _ => fail

def indentlessItems : Nat → List Node → Build (List Node)
  | 0, _ => fail
  | fuel + 1, acc => do
    match ← peek with
    | .blockEntry => do
      drop
      let item ← nodeUnless [.blockEntry, .key, .value, .blockEnd] true false fuel
      indentlessItems fuel (item :: acc)
    | _ => return acc.reverse

def blockPairs : Nat → List (Node × Node) → Build (List (Node × Node))
  | 0, _ => fail
  | fuel + 1, acc => do
    match ← peek with
    | .key => do
      drop
      let k ← nodeUnless [.key, .value, .blockEnd] true true fuel
      let v ← valueAfterKey [.key, .value, .blockEnd] true fuel
      blockPairs fuel ((k, v) :: acc)
    | .blockEnd => do
      drop
      return acc.reverse
    | _ => fail

def valueAfterKey (stops : List Token) (block : Bool) : Nat → Build Node
  | 0 => fail
  | fuel + 1 => do
    match ← peek with
    | .value => do
      drop
      nodeUnless stops block block fuel
    | _ => return empty

def flowItems : Nat → List Node → Build (List Node)
  | 0, _ => fail
  | fuel + 1, acc => do
    if (← peek) == .flowSequenceEnd then
      drop
      return acc.reverse
    else do
      separator acc.isEmpty
      match ← peek with
      | .flowSequenceEnd => do
        drop
        return acc.reverse
      | .key => do
        drop
        let k ← nodeUnless [.value, .flowEntry, .flowSequenceEnd] false false fuel
        let v ← valueAfterKey [.flowEntry, .flowSequenceEnd] false fuel
        flowItems fuel (.mapping none [(k, v)] :: acc)
      | _ => do
        let item ← node false false fuel
        flowItems fuel (item :: acc)

def separator (first : Bool) : Build Unit := do
  if !first then
    if (← peek) == .flowEntry then drop else fail

def flowPairs : Nat → List (Node × Node) → Build (List (Node × Node))
  | 0, _ => fail
  | fuel + 1, acc => do
    if (← peek) == .flowMappingEnd then
      drop
      return acc.reverse
    else do
      separator acc.isEmpty
      match ← peek with
      | .flowMappingEnd => do
        drop
        return acc.reverse
      | .key => do
        drop
        let k ← nodeUnless [.value, .flowEntry, .flowMappingEnd] false false fuel
        let v ← valueAfterKey [.flowEntry, .flowMappingEnd] false fuel
        flowPairs fuel ((k, v) :: acc)
      | _ => do
        let k ← node false false fuel
        flowPairs fuel ((k, empty) :: acc)
end

def isDirective : Token → Bool
  | .versionDirective | .tagDirective .. => true
  | _ => false

def skipDocumentEnds : Nat → Build Unit
  | 0 => return ()
  | n + 1 => do
    if (← peek) == .documentEnd then
      drop
      skipDocumentEnds n

-- The directives ahead of a document, which must then start with its marker.
def directives : Nat → Build Unit
  | 0 => fail
  | n + 1 => do
    match ← peek with
    | .versionDirective => do
      drop
      directives n
    | .tagDirective handle uri => do
      drop
      if ((← get).handles.any fun h => h.1 == handle && !standardHandles.contains h) then fail
      modify fun c => { c with handles := (handle, uri) :: c.handles }
      directives n
    | .documentStart => drop
    | _ => fail

-- The only document of a stream; a stream without one holds an empty node.
def stream (fuel : Nat) : Build Node := do
  let first ← peek
  if first == .streamEnd then return empty
  if first == .documentEnd then skipDocumentEnds fuel
  if isDirective (← peek) || (← peek) == .documentStart then directives fuel
  else if (← peek) == .streamEnd then return empty
  let t ← peek
  let root ← if isDirective t || t == .documentStart || t == .documentEnd || t == .streamEnd then pure empty
    else node true false fuel
  skipDocumentEnds fuel
  if (← peek) == .streamEnd then return root else fail

def ofTokens? (ts : List Token) : Option Node :=
  ((stream (4 * ts.length + 4)).run ⟨ts, [], standardHandles⟩).map Prod.fst

end Node

end SchemaProbe.Yaml
