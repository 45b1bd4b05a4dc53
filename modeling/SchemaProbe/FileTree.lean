import SchemaProbe.Text.Trim

set_option autoImplicit false

namespace SchemaProbe

inductive FileFault where
  | notFound
  | isDirectory
  | notDirectory
  | alreadyThere
  | other (reason : String)
deriving DecidableEq, Repr

def FileFault.message : FileFault → String
  | notFound => "No such file or directory (os error 2)"
  | isDirectory => "Is a directory (os error 21)"
  | notDirectory => "Not a directory (os error 20)"
  | alreadyThere => "File exists (os error 17)"
  | other reason => reason

structure Files (m : Type → Type) where
  read : String → m (Except FileFault String)
  has : String → m Bool
  write : String → String → m (Except FileFault Unit)
  makeDirectory : String → m (Except FileFault Unit)

-- Paths are relative and made of plain names.
structure FileTree where
  files : List (String × String)
  -- Directories that hold no file yet.
  made : List (List String) := []
deriving Repr

namespace FileTree

def components (path : String) : List String := (Text.splitOn '/' path).filter (· != "")

def parsed (t : FileTree) : List (List String × String) := t.files.map fun f => (components f.1, f.2)

def file? (t : FileTree) (spot : List String) : Option String := t.parsed.lookup spot

def isDirectory (t : FileTree) (spot : List String) : Bool :=
  spot.isEmpty || t.made.any (spot.isPrefixOf ·) ||
    t.parsed.any fun f => spot.isPrefixOf f.1 && spot.length < f.1.length

def step (spot : List String) (c : String) : Except FileFault (List String) :=
  if c = "." then .ok spot
  else if c = ".." then if spot.isEmpty then .error .notFound else .ok spot.dropLast
  else .ok (spot ++ [c])

-- Walks down the components; every one but the last has to be a directory.
def walk (t : FileTree) (spot : List String) : List String → Except FileFault (List String)
  | [] => .ok spot
  | c :: rest => do
    if !t.isDirectory spot then throw (if (t.file? spot).isSome then .notDirectory else .notFound)
    walk t (← step spot c) rest

def endsInSlash (path : String) : Bool := (Text.splitLast? '/' path).any (·.2 == "")

-- Absolute paths lead out of the tree, where there is nothing but the root directory.
def locate (t : FileTree) (path : String) : Except FileFault (List String) :=
  if path = "" then .error .notFound
  else if Text.startsWith "/" path then
    .error (if (components path).all fun c => c = "." || c = ".." then .isDirectory else .notFound)
  else walk t [] (components path)

def read (t : FileTree) (path : String) : Except FileFault String := do
  let spot ← t.locate path
  match t.file? spot with
  | some content => if endsInSlash path then throw .notDirectory else return content
  | none => throw (if t.isDirectory spot then .isDirectory else .notFound)

def has (t : FileTree) (path : String) : Bool :=
  match t.read path with
  | .ok _ => true
  | .error e => e == .isDirectory

def pathText (spot : List String) : String := "/".intercalate spot

def write (t : FileTree) (path content : String) : Except FileFault FileTree := do
  let spot ← t.locate path
  if t.isDirectory spot || endsInSlash path then throw .isDirectory
  if !t.isDirectory spot.dropLast then throw .notFound
  return { t with files := t.files.filter (fun f => components f.1 != spot) ++ [(pathText spot, content)] }

def makeFrom (t : FileTree) (spot : List String) : List String → Except FileFault FileTree
  | [] => .ok t
  | c :: rest => do
    let spot ← step spot c
    if t.isDirectory spot then makeFrom t spot rest
    else if (t.file? spot).isSome then throw (if rest.isEmpty then .alreadyThere else .notDirectory)
    else makeFrom { t with made := t.made ++ [spot] } spot rest

def makeDirectory (t : FileTree) (path : String) : Except FileFault FileTree :=
  if Text.startsWith "/" path then .ok t else makeFrom t [] (components path)

def access : Files (StateM FileTree) where
  read path := return (← get).read path
  has path := return (← get).has path
  write path content := do
    match (← get).write path content with
    | .ok t => set t; return .ok ()
    | .error e => return .error e
  makeDirectory path := do
    match (← get).makeDirectory path with
    | .ok t => set t; return .ok ()
    | .error e => return .error e

end FileTree

end SchemaProbe
