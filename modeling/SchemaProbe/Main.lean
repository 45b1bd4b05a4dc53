import SchemaProbe.CommandLine.Execute

set_option autoImplicit false

namespace SchemaProbe.CommandLine

def faultOf : IO.Error → FileFault
  | .noFileOrDirectory .. => .notFound
  | e => .other (toString e)

def attempt {α : Type} (action : IO α) : IO (Except FileFault α) := do
  match ← action.toBaseIO with
  | .ok a => return .ok a
  | .error e => return .error (faultOf e)

def access : Files IO where
  read path := attempt (IO.FS.readFile path)
  has path := do
    match ← attempt (IO.FS.readFile path) with
    | .error .notFound => return false
    | _ => return true
  write path content := attempt (IO.FS.writeFile path content)
  makeDirectory path := attempt (IO.FS.createDirAll path)

-- There is no transport, so that every request fails to connect.
def machine (seed : Nat) : Machine IO :=
  { files := access, network := .offline, surroundings := .offline, seed := seed.toUInt64 }

end SchemaProbe.CommandLine

open SchemaProbe.CommandLine in
def main (args : List String) : IO UInt32 := do
  let printed ← execute (machine (← IO.rand 0 (2 ^ 64 - 1))) (← IO.getEnv "NETWORK") args
  IO.print printed.stdout
  IO.eprint printed.stderr
  return printed.code.toUInt32
