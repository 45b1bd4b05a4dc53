import SchemaProbe.Config.Read
import SchemaProbe.Run.Basic

set_option autoImplicit false

namespace SchemaProbe

structure Network (m : Type → Type) where
  fetch : Url → m (Except String String)

namespace Network

def unreachableReason (u : Url) : String := "error sending request for url (" ++ u.text ++ ")"

def offline {m : Type → Type} [Monad m] : Network m where
  fetch u := return .error (unreachableReason u)

end Network

-- Nothing answers, and no time passes on a clock that counts seconds as signed words from now on.
def Surroundings.offline : Surroundings where
  horizon := 2 ^ 63 * 10 ^ 9 - 1
  started _ := 0
  answer _ request _ := .error (.connection (Network.unreachableReason request.url))
  finished := 0

inductive PrepareFault where
  | config (fault : ConfigFault)
  | spanTooLong
  | fetch (location : SchemaLocation) (reason : String)
  | document (location : SchemaLocation) (fault : Document.LoadFault)

namespace PrepareFault

def fetchMessage (location : SchemaLocation) (reason : String) : String :=
  "cannot fetch schema from " ++ location.text ++ ": " ++ reason

def message : PrepareFault → String
  | config fault => fault.message
  | spanTooLong => "cannot convert float seconds to Duration: value is either too big or NaN"
  | fetch location reason => fetchMessage location reason
  | document location fault => Document.faultMessage location fault

end PrepareFault

-- The user of an address is not part of what is asked for.
def Url.withoutUser (u : Url) : Url := { u with authority := u.authority.map fun a => { a with user := "", password := "" } }

variable {m : Type → Type} [Monad m]

def SchemaLocation.fetch (files : Files m) (network : Network m) : SchemaLocation → m (Except String String)
  | file path => do return (← files.read path).mapError FileFault.message
  | url address =>
    match Url.parse address with
    | .ok u => network.fetch u.withoutUser
    | .error _ => return .error "builder error"

namespace Probe

def aim (c : Config) (drawn : UInt64) : Except PrepareFault (Destination × RunSettings) := do
  c.validate.mapError .config
  let d ← c.destination.mapError .config
  match RunSettings.ofConfig? c drawn with
  | some s => return (d, s)
  | none => throw .spanTooLong

def withDocument (d : Destination) (s : RunSettings) : Except String String → Except PrepareFault Probe
  | .error reason => .error (.fetch d.schema reason)
  | .ok text =>
    match Document.load d.schema text with
    | .ok api => .ok { baseUrl := d.baseUrl, location := d.schema.text, api, settings := s }
    | .error fault => .error (.document d.schema fault)

def ofConfig (files : Files m) (network : Network m) (c : Config) (drawn : UInt64) : m (Except PrepareFault Probe) :=
  match aim c drawn with
  | .error e => return .error e
  | .ok (d, s) => do return withDocument d s (← d.schema.fetch files network)

end Probe

def Config.findsSchema (files : Files m) (c : Config) : m Bool :=
  match c.destination with
  | .ok ⟨_, .file path⟩ => files.has path
  | _ => return false

end SchemaProbe
