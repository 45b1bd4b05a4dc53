set_option autoImplicit false

namespace SchemaProbe

-- Values by name, in the order of the names.
abbrev NameMap (α : Type) := List (String × α)

namespace NameMap

variable {α : Type}

def get? (m : NameMap α) (name : String) : Option α := m.lookup name

def contains (m : NameMap α) (name : String) : Bool := m.any (·.1 == name)

def insert : NameMap α → String → α → NameMap α
  | [], name, v => [(name, v)]
  | (k, w) :: rest, name, v =>
    if name == k then (k, v) :: rest
    else if name < k then (name, v) :: (k, w) :: rest
    else (k, w) :: insert rest name v

def erase (m : NameMap α) (name : String) : NameMap α := m.filter (·.1 != name)

-- The last value given for a name stands.
def ofList (entries : List (String × α)) : NameMap α := entries.foldl (fun acc e => insert acc e.1 e.2) []

def names (m : NameMap α) : List String := m.map Prod.fst

end NameMap

end SchemaProbe
