set_option autoImplicit false

namespace SchemaProbe.Seed

-- FNV-1a over the bytes of a text.
def hashText (s : String) : UInt64 :=
  s.toUTF8.toList.foldl (fun h b => (h ^^^ b.toUInt64) * 0x100000001b3) 0xcbf29ce484222325

-- The SplitMix64 finaliser.
def mix (x : UInt64) : UInt64 :=
  let x := x + 0x9e3779b97f4a7c15
  let x := (x ^^^ (x >>> 30)) * 0xbf58476d1ce4e5b9
  let x := (x ^^^ (x >>> 27)) * 0x94d049bb133111eb
  x ^^^ (x >>> 31)

def ofCase (base : UInt64) (index : Nat) : UInt64 := mix (base ^^^ mix (UInt64.ofNat index))

end SchemaProbe.Seed
