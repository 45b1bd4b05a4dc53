import SchemaProbe.Text.Trim

set_option autoImplicit false

namespace SchemaProbe.Media

-- The type and subtype in lower case, without parameters.
def essence (media : String) : String :=
  Text.lowerAscii (Text.trim (String.ofList (media.toList.takeWhile (· != ';'))))

def endsWith (suffix s : String) : Bool := suffix.toList.reverse.isPrefixOf s.toList.reverse

def isJson (media : String) : Bool := essence media == "application/json" || endsWith "+json" (essence media)

end SchemaProbe.Media
