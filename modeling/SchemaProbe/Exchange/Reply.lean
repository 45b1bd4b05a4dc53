import SchemaProbe.Exchange.Headers

set_option autoImplicit false

namespace SchemaProbe

structure Reply where
  status : UInt16
  headers : Headers
  body : String
  elapsedMicros : Nat

def Reply.contentType? (r : Reply) : Option String := r.headers.get? "content-type"

end SchemaProbe
