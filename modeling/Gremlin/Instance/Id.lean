import Gremlin.Text.Quoted

set_option autoImplicit false

namespace Gremlin

/-- The identity of a gremlin; numbers are handed out from zero up and never again. -/
structure InstanceId where
  value : Nat
deriving DecidableEq, Repr

namespace InstanceId

def text (id : InstanceId) : String := "0x" ++ String.ofList (Text.hexDigits id.value)

def line (id : InstanceId) : String := s!"InstanceId({id.text})"

end InstanceId

end Gremlin
