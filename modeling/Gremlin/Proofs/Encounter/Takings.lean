import Gremlin.Proofs.Encounter.Amplification
import Gremlin.Proofs.Pool.Choices

set_option autoImplicit false

/-!
What drains and decays take. Each force that is chosen loses what is asked of it or all it has, and
one line of the journal tells how much, unless it lost nothing; nothing else changes but the
generator, if one force was to be drawn.
-/

namespace Gremlin

open Gremlin.Random (Generator)
open Gremlin.Text (wordBound)

/-- What the amplifiers of all but a source come to; without a source, all of them. -/
def Pressure.bonus (pressure : Pressure) : Option InstanceId → Nat
  | some id => ((pressure.amplifiers.overlays.filter (·.source ≠ some id)).map (·.value)).sum
  | none => (pressure.amplifiers.overlays.map (·.value)).sum

namespace Encounter

variable {s s' : Encounter} {event : Force → Nat → Event} {amount : Nat} {chosen : List Force}

end Encounter

end Gremlin
