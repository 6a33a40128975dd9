import Gremlin.Text.Quoted

set_option autoImplicit false

/-!
Faults in move lists, effect lists, transition tables and decision tables. A fault names the
segment between bars it was found in, counted from zero, and the text it was found at.
-/

namespace Gremlin

inductive ReadCause where
  | missingTicks
  | unknownEffect
  | invalidMagnitude
  | missingValue
  | unexpectedValue
  | malformedClause
  | invalidTransition
  | invalidAdaptiveRule
deriving DecidableEq, Repr

structure ReadError where
  cause : ReadCause
  phase : Nat
  token : String
deriving DecidableEq, Repr

def ReadError.message (e : ReadError) : String :=
  let token := Text.quoted e.token
  match e.cause with
  | .missingTicks =>
    s!"phase {e.phase}: expected a leading `ticks=<interval>` clause, found {token}"
  | .unknownEffect => s!"phase {e.phase}: unknown effect key in {token}"
  | .invalidMagnitude => s!"phase {e.phase}: invalid magnitude in {token}"
  | .missingValue => s!"phase {e.phase}: {token} needs a value"
  | .unexpectedValue => s!"phase {e.phase}: flag {token} does not take a value"
  | .malformedClause => s!"phase {e.phase}: malformed clause {token}"
  | .invalidTransition => s!"rule {e.phase}: invalid transition {token}"
  | .invalidAdaptiveRule => s!"rule {e.phase}: invalid adaptive rule {token}"

end Gremlin
