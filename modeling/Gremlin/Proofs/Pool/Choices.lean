import Gremlin.Pool.Basic
import Gremlin.Proofs.Random

set_option autoImplicit false

/-!
Which forces a selector chooses for a drain or a decay. Largest and smallest are taken among the
forces present, and of equals the one declared first; a random force is drawn once, unless there is
none.
-/

namespace Gremlin

open Gremlin.Random (Generator)

namespace Force

end Force

namespace Pool

/-- What a selector chooses among the forces of a pool, and the generator afterwards. -/
inductive Chooses (pool : Pool) (generator : Generator) :
    Selector → List Force → Generator → Prop where
  | only (f : Force) : Chooses pool generator (.only f) [f] generator
  | every : Chooses pool generator .every Force.all generator
  /-- There is as much of no other, and less of those declared before. -/
  | largest {f : Force} (held : 0 < pool.amount f) (most : ∀ g, pool.amount g ≤ pool.amount f)
      (first : ∀ g, g.index < f.index → pool.amount g < pool.amount f) :
      Chooses pool generator .largest [f] generator
  /-- Of the others present there is no less, and more of those declared before. -/
  | smallest {f : Force} (held : 0 < pool.amount f)
      (least : ∀ g, 0 < pool.amount g → pool.amount f ≤ pool.amount g)
      (first : ∀ g, g.index < f.index → 0 < pool.amount g → pool.amount f < pool.amount g) :
      Chooses pool generator .smallest [f] generator
  /-- One number is drawn, the place of a force among those present. -/
  | random {f : Force} (held : 0 < pool.amount f)
      (drawn : pool.present[(generator.below pool.present.length).1]? = some f) :
      Chooses pool generator .random [f] (generator.below pool.present.length).2
  /-- Nothing is there to choose from, and nothing is drawn. -/
  | nothing {selector : Selector}
      (selective : selector = .largest ∨ selector = .smallest ∨ selector = .random)
      (empty : ∀ f, pool.amount f = 0) : Chooses pool generator selector [] generator

section Best

variable {rank : Force → Int} {f : Force}

end Best

section Present

variable {pool : Pool} {f : Force}

end Present

/-- Only forces are chosen, each once and in the order of their declaration. -/
theorem Chooses.sublist {pool : Pool} {generator generator' : Generator} {selector : Selector}
    {chosen : List Force} (chooses : Chooses pool generator selector chosen generator') :
    chosen.Sublist Force.all := by
  cases chooses with
  | every => exact List.Sublist.refl _
  | nothing selective empty => exact List.nil_sublist _
  | only f | largest | smallest | random => exact List.singleton_sublist.mpr (Force.mem_all _)

end Pool

end Gremlin
