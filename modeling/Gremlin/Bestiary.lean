import Gremlin.Template.Validation

set_option autoImplicit false

/-! Bestiaries: templates that are valid each on its own and closed under the summons they name. -/

namespace Gremlin

structure Bestiary where
  templates : List Template

namespace Bestiary

def get? (bestiary : Bestiary) (id : String) : Option Template :=
  bestiary.templates.find? (·.id = id)

def contains (bestiary : Bestiary) (id : String) : Bool := bestiary.templates.any (·.id = id)

def ofSize (bestiary : Bestiary) (size : Size) : List Template :=
  bestiary.templates.filter (·.size = size)

/-- The templates of valid records, the first of each id, and the faults of the other records in
their order. -/
def accept : List Template → List Record → List Template × List ValidationError
  | kept, [] => (kept, [])
  | kept, record :: rest =>
    match Template.ofRecord record with
    | .error e =>
      let (templates, errors) := accept kept rest
      (templates, e :: errors)
    | .ok template =>
      if kept.any (·.id = template.id) then
        let (templates, errors) := accept kept rest
        (templates, ⟨template.id, .duplicate⟩ :: errors)
      else accept (kept ++ [template]) rest

/-- The first template id a template summons that is not among the given templates. -/
def missingSummon? (templates : List Template) (template : Template) : Option String :=
  template.summons.findSome? fun spec =>
    match spec with
    | .named target => if templates.any (·.id = target) then none else some target
    | .ofSize _ => none

def orphans (templates : List Template) : List ValidationError :=
  templates.filterMap fun template =>
    (missingSummon? templates template).map (⟨template.id, .unknownSummon ·⟩)

def settled (templates : List Template) : List Template :=
  templates.filter fun template => (missingSummon? templates template).isNone

/-- Drops templates that summon a missing one until none is left that does. A drop can orphan
others, so each round looks at what the last one kept. -/
def close (templates : List Template) : List Template × List ValidationError :=
  if _fewer : (settled templates).length < templates.length then
    let (kept, errors) := close (Bestiary.settled templates)
    (kept, orphans templates ++ errors)
  else (templates, [])
termination_by templates.length
decreasing_by exact _fewer

def load (records : List Record) : Bestiary × List ValidationError :=
  let (candidates, faults) := accept [] records
  let (kept, orphaned) := close candidates
  (⟨kept⟩, faults ++ orphaned)

end Bestiary

end Gremlin
