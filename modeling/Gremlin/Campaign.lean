import Gremlin.Encounter.Run

set_option autoImplicit false

/-!
Campaigns: an encounter run many times, each time with a seed of its own. The runs are dealt out
to workers in even chunks and the results are put back in order, so that neither the number of
workers nor the order in which they finish can be told from them.
-/

namespace Gremlin

open Gremlin.Random (Generator)

namespace Campaign

structure Job where
  index : Nat
  seed : Nat
deriving DecidableEq, Repr

/-- So many runs, numbered from `index`, with seeds drawn one after the other. -/
def jobsFrom (index : Nat) : Nat → Generator → List Job
  | 0, _ => []
  | count + 1, g =>
    let drawn := g.long
    ⟨index, drawn.1⟩ :: jobsFrom (index + 1) count drawn.2

def jobs (seed count : Nat) : List Job := jobsFrom 0 count (.ofSeed seed)

/-- How many workers there are: those asked for, but at least one and at most one for every run. -/
def workerCount (asked runs : Nat) : Nat := min (max asked 1) runs

/-- How many runs each worker gets. The first ones get those that do not divide evenly. -/
def chunkSizes (runs workers : Nat) : List Nat :=
  (List.range workers).map fun i => runs / workers + if i < runs % workers then 1 else 0

def chunks {α : Type} : List Nat → List α → List (List α)
  | [], _ => []
  | size :: sizes, items => items.take size :: chunks sizes (items.drop size)

def runJob (s : Encounter) (job : Job) : Except EncounterError (Nat × RunResult) :=
  (s.runOnceWith (.ofSeed job.seed)).map fun result => (job.index, result)

def work (s : Encounter) : List Job → Except EncounterError (List (Nat × RunResult))
  | [] => .ok []
  | job :: rest =>
    match runJob s job with
    | .error e => .error e
    | .ok report =>
      match work s rest with
      | .error e => .error e
      | .ok reports => .ok (report :: reports)

/-- Reports in the order of their numbers, whatever order they came in. -/
def inOrder (reports : List (Nat × RunResult)) : List RunResult :=
  (reports.mergeSort fun a b => decide (a.1 ≤ b.1)).map (·.2)

def run (s : Encounter) (seed count workers : Nat) : Except EncounterError (List RunResult) := do
  let sizes := chunkSizes count (workerCount workers count)
  let reports ← (chunks sizes (jobs seed count)).mapM (work s)
  return inOrder reports.flatten

end Campaign

end Gremlin
