import Gremlin.Encounter.Run

set_option autoImplicit false

/-! Reports: the events of one run line by line, and the averages of several. -/

namespace Gremlin

open Gremlin.Decimal (BinaryFraction Format)

/-- The lines of events. Ticks in a row have one line, that of the first. -/
def eventLines : Bool → List TimedEvent → List String
  | _, [] => []
  | afterTick, ⟨now, event⟩ :: rest =>
    match event with
    | .tick tick =>
      if afterTick then eventLines true rest else s!"[{tick.text}] Tick\n" :: eventLines true rest
    | event => s!"  {event.line} @ {now.text}\n" :: eventLines false rest

def RunResult.headline (r : RunResult) (duration : String) : String :=
  match r.verdict with
  | .cleared => s!"[{duration}] Cleared at {r.ticks.text}\n"
  | .timeout =>
    s!"[{duration}] Timeout at {r.ticks.text} with {r.survivors.length} gremlin(s) left\n"

def RunResult.text (r : RunResult) (duration : String) : String :=
  r.headline duration ++ String.join (eventLines false r.events.toList) ++ r.resources.text ++ "\n"

structure Summary where
  total : Nat
  cleared : Nat
  timeouts : Nat
  ticks : BinaryFraction
  survivors : BinaryFraction
  resources : ByForce BinaryFraction

namespace Summary

/-- The sum and its quotient are rounded as doubles, and the average once more. -/
def average (values : List Nat) : BinaryFraction :=
  if values.isEmpty then Format.single.nearest 0 1
  else
    let sum := Format.double.sum values
    let runs := Format.double.nearest values.length 1
    let quotient := Format.double.nearest (sum.num * runs.den) (sum.den * runs.num)
    Format.single.nearest quotient.num quotient.den

def ofResults (results : List RunResult) : Summary where
  total := results.length
  cleared := results.countP fun r => r.verdict = .cleared
  timeouts := results.countP fun r => r.verdict = .timeout
  ticks := average (results.map (·.ticks.count))
  survivors := average (results.map (·.survivors.length))
  resources := .ofFn fun f => average (results.map (·.resources.amount f))

def text (summary : Summary) (duration : String) : String :=
  let fixed (places : Nat) (x : BinaryFraction) : String := String.ofList (x.fixed places)
  let resources := Force.all.map fun f => f.name ++ "=" ++ fixed 1 (summary.resources.get f)
  s!"{summary.total} run(s): {summary.cleared} cleared, {summary.timeouts} timed out\n" ++
    s!"average {duration} per run, {fixed 1 summary.ticks} ticks, " ++
    s!"{fixed 2 summary.survivors} survivor(s)\n" ++
    "average resources: " ++ ", ".intercalate resources

end Summary

end Gremlin
