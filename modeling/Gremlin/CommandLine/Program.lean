import Gremlin.Campaign
import Gremlin.Catalog
import Gremlin.CommandLine.Arguments
import Gremlin.Record.Reading
import Gremlin.Report
import Gremlin.Scenario.Reading
import Gremlin.Toml.Reader

set_option autoImplicit false

/-! What the commands do: a function of the arguments and of the files they name. -/

namespace Gremlin.CommandLine

inductive Failure where
  | unreadableBestiary (path : String)
  | malformedBestiary (line column : Nat)
  | unknownScenario (name : String)
  | invalidScenario (name : String)
  | encounter (error : EncounterError)
  | unknownSize (error : UnknownName)
  | unreadableMoves (error : ReadError)
  | invalidTemplates (count : Nat)
  | waveProblems (count : Nat)
deriving DecidableEq, Repr

def Failure.message : Failure → String
  | unreadableBestiary path => s!"unable to read bestiary {path}"
  | malformedBestiary line column => s!"TOML parse error at line {line}, column {column}"
  | unknownScenario name => s!"{name} is neither a wave id nor a readable scenario"
  | invalidScenario name => s!"invalid scenario {name}"
  | encounter error => error.message
  | unknownSize error => error.message
  | unreadableMoves error => error.message
  | invalidTemplates count => s!"bestiary has {count} invalid template(s)"
  | waveProblems count => s!"wave catalog has {count} problem(s)"

inductive Output where
  | line (shown : String)
  | result (r : RunResult)
  | summary (averages : Summary)

/-- The text of an output, given how long a run took. -/
def Output.text (duration : String) : Output → String
  | line shown => shown ++ "\n"
  | result r => r.text duration ++ "\n"
  | summary averages => averages.text duration ++ "\n"

structure Answer where
  outputs : List Output := []
  failure : Option Failure := none

namespace Answer

def failed (failure : Failure) : Answer := { failure := some failure }

def lines (texts : List String) : Answer := { outputs := texts.map .line }

def text (answer : Answer) (duration : String) : String :=
  String.join (answer.outputs.map (·.text duration))

def notices (answer : Answer) (arguments : Arguments) : List Notice :=
  if arguments.isVerbose then
    answer.outputs.flatMap fun output =>
      match output with
      | .result r => r.notices.toList
      | _ => []
  else []

def code (answer : Answer) : Nat := if answer.failure.isSome then 1 else 0

end Answer

/-- Reads files by name; none for a file that cannot be read. -/
abbrev Files := String → Option String

def readRecords (text : String) : Except Failure (List Record) :=
  let fault (place : Nat) : Failure :=
    let (line, column) := Toml.position text.toList place
    .malformedBestiary line column
  match Toml.readDocument text with
  | .error e => .error (fault e.place)
  | .ok document => (Record.listOfDocument document).mapError fun e => fault e.place

def loadBestiary (files : Files) : Option String → Except Failure (Bestiary × List ValidationError)
  | none => .ok (Catalog.bestiary, Catalog.errors)
  | some path =>
    match files path with
    | none => .error (.unreadableBestiary path)
    | some text => (readRecords text).map Bestiary.load

def readScenario? (text : String) : Option Scenario :=
  match Toml.readDocument text with
  | .error _ => none
  | .ok document =>
    match Scenario.ofDocument .file document with
    | .error _ => none
    | .ok scenario => some { scenario with source := some text }

/-- The scenario of a name: a predefined wave, or else a file. -/
def loadScenario (files : Files) (name : String) : Except Failure Scenario :=
  match Catalog.wave? name with
  | some wave => .ok wave.scenario
  | none =>
    match files name with
    | none => .error (.unknownScenario name)
    | some text =>
      match readScenario? text with
      | none => .error (.invalidScenario name)
      | some scenario => .ok scenario

def runEncounter (s : Encounter) (iterations seed : Nat) (workers : Option Nat) :
    Except EncounterError Output :=
  if iterations ≤ 1 then (s.runOnceWith (.ofSeed seed)).map .result
  else (Campaign.run s seed iterations (workers.getD 1)).map fun results =>
    .summary (Summary.ofResults results)

def run (files : Files) (bestiary : Bestiary) (name : String) (iterations : Nat)
    (seed workers : Option Nat) : Answer :=
  match loadScenario files name with
  | .error failure => .failed failure
  | .ok scenario =>
    let seed := (seed <|> scenario.seed).getD Encounter.defaultSeed
    match (Encounter.ofScenario scenario bestiary).bind
        fun s => runEncounter s iterations seed workers with
    | .error e => .failed (.encounter e)
    | .ok output => { outputs := [output] }

def validate (bestiary : Bestiary) (errors : List ValidationError) : Answer :=
  let waveErrors := Wave.errors bestiary Catalog.waves
  { outputs := ((errors.map ValidationError.message ++
        [s!"{bestiary.templates.length} valid template(s), {errors.length} rejected"] ++
        waveErrors.map WaveError.message ++
        [s!"{Catalog.waves.length} wave(s) checked"]).map .line)
    failure :=
      if !errors.isEmpty then some (.invalidTemplates errors.length)
      else if !waveErrors.isEmpty then some (.waveProblems waveErrors.length)
      else none }

def padRight (width : Nat) (text : String) : String := text.pushn ' ' (width - text.length)

def templateLine (template : Template) : String :=
  padRight 28 template.id ++ " " ++ template.size.name ++ " hp=" ++
    padRight 4 (toString template.stats.maxHealth) ++ " " ++ template.pattern.name ++ " " ++
    Move.listText template.moves

def list (bestiary : Bestiary) : Option String → Answer
  | none => .lines (bestiary.templates.map templateLine)
  | some size =>
    match Size.read size with
    | .error e => .failed (.unknownSize e)
    | .ok size => .lines ((bestiary.ofSize size).map templateLine)

def waves : Answer :=
  .lines (Catalog.waves.map fun wave => s!"{wave.text}: " ++ ", ".intercalate wave.gremlins)

def moves (text : String) : Answer :=
  match Move.readList text with
  | .error e => .failed (.unreadableMoves e)
  | .ok moves =>
    .lines (moves.map (fun move => s!"{move.index}: {move.text}") ++ [Move.listText moves])

/-- Carries out a command. The bestiary is loaded whatever the command is. -/
def execute (files : Files) (arguments : Arguments) : Answer :=
  match loadBestiary files arguments.bestiary with
  | .error failure => .failed failure
  | .ok (bestiary, errors) =>
    match arguments.command with
    | .run scenario iterations seed workers _ =>
      run files bestiary scenario iterations seed workers
    | .validate => validate bestiary errors
    | .list size => list bestiary size
    | .waves => waves
    | .moves text => moves text

end Gremlin.CommandLine
