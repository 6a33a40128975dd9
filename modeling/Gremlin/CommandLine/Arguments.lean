import Gremlin.Text.Numeral

set_option autoImplicit false

/-!
The arguments of the command line: options before and after the name of a command, and the values
the command takes.
-/

namespace Gremlin.CommandLine

open Gremlin.Text (longBound readBelow?)

inductive CommandName where
  | run
  | validate
  | list
  | waves
  | moves
deriving DecidableEq, Repr

namespace CommandName

def name : CommandName → String
  | run => "run"
  | validate => "validate"
  | list => "list"
  | waves => "waves"
  | moves => "moves"

def all : List CommandName := [run, validate, list, waves, moves]

def ofName? (given : String) : Option CommandName := all.find? (·.name = given)

end CommandName

inductive Key where
  | bestiary
  | iterations
  | seed
  | workers
  | verbose
  | size
  | help
  | version
deriving DecidableEq, Repr

def Key.takesValue : Key → Bool
  | bestiary | iterations | seed | workers | size => true
  | verbose | help | version => false

structure Switch where
  letter : Char
  name : String
  key : Key

/-- The options that can be given before or after any command. -/
def commonSwitches : List Switch :=
  [⟨'b', "bestiary", .bestiary⟩, ⟨'h', "help", .help⟩, ⟨'V', "version", .version⟩]

/-- The options that can be given after a command, or before one. -/
def switches : Option CommandName → List Switch
  | some .run =>
    [⟨'n', "iterations", .iterations⟩, ⟨'s', "seed", .seed⟩, ⟨'w', "workers", .workers⟩,
      ⟨'v', "verbose", .verbose⟩] ++ commonSwitches
  | some .list => ⟨'s', "size", .size⟩ :: commonSwitches
  | _ => commonSwitches

structure Options where
  bestiary : Option String := none
  iterations : Option Nat := none
  seed : Option Nat := none
  workers : Option Nat := none
  verbose : Bool := false
  size : Option String := none
deriving DecidableEq, Repr

inductive Halt where
  | misuse
  | help
  | version (command : Option CommandName)
deriving DecidableEq, Repr

/-- Reads a number of 64 bits, which may have a plus sign. -/
def readNumber (s : String) : Except Halt Nat :=
  let number := match s.toList with
    | '+' :: digits => readBelow? longBound digits
    | digits => readBelow? longBound digits
  match number with
  | some n => .ok n
  | none => .error .misuse

/-- Refuses a second value for an option. -/
def once {α : Type} (old : Option α) (new : Except Halt α) : Except Halt (Option α) :=
  match old with
  | some _ => .error .misuse
  | none => new.map some

def fileName (s : String) : Except Halt String := if s.isEmpty then .error .misuse else .ok s

namespace Options

def setValue (options : Options) (key : Key) (value : String) : Except Halt Options :=
  match key with
  | .bestiary => (once options.bestiary (fileName value)).map ({ options with bestiary := · })
  | .iterations =>
    (once options.iterations (readNumber value)).map ({ options with iterations := · })
  | .seed => (once options.seed (readNumber value)).map ({ options with seed := · })
  | .workers => (once options.workers (readNumber value)).map ({ options with workers := · })
  | .size => (once options.size (.ok value)).map ({ options with size := · })
  | .verbose | .help | .version => .error .misuse

def setFlag (command : Option CommandName) (options : Options) (key : Key) : Except Halt Options :=
  match key with
  | .verbose => if options.verbose then .error .misuse else .ok { options with verbose := true }
  | .help => .error .help
  | .version => .error (.version command)
  | .bestiary | .iterations | .seed | .workers | .size => .error .misuse

end Options

/-- Whether an argument is an option and not a value. A lone dash is a value. -/
def isOption (arg : String) : Bool :=
  match arg.toList with
  | '-' :: _ :: _ => true
  | _ => false

/-- Options with one more of them, and the one that still waits for its value. -/
abbrev Pending := Except Halt (Options × Option Key)

def readNamed (command : Option CommandName) (options : Options) (cs : List Char) : Pending :=
  let name := cs.takeWhile (· ≠ '=')
  match (switches command).find? (·.name.toList = name), cs.dropWhile (· ≠ '=') with
  | none, _ => .error .misuse
  | some switch, [] =>
    if switch.key.takesValue then .ok (options, some switch.key)
    else (options.setFlag command switch.key).map (·, none)
  | some switch, _ :: value =>
    (options.setValue switch.key (String.ofList value)).map (·, none)

/-- Reads options by their letters. What follows the letter of an option that takes a value is the
value, an equals sign in front apart. -/
def readLetters (command : Option CommandName) (options : Options) : List Char → Pending
  | [] => .ok (options, none)
  | letter :: rest =>
    match (switches command).find? (·.letter = letter) with
    | none => .error .misuse
    | some switch =>
      if switch.key.takesValue then
        match rest with
        | [] => .ok (options, some switch.key)
        | '=' :: value | value => (options.setValue switch.key (String.ofList value)).map (·, none)
      else
        match options.setFlag command switch.key with
        | .error halt => .error halt
        | .ok options => readLetters command options rest

def readOption (command : Option CommandName) (options : Options) (arg : String) : Pending :=
  match arg.toList with
  | '-' :: '-' :: name => readNamed command options name
  | '-' :: letters => readLetters command options letters
  | _ => .error .misuse

def CommandName.arity : CommandName → Nat
  | run | moves => 1
  | validate | list | waves => 0

/-- What has been read of the arguments: the command, the options before it and after it, and the
values. An option before the command and its value wait for what comes next; a command that comes
next is read first. -/
structure Draft where
  command : Option CommandName := none
  before : Options := {}
  waiting : Option (Key × String) := none
  after : Options := {}
  values : List String := []

namespace Draft

def settled (draft : Draft) : Except Halt Draft :=
  match draft.waiting with
  | none => .ok draft
  | some (key, value) =>
    (draft.before.setValue key value).map ({ draft with before := ·, waiting := none })

/-- Gives an option its value, at once behind the command. -/
def setValue (draft : Draft) (key : Key) (value : String) : Except Halt Draft :=
  if draft.command.isSome then (draft.after.setValue key value).map ({ draft with after := · })
  else .ok { draft with waiting := some (key, value) }

def addOptions (draft : Draft) (arg : String) : Except Halt (Draft × Option Key) := do
  if draft.command.isSome then
    let (after, key) ← readOption draft.command draft.after arg
    return ({ draft with after }, key)
  else
    let draft ← draft.settled
    let (before, key) ← readOption none draft.before arg
    return ({ draft with before }, key)

/-- Why nothing is carried out once help is asked for by name: help for one command, or for the
whole, is shown, and nothing else can follow. -/
def helpHalt : List String → Halt
  | [] => .help
  | [name] => if name = "help" || (CommandName.ofName? name).isSome then .help else .misuse
  | _ => .misuse

def take (draft : Draft) (value : String) (rest : List String) : Except Halt Draft :=
  match draft.command with
  | some command =>
    if draft.values.length < command.arity then .ok { draft with values := draft.values ++ [value] }
    else .error .misuse
  | none =>
    match CommandName.ofName? value with
    | some command => .ok { draft with command := some command }
    | none => .error (if value = "help" then helpHalt rest else .misuse)

/-- Reads arguments. Two dashes end the options, and only values follow. -/
def read (draft : Draft) : List String → Except Halt Draft
  | [] => draft.settled
  | arg :: rest =>
    if arg = "--" then
      if draft.command.isSome then { draft with values := draft.values ++ rest }.settled
      else .error .misuse
    else if isOption arg then
      match draft.addOptions arg with
      | .error halt => .error halt
      | .ok (draft, none) => read draft rest
      | .ok (draft, some key) =>
        match rest with
        | [] => .error .misuse
        | value :: rest =>
          if isOption value then .error .misuse
          else match draft.setValue key value with
            | .error halt => .error halt
            | .ok draft => read draft rest
    else
      match draft.take arg rest with
      | .error halt => .error halt
      | .ok draft => read draft rest

end Draft

inductive Command where
  | run (scenario : String) (iterations : Nat) (seed workers : Option Nat) (verbose : Bool)
  | validate
  | list (size : Option String)
  | waves
  | moves (text : String)
deriving DecidableEq, Repr

structure Arguments where
  bestiary : Option String
  command : Command
deriving DecidableEq, Repr

def Draft.command? (draft : Draft) : Option Command :=
  let options := draft.after
  match draft.command, draft.values with
  | some .run, [scenario] =>
    some (.run scenario (options.iterations.getD 1) options.seed options.workers options.verbose)
  | some .validate, [] => some .validate
  | some .list, [] => some (.list options.size)
  | some .waves, [] => some .waves
  | some .moves, [text] => some (.moves text)
  | _, _ => none

/-- The bestiary file: the one named after the command, before it, or by the environment. A name in
the environment may only be empty where the arguments name a file on both sides. -/
def Draft.bestiary (draft : Draft) (environment : Option String) : Except Halt (Option String) :=
  let named := draft.after.bestiary <|> draft.before.bestiary
  match environment with
  | none => .ok named
  | some value =>
    if value.isEmpty && (draft.after.bestiary.isNone || draft.before.bestiary.isNone) then
      .error .misuse
    else .ok (named <|> some value)

def Arguments.read (environment : Option String) (args : List String) : Except Halt Arguments := do
  let draft ← Draft.read {} args
  let bestiary ← draft.bestiary environment
  match draft.command? with
  | some command => return ⟨bestiary, command⟩
  | none => throw .misuse

namespace Arguments

def fileNames (arguments : Arguments) : List String :=
  arguments.bestiary.toList ++
    match arguments.command with
    | .run scenario .. => [scenario]
    | _ => []

def runs (arguments : Arguments) : Nat :=
  match arguments.command with
  | .run _ iterations .. => max iterations 1
  | _ => 1

def isVerbose (arguments : Arguments) : Bool :=
  match arguments.command with
  | .run _ _ _ _ verbose => verbose
  | _ => false

end Arguments

def usage : String :=
  "Usage: gremlins [--bestiary <FILE>] <COMMAND>\n\n" ++
  "Commands:\n" ++
  "  run <SCENARIO> [-n <RUNS>] [-s <SEED>] [-w <WORKERS>] [-v]\n" ++
  "  validate\n" ++
  "  list [-s <SIZE>]\n" ++
  "  waves\n" ++
  "  moves <MOVES>\n"

def version (command : Option CommandName) : String :=
  match command with
  | some command => s!"gremlins-{command.name} 0.1.0"
  | none => "gremlins 0.1.0"

end Gremlin.CommandLine
