import Gremlin.CommandLine.Program
import Gremlin.Text.Elapsed

set_option autoImplicit false

/-! The program: reads the files that the arguments name, and shows what the command answers. -/

namespace Gremlin.CommandLine

def readFile? (name : String) : IO (Option String) := do
  try
    return some (← IO.FS.readFile name)
  catch _ =>
    return none

def readFiles (names : List String) : IO Files := do
  let texts ← names.mapM readFile?
  return fun name => ((names.zip texts).lookup name).join

def Answer.print (answer : Answer) (duration : String) : IO UInt32 := do
  IO.print (answer.text duration)
  if let some failure := answer.failure then
    IO.eprintln s!"Error: {failure.message}"
  return UInt32.ofNat answer.code

def Arguments.run (arguments : Arguments) : IO UInt32 := do
  let files ← readFiles arguments.fileNames
  let start ← IO.monoNanosNow
  let answer ← IO.lazyPure fun _ => execute files arguments
  let stop ← IO.monoNanosNow
  for notice in answer.notices arguments do
    IO.eprintln notice.text
  answer.print (Text.elapsed ((stop - start) / arguments.runs))

end Gremlin.CommandLine

open Gremlin.CommandLine in
def main (args : List String) : IO UInt32 := do
  match Arguments.read (← IO.getEnv "GREMLINS_BESTIARY") args with
  | .ok arguments => arguments.run
  | .error .misuse =>
    IO.eprint usage
    return 2
  | .error .help =>
    IO.print usage
    return 0
  | .error (.version command) =>
    IO.println (version command)
    return 0
