import Walkthrough.Rehearsal.Command
import Walkthrough.Rehearsal.Reading.Catalogue

/-!
# The program

Rehearses a command line. The first word is the path of a rehearsal, a document with the modules
that flows are looked for in and the page that the session shows; the other words are the command.
Files and variables are read here, and lines are printed; what is printed is decided by
`Rehearsal.command`.
-/

namespace Walkthrough.Program

open Rehearsal

/-- A file by its path, if it can be read. -/
def fileAt (path : String) : IO (Option (String × String)) := do
  try
    return some (path, ← IO.FS.readFile path)
  catch _ =>
    return none

/-- A variable of the environment by its name, if it is set. -/
def variableAt (name : String) : IO (Option (String × String)) := do
  return (← IO.getEnv name).map fun value => (name, value)

/-- What a command finds around it. -/
def surroundings (words : List String) : IO Surroundings := do
  let paths :=
    match CommandLine.invocation words with
    | .ok i => i.paths
    | .error _ => []
  return {
    files := (← paths.mapM fileAt).filterMap id
    environment := (← Environment.names.mapM variableAt).filterMap id }

/-- What a text is the rehearsal of, or what is wrong with it. -/
def rehearsalOf (text : String) : Except String (Modules OfferPlan × World) :=
  match Yaml.read text with
  | .error e => .error e.name
  | .ok d => (Reading.rehearsal d).mapError Misread.message

/-- Complains and ends with the status of a misuse. -/
def refuse (complaint : String) : IO UInt32 := do
  IO.eprintln complaint
  return 2

/-- Rehearses a command. -/
def rehearse (path : String) (words : List String) : IO UInt32 := do
  match ← fileAt path with
  | none => refuse ("No rehearsal at " ++ path)
  | some (_, text) =>
    match rehearsalOf text with
    | .error complaint => refuse complaint
    | .ok (modules, world) =>
      let r := command (← surroundings words) modules words world
      r.world.consoleLines.forM IO.println
      r.errorLines.forM IO.eprintln
      return r.status.toUInt32

end Walkthrough.Program

/-- Rehearses the command that follows the path of a rehearsal. -/
def main (words : List String) : IO UInt32 :=
  match words with
  | [] => Walkthrough.Program.refuse "Missing rehearsal."
  | path :: words => Walkthrough.Program.rehearse path words
