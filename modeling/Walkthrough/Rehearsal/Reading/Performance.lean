import Walkthrough.Rehearsal.Performance
import Walkthrough.Rehearsal.Reading.Page
import Walkthrough.Rehearsal.Reading.Script

/-!
# Reading performances

A performance is a map with a script, how to run it, and the pages that its sessions show. The page
of the session that the run gets stands by itself; its session is called `main`.
-/

namespace Walkthrough.Rehearsal.Reading

variable {Atom : Type}

/-- The way to run a flow, and whether with the suspending driver. -/
def mode : String → Reading (Mode × Bool)
  | "run" => .ok (.run, false)
  | "run_async" => .ok (.run, true)
  | "run_and_raise" => .ok (.runAndRaise, false)
  | "run_and_raise_async" => .ok (.runAndRaise, true)
  | "interpret" => .ok (.interpret, false)
  | "interpret_async" => .ok (.interpret, true)
  | _ => expected "a way to run a flow"

/-- What the state differs in from a fresh one. -/
def start (d : Document Atom) : Reading Start := do
  return {
    failures := ← listOf plainFailure (part d "errors")
    scopes := ← texts (part d "context")
    configuration := ← table text (part d "configuration")
    muted := flag false (part d "muted") }

/-- The pages of the sessions. -/
def pages (d : Document Atom) : Reading (List (String × Page)) := do
  let main ← optional page (part d "page")
  return (main.map fun p => (mainSession, p)).toList ++ (← table page (part d "pages"))

/-- A performance. -/
def performance (d : Document Atom) : Reading Performance := do
  let (mode, asynchronous) ← mode (← textOr "run" (part d "mode"))
  let settings ←
    if has d "settings" then optional settingsPlan (part d "settings") else .ok (some {})
  return {
    script := ← script (part d "flow")
    mode, asynchronous, settings
    session := if isSet (part d "page") then some mainSession else none
    pages := ← pages d
    env := ← value (part d "env")
    start := ← start (part d "initial") }

end Walkthrough.Rehearsal.Reading
