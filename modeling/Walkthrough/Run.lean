import Walkthrough.Flow.Frames

/-!
# Running a flow from the start

A run starts from an empty state with a session and settings. When it has ended the session is quit
if the settings of the last state say so; that this fails is written down and changes nothing. The
raising runs then hand what went wrong to the sinks and throw it.

Mirroring notes:
- `run`, `runAsync`, `runAndRaise` and `runAndRaiseAsync` have their names; `dispose` and
  `raiseOnFailure` are `_dispose` and `_raise_on_failure`. Whether to quit is read from the settings
  of the last state, and the session is the one that the run was given.
-/

namespace Walkthrough

variable {H : Host} {α : Type}

/-- The state that a run starts from. -/
def Host.initialState (H : Host) (session : Option H.Session) (settings : Settings H.Sinks) :
    H.State :=
  { session, settings }

namespace Flow

/-- Asks the session to quit at the end of a run, if the settings say so. Something that would have
to be awaited is handed back. -/
def dispose (s : H.State) (session : Option H.Session) (w : H.World) :
    Option (Act H.World Unit) × H.World :=
  match session with
  | none => (none, w)
  | some handle =>
    if s.settings.disposeOnCompletion then
      match H.call handle .quit w with
      | (.ok (.value _), w) => (none, w)
      | (.ok (.awaitable code), w) => (some code, w)
      | (.error _, w) => (none, H.complain .error "Failed to quit session" w)
    else (none, w)

/-- Runs a flow with the blocking driver. -/
def run (c : Flow H α) (session : Option H.Session) (settings : Settings H.Sinks) (env : H.Env)
    (w : H.World) : (H.State × Option α) × H.World :=
  let (o, w) := c.interpret env (H.initialState session settings) w
  ((o.state, o.value?), (dispose o.state session w).2)

/-- Waits until a session has quit that handed back something to be awaited. -/
def awaitQuit : Option (Act H.World Unit) × H.World → H.World
  | (none, w) => w
  | (some code, w) =>
    match code w with
    | (.ok _, w) => w
    | (.error _, w) => H.complain .error "Failed to quit session" w

/-- Runs a flow with the suspending driver. -/
def runAsync (c : Flow H α) (session : Option H.Session) (settings : Settings H.Sinks)
    (env : H.Env) (w : H.World) : (H.State × Option α) × H.World :=
  let (o, w) := c.interpretAsync env (H.initialState session settings) w
  ((o.state, o.value?), awaitQuit (dispose o.state session w))

/-- Hands failures to the failure stream, one after the other. -/
def publishFailures (sinks : H.Sinks) : List Failure → Act H.World Unit
  | [] => .ok ()
  | f :: fs => (H.publishFailure sinks f).andThen fun _ => publishFailures sinks fs

/-- What a run ends with when it failed: its only failure, or the group of all. -/
def raisedBy : (failures : List Failure) → Failure
  | [f] => f
  | fs => .group fs []

/-- Hands what went wrong to the sinks and throws it; does nothing when nothing went wrong. -/
def raiseOnFailure (s : H.State) : Act H.World Unit :=
  if s.faulted then
    let sinks := s.settings.sinks
    let raised := raisedBy s.failures
    (publishFailures sinks s.failures).andThen fun _ =>
      (H.reportFailure sinks raised s.log).andThen fun _ => .throw (.failure raised)
  else .ok ()

/-- Runs a flow with the blocking driver and throws when it fails. -/
def runAndRaise (c : Flow H α) (session : Option H.Session) (settings : Settings H.Sinks)
    (env : H.Env) : Act H.World (H.State × Option α) := fun w =>
  let (result, w) := c.run session settings env w
  (raiseOnFailure result.1).map (fun _ => result) w

/-- Runs a flow with the suspending driver and throws when it fails. -/
def runAndRaiseAsync (c : Flow H α) (session : Option H.Session) (settings : Settings H.Sinks)
    (env : H.Env) : Act H.World (H.State × Option α) := fun w =>
  let (result, w) := c.runAsync session settings env w
  (raiseOnFailure result.1).map (fun _ => result) w

end Flow

end Walkthrough
