import Walkthrough.Channel
import Walkthrough.Run

/-!
# Attended runs

What the command line puts around the run of a flow. The console listens to the log; the session is
started, the flow is run, the console is taken off the stream of the log, and the session is
stopped. Whatever the run comes to, and even if it throws, the last two are done after it; a
session that cannot be started ends the whole at once.

Mirroring notes:
- `attend` is the part of the command `run` from the start of the session on. That start stands
  before the `try`, and detaching and stopping stand in its `finally`: this is why a session that
  could not be started is neither stopped nor detached from.
- `detach` is what attaching the console handed back.
-/

namespace Walkthrough

universe u

/-- The stream of log records in a world: who listens to it, and how a listener is taken off. -/
structure LogStream (World Listener : Type) [BEq Listener] where
  channel : World → Channel Listener
  detach : Listener → World → World
  channel_detach : ∀ l w, channel (detach l w) = (channel w).cancel l

/-- What stands around the run of a flow. -/
structure Attendance (World Listener : Type) [BEq Listener] where
  /-- Starts the session. -/
  start : Act World Unit
  /-- Stops the session. -/
  stop : Act World Unit
  stream : LogStream World Listener
  /-- The listener that prints the log while the flow runs. -/
  console : Listener

/-- What comes of an attended run. -/
inductive Attended (α : Type u) where
  /-- The session could not be started. -/
  | unstarted (e : Thrown)
  /-- The session could not be stopped. -/
  | unstopped (e : Thrown)
  | ended (result : Except Thrown α)

namespace Attendance

variable {World Listener : Type} [BEq Listener] {α : Type u}

/-- Takes the console off the stream of the log. -/
def detach (a : Attendance World Listener) (w : World) : World := a.stream.detach a.console w

/-- Runs something with a session that is started before and stopped afterwards. -/
def attend (a : Attendance World Listener) (run : Act World α) (w : World) : Attended α × World :=
  match a.start w with
  | (.error e, w) => (.unstarted e, w)
  | (.ok (), w) =>
    let (result, w) := run w
    match a.stop (a.detach w) with
    | (.error e, w) => (.unstopped e, w)
    | (.ok (), w) => (.ended result, w)

end Attendance

end Walkthrough
