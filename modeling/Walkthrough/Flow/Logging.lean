import Walkthrough.Flow.Basic

/-!
# Writing the log

A line is appended to the log of the current scope and announced: its message goes to the logging
action, then its record to the log stream, unless the run is muted or the message blank. `fail`
writes its failure as an error line first. `context` opens a scope: what is logged inside goes into
a log of its own, which is attached when the scope is closed, and every failure that leaves the
scope gets its label. `mute` keeps lines from the sinks, but not from the log.

Mirroring notes:
- `announce` is `_publish`, `write` is `_write`, `errorLine` is `error_log`, and the other
  combinators have their names in the prelude. `fail` takes a failure; `failWith` and `recordOf` are
  what `fail` does with a message and with an exception.
- A line is announced before the state has it, so a sink that throws leaves the state without the
  line, and `fail` without its failure.
- Writing a line cannot be refused: a state carries the proof that its log stands at no negative
  depth.
- What the library writes to its own debug log is left out.
-/

namespace Walkthrough.Flow

variable {H : Host} {α : Type}

/-- Announces a node of the log, then goes on. -/
def announce (s : H.State) (node : Log) (w : H.World) (next : H.World → Program H α) :
    Program H α :=
  if s.muted || node.isBlank then next w
  else
    .effect (.logLine s.settings.sinks node.message node.indent) w fun r w =>
      match r with
      | .error e => .raise e w
      | .ok _ =>
        .effect (.publish s.settings.sinks node.record) w fun r w =>
          match r with
          | .error e => .raise e w
          | .ok _ => next w

/-- Writes a line. -/
def write (kind : LogKind) (message : String) : Flow H Unit := fun _ s w =>
  announce s (s.line kind message) w fun w => .finish (.of () (s.withLine kind message)) w

/-- Writes an information line. -/
def info (message : String) : Flow H Unit := write .info message

/-- Writes a warning line; it does not stop the flow. -/
def warn (message : String) : Flow H Unit := write .warn message

/-- Writes an error line; it does not stop the flow. -/
def errorLine (message : String) : Flow H Unit := write .error message

/-- Writes a failure as an error line and faults the state with it. -/
def fail (f : Failure) : Flow H α := (errorLine f.message).andThen (failure f [])

/-- Fails with a message, as an assertion that does not hold. -/
def failWith (message : String) : Flow H α := fail (.ofMessage .assertion message)

/-- The failure that stands for something thrown, as `fail` records it. -/
def recordOf : Thrown → Failure
  | .failure f => f
  | .fault f => .single .capability (Thrown.fault f).detail [] (some f)

/-- Runs a flow inside a named scope. The scope is closed also when the flow fails, and every
failure that leaves it gets its label. -/
def context (label : String) (c : Flow H α) : Flow H α := fun env s w =>
  let inner := s.enter label
  announce s inner.log w fun w =>
    .run c env inner w fun o w =>
      .finish (o.update (s.leave label) (s.failures_leave_eq_nil_iff · label)) w

/-- Runs a flow without announcing what it logs. -/
def mute (c : Flow H α) : Flow H α := fun env s w =>
  .run c env (s.withMuted true) w fun o w =>
    .finish (o.update (·.withMuted s.muted) (by intro t; rfl)) w

/-- A value, or a failure with this label when there is none. -/
def require (value : Option α) (label : String) : Flow H α :=
  match value with
  | some a => pure a
  | none => failWith label

/-- The value of a configuration key. -/
def config (key : String) : Flow H String := fun env s w =>
  match s.setting? key with
  | some value => .finish (.of value s) w
  | none =>
    (fail (.ofMessage .configuration ("Configuration key not found: " ++ key))).endWith env s w

/-- Calls outside code. What it throws is wrapped as a capability failure with a label, which is
written to the log. -/
def tryEffect (e : Effect H (Reply H.World α)) (label : Thrown → Act H.World String) :
    Flow H α := fun env s w =>
  .outside e w fun r w =>
    match r with
    | .ok a => .finish (.of a s) w
    | .error thrown =>
      match label thrown w with
      | (.error e, w) => .raise e w
      | (.ok l, w) => (fail (.ofThrown thrown (some l))).endWith env s w

/-- Calls a function of the outside; what it throws is a capability failure with a label. -/
def tryCall (code : Act H.World (Reply H.World α)) (label : Thrown → Act H.World String) :
    Flow H α :=
  tryEffect (.code code) label

end Walkthrough.Flow
