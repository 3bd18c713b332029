import Walkthrough.Flow.Logging

/-!
# Resources, sessions and elapsed time

`use` releases a resource after the flow that needs it, whatever happens. `withSession` runs a flow
against another session and gives the earlier one back. `callSession` is the one way from a flow to
its session. `stopwatch` measures how long a flow takes.

Mirroring notes:
- The combinators have their names in the prelude. `madeOrFailed` is the failure that `use` runs
  when the function that it is given throws.
- `withSession` asks the settings of the state it was started from whether to quit, as its source
  does, and not those that the flow leaves.
- `stopwatch` looks at neither of its two lines: that writing one failed is not noticed, and the
  flow is run from the faulted state.
-/

namespace Walkthrough.Flow

variable {H : Host} {α β : Type}

/-- Runs the flow that `f` makes from a resource, then releases the resource. -/
def use (resource : β) (release : β → Act H.World (Reply H.World Unit))
    (f : β → Act H.World (Flow H α)) : Flow H α := fun env s w =>
  let made := f resource w
  .run (madeOrFailed made.1) env s made.2 fun o w =>
    .outside (.code (release resource)) w fun r w =>
      match r with
      | .ok _ => .finish o w
      | .error e =>
        .finish
          (.fault o.state (.single .capability "Failed to release resource" [] (some e.toFault))
            [])
          w

/-- The session of the run. -/
def session : Flow H H.Session := fun _ s w =>
  match s.session with
  | some handle => .finish (.of handle s) w
  | none =>
    .finish (.fault s (.ofMessage .configuration "session hasn't been selected yet") []) w

/-- Asks the session of the run to do something, and fails with a label when that throws. -/
def callSession (label : String) (command : Command H.Element H.Datum α) : Flow H α :=
  session.bind fun handle => .ok (tryEffect (.call handle command) fun _ => .ok label)

/-- Runs a flow against a session, then gives the earlier session back. The session is quit only
when the settings say so; that this fails is no failure of the flow. -/
def withSession (handle : H.Session) (c : Flow H α) : Flow H α := fun env s w =>
  .run c env (s.withSession (some handle)) w fun o w =>
    let ended := o.update (·.withSession s.session) (by intro t; rfl)
    if s.settings.disposeOnCompletion then
      .outside (.call handle .quit) w fun r w =>
        match r with
        | .ok _ => .finish ended w
        | .error _ =>
          .effect (.complain .error "Failed to quit session") w fun _ w => .finish ended w
    else .finish ended w

/-- Runs a flow and measures how long it takes. -/
def stopwatch (c : Flow H α) : Flow H (α × Duration) := fun env s w =>
  .run (info "Start stopwatch") env s w fun started w =>
    let began := H.now w
    .run c env started.state w fun o w =>
      match o with
      | .faulted _ t h => .finish (.faulted none t h) w
      | .success a t _ =>
        let elapsed := Duration.ofSeconds H.precision (H.precision.sub (H.now w) began)
        let message := "Stop stopwatch, elapsed time: " ++ elapsed.clockText H.precision
        .run (info message) env t w fun stopped w =>
          .finish (.of (a, elapsed) stopped.state) w

end Walkthrough.Flow
