import Walkthrough.Flow.Program
import Walkthrough.Keyed

/-!
# Basic flows

Flows that end at once, flows that call outside code, and the ways to put flows one after another or
side by side: `bind` and `map` go on from a value, `orElse` tries another flow from the same state
when the first one fails, and `bimap` changes a value or the failures.

Whatever a function that a flow is built from throws leaves the step that called it, and becomes a
fault of the state that this step was started from.

Mirroring notes:
- `pure`, `failure`, `bind`, `map`, `bimap` and `mapFail` are methods of `Computation`, `andThen` is
  `then`, and `orElse` and `orElseWith` are `or_else` with a computation and with a function. The
  others are values and functions of the prelude.
- The function given to `bimap` or `mapFail` gives a list of failures; there a single one counts as
  a list of one.
- `throwing` is a step that raises, and `endWith` runs another step in the place of its own.
- A function that flows are built from may change the world and may throw (`Act`).
-/

namespace Walkthrough.Flow

variable {H : Host} {α β : Type}

/-- Changes the value that a flow ends with, be it faulted or not. -/
def retype (f : α → β) (c : Flow H α) : Flow H β := fun env s w => (c env s w).map f

/-- The flow that gives a value and changes nothing. -/
def pure (a : α) : Flow H α := fun _ s w => .finish (.of a s) w

/-- The flow that does nothing. -/
def unit : Flow H Unit := pure ()

/-- The flow that faults the state without writing to the log. -/
def failure (f : Failure) (fs : List Failure) : Flow H α := fun _ s w => .finish (.fault s f fs) w

/-- The flow that throws when it is started. -/
def throwing (e : Thrown) : Flow H α := fun _ _ w => .raise e w

/-- Runs a flow from some state and ends as it ends. -/
def endWith (c : Flow H α) (env : H.Env) (s : H.State) (w : H.World) : Program H α :=
  .run c env s w fun o w => .finish o w

/-- Runs the flow that outside code makes, and ends as it ends. -/
def endWithMade (made : Except Thrown (Flow H α) × H.World) (env : H.Env) (s : H.State) :
    Program H α :=
  match made with
  | (.ok c, w) => c.endWith env s w
  | (.error e, w) => .raise e w

/-- The flow that outside code makes, or the failure to make one. -/
def madeOrFailed : Except Thrown (Flow H α) → Flow H α
  | .ok c => c
  | .error e => failure (.ofThrown e none) []

/-- Ends with the value that outside code gives. -/
def endWithValue (given : Except Thrown α × H.World) (s : H.State) : Program H α :=
  match given with
  | (.ok a, w) => .finish (.of a s) w
  | (.error e, w) => .raise e w

/-- Runs a flow, then the one that `f` makes from its value. A failure of the first is the end. -/
def bind (c : Flow H α) (f : α → Act H.World (Flow H β)) : Flow H β := fun env s w =>
  .run c env s w fun o w =>
    match o with
    | .faulted _ s' h => .finish (.faulted none s' h) w
    | .success a s' _ => endWithMade (f a w) env s'

/-- Runs a flow and changes its value. -/
def map (c : Flow H α) (f : α → Act H.World β) : Flow H β := fun env s w =>
  .run c env s w fun o w =>
    match o with
    | .faulted _ s' h => .finish (.faulted none s' h) w
    | .success a s' _ => endWithValue (f a w) s'

/-- Runs one flow after the other. -/
def andThen (c : Flow H α) (d : Flow H β) : Flow H β := c.bind fun _ => .ok d

/-- Runs a flow; when it fails, runs the one that `f` makes from its failures, from the same state.
When both fail, the failures of both are kept. -/
def orElseWith (c : Flow H α) (f : List Failure → Act H.World (Flow H α)) : Flow H α :=
  fun env s w =>
    .run c env s w fun left w =>
      match left with
      | .success .. => .finish left w
      | .faulted _ t ht =>
        match f t.failures w with
        | (.error e, w) => .raise e w
        | (.ok d, w) =>
          .run d env s w fun right w =>
            match right with
            | .success .. => .finish right w
            | .faulted _ u _ =>
              .finish
                (.faulted none (s.addFailures (t.failures ++ u.failures)) (by simp [ht])) w

/-- Runs a flow; when it fails, runs another one from the same state. -/
def orElse (c d : Flow H α) : Flow H α := c.orElseWith fun _ => .ok d

/-- Runs a flow and changes its value, or the failures when it fails. A failed flow stays failed:
when the new list of failures is empty, the old one is kept. -/
def bimap (c : Flow H α) (onSuccess : α → Act H.World β)
    (onFailure : List Failure → Act H.World (List Failure)) : Flow H β := fun env s w =>
  .run c env s w fun o w =>
    match o with
    | .success a s' _ => endWithValue (onSuccess a w) s'
    | .faulted _ s' h =>
      match onFailure s'.failures w with
      | (.error e, w) => .raise e w
      | (.ok [], w) => .finish (.faulted none s' h) w
      | (.ok (f :: fs), w) =>
        .finish (.faulted none (s'.withFailures (f :: fs)) (by simp)) w

/-- Runs a flow and changes the failures when it fails. -/
def mapFail (c : Flow H α) (f : List Failure → Act H.World (List Failure)) : Flow H α :=
  c.bimap .ok f

/-! ## State and environment -/

/-- The state of the run. -/
def getState : Flow H H.State := fun _ s w => .finish (.of s s) w

/-- Replaces the state of the run. -/
def putState (t : H.State) : Flow H Unit := fun _ _ w => .finish (.of () t) w

/-- Changes the state of the run. -/
def modifyState (f : H.State → Act H.World H.State) : Flow H Unit := fun _ s w =>
  match f s w with
  | (.ok t, w) => .finish (.of () t) w
  | (.error e, w) => .raise e w

/-- A value that outside code makes from the state. -/
def liftState (f : H.State → Act H.World α) : Flow H α := fun _ s w => endWithValue (f s w) s

/-- The environment of the run. -/
def ask : Flow H H.Env := fun env s w => .finish (.of env s) w

/-- A value made from the environment. -/
def asks (f : H.Env → Act H.World α) : Flow H α := ask.map f

/-- Runs a flow with another environment. -/
def «local» (f : H.Env → Act H.World H.Env) (c : Flow H α) : Flow H α := fun env s w =>
  match f env w with
  | (.ok env', w) => c.endWith env' s w
  | (.error e, w) => .raise e w

/-- Replaces the configuration by that of some pairs; of several pairs with one key the last
counts. -/
def initConfig (pairs : List (String × String)) : Flow H Unit :=
  modifyState fun s => .ok (s.withConfiguration (Keyed.ofPairs pairs))

/-- Replaces the settings. -/
def initSettings (settings : Settings H.Sinks) : Flow H Unit :=
  modifyState fun s => .ok (s.withSettings settings)

/-- How long a wait lasts when nothing else is said. -/
def defaultWait : Flow H Duration := liftState fun s => .ok s.settings.wait

/-- The pause between two looks when nothing else is said. -/
def defaultInterval : Flow H Duration := liftState fun s => .ok s.settings.interval

/-! ## Outside code -/

/-- Calls outside code; what it throws faults the state. -/
def lift (code : Act H.World (Reply H.World α)) : Flow H α := fun _ s w =>
  .outside (.code code) w fun r w => endWithValue (r, w) s

end Walkthrough.Flow
