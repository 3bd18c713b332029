import Walkthrough.Flow.Logging

/-!
# Waiting and repeating

`waitUntil` looks again and again, each time from the state it was started from, until a value is
acceptable or the time is up. `waitUntilSucceeds` does the same until a flow does not fail.
`doWhile` and `doWhileOrFail` repeat a flow a bounded number of times, each time from the state the
last one left.

Mirroring notes:
- `waitUntil`, `waitUntilSucceeds`, `doWhile`, `doWhileOrFail` and `pause` are `wait_until`,
  `wait_until_succeeds`, `do_while`, `do_while_or_fail` and `pause`. A loop is a recursion on what
  is left of it, and each turn does what a turn of the loop does, in its order.
- The loop of `wait_until` has no bound of its own: it ends with an attempt that decides, or when
  the time is up. Where the clock stands still it may never end. `look` is cut there, after
  `attemptLimit` attempts, by `Fault.endless`, which is never taken for a timeout. A wait whose
  readings of the clock move by half a microsecond from each look to the next is never cut
  (`Wait.Advances.not_overruns`).
- `repeatOrFail` takes the pause in seconds, which the loop works out anew before each repeat.
-/

namespace Walkthrough

/-- What cuts a wait for which the clock stands still. -/
def Fault.endless : Fault := ⟨"EndlessWaitError", "the clock stands still"⟩

namespace Flow

variable {H : Host} {α : Type}

/-- Pauses the run. -/
def pause (interval : Span) : Flow H Unit := fun _ s w =>
  .sleep (interval.toSeconds H.precision) w fun r w => endWithValue (r, w) s

/-- More attempts than fit into a number of seconds when each lasts a microsecond. The slack covers
clocks that are read with an error. -/
def attemptLimit (seconds : Rat) : Nat := 2 * (seconds * 1000000).ceil.toNat + 16

/-- What a wait watches for, and what it says when the time is up. -/
structure Watch (H : Host) (α : Type) where
  /-- Whether to look again after this value. -/
  continueIf : α → Act H.World Bool
  /-- What is waited for. -/
  label : String
  /-- What to add about the last value when the time is up. -/
  describe : Option (α → Act H.World String)

/-- The message of a wait that ran out of time. -/
def timeoutMessage (watch : Watch H α) (timeout : Rat) (last : α) : Act H.World String :=
  let message :=
    "Timed out after " ++ Number.general timeout ++ "s waiting for " ++ watch.label
  match watch.describe with
  | none => .ok message
  | some describe => (describe last).map fun detail => message ++ ": " ++ detail

/-- The warning about a wait that ran out of time. -/
def timeoutWarning (watch : Watch H α) (attempts : Nat) (elapsed : Rat) : String :=
  "Timed out waiting for " ++ watch.label ++ " after " ++ toString attempts ++ " attempts (" ++
    Number.fixed 3 elapsed ++ "s)"

/-- Ends a wait whose time is up: a warning outside of the log, then a timeout failure. -/
def giveUp (watch : Watch H α) (timeout elapsed : Rat) (attempts : Nat) (last : α) (env : H.Env)
    (s : H.State) (w : H.World) : Program H α :=
  .effect (.complain .warning (timeoutWarning watch attempts elapsed)) w fun _ w =>
    match timeoutMessage watch timeout last w with
    | (.error e, w) => .raise e w
    | (.ok message, w) => (fail (.ofMessage .timeout message)).endWith env s w

/-- The attempts of a wait that began at `began`, of which `left` more may follow this one and
`done` came before it. -/
def look (c : Flow H α) (watch : Watch H α) (interval timeout began : Rat) (env : H.Env)
    (s : H.State) : (left done : Nat) → H.World → Program H α
  | left, done, w =>
    .run c env s w fun o w =>
      match o with
      | .faulted .. => .finish o w
      | .success a _ _ =>
        match watch.continueIf a w with
        | (.error e, w) => .raise e w
        | (.ok false, w) => .finish o w
        | (.ok true, w) =>
          let elapsed := H.precision.sub (H.now w) began
          if timeout ≤ elapsed then giveUp watch timeout elapsed (done + 1) a env s w
          else
            match left with
            | 0 => .raise (.fault .endless) w
            | left + 1 =>
              .sleep (Number.smaller interval (H.precision.sub timeout elapsed)) w fun r w =>
                match r with
                | .error e => .raise e w
                | .ok _ => look c watch interval timeout began env s left (done + 1) w

/-- Runs a flow again and again from one state while `watch` says so, for at most the time `wait`.
A failure of the flow is the end. -/
def waitUntil (c : Flow H α) (watch : Watch H α) (interval wait : Option Span) : Flow H α :=
  fun env s w =>
    let interval := Span.toSecondsOr H.precision s.settings.interval interval
    let timeout := Span.toSecondsOr H.precision s.settings.wait wait
    look c watch interval timeout (H.now w) env s (attemptLimit timeout) 0 w

/-- Runs a flow and gives its value, or the last of its failures without failing. -/
def attempt (c : Flow H α) : Flow H (Except Failure α) :=
  (c.map fun a => .ok (.ok a)).orElseWith fun fs =>
    .ok (pure (.error (fs.getLast?.getD default)))

/-- Whether an attempt failed, and the text of its failure. -/
def succeedsWatch (label : String) : Watch H (Except Failure α) where
  continueIf
    | .ok _ => .ok false
    | .error _ => .ok true
  label := label
  describe := some fun
    | .ok _ => .ok ""
    | .error f => .ok f.text

/-- Ends as an attempt did. -/
def settle (c : Flow H (Except Failure α)) : Flow H α := fun env s w =>
  .run c env s w fun o w =>
    match o with
    | .faulted _ t h => .finish (.faulted none t h) w
    | .success (.ok a) t _ => .finish (.of a t) w
    | .success (.error f) t _ => .finish (.fault t f []) w

/-- Runs a flow again and again from one state until it succeeds, for at most the time `wait`. The
failure when the time is up ends with the text of the last failure. -/
def waitUntilSucceeds (c : Flow H α) (interval wait : Option Span) (label : String) : Flow H α :=
  settle (waitUntil (attempt c) (succeedsWatch label) interval wait)

/-- The repeats of a loop that ends without failing. -/
def repeatWhile (c : Flow H α) (continueIf : α → Act H.World Bool) (env : H.Env) :
    (left : Nat) → Option α → H.State → H.World → Program H (Option α)
  | 0, value, s, w => .finish (.of value s) w
  | left + 1, _, s, w =>
    .run c env s w fun o w =>
      match o with
      | .faulted v t h => .finish (.faulted (v.map some) t h) w
      | .success a t _ =>
        match continueIf a w with
        | (.error e, w) => .raise e w
        | (.ok false, w) => .finish (.of (some a) t) w
        | (.ok true, w) => repeatWhile c continueIf env left (some a) t w

/-- Runs a flow while its value asks for more, at most `maxRepeats` times; the value is the last
one, if there is any. -/
def doWhile (c : Flow H α) (continueIf : α → Act H.World Bool) (maxRepeats : Int) :
    Flow H (Option α) := fun env s w =>
  repeatWhile c continueIf env maxRepeats.toNat none s w

/-- The repeats of a loop that fails when none is left. `again` is the pause before each repeat but
the first. -/
def repeatOrFail (c : Flow H α) (continueIf : α → Act H.World Bool) (again : Option Rat)
    (message : String) (env : H.Env) : (left : Nat) → H.State → H.World → Program H α
  | 0, s, w => (failWith message).endWith env s w
  | left + 1, s, w =>
    .run c env s w fun o w =>
      match o with
      | .faulted .. => .finish o w
      | .success a t _ =>
        match continueIf a w with
        | (.error e, w) => .raise e w
        | (.ok false, w) => .finish o w
        | (.ok true, w) =>
          match left, again with
          | 0, _ => (failWith message).endWith env t w
          | left + 1, none => repeatOrFail c continueIf again message env (left + 1) t w
          | left + 1, some seconds =>
            .sleep seconds w fun r w =>
              match r with
              | .error e => .raise e w
              | .ok _ => repeatOrFail c continueIf again message env (left + 1) t w

/-- Runs a flow while its value asks for more, with a pause between two runs, and fails with
`message` after `maxAttempts` runs. -/
def doWhileOrFail (c : Flow H α) (continueIf : α → Act H.World Bool) (maxAttempts : Int)
    (interval : Option Span) (message : String) : Flow H α := fun env s w =>
  repeatOrFail c continueIf (interval.map (·.toSeconds H.precision)) message env
    maxAttempts.toNat s w

end Flow

end Walkthrough
