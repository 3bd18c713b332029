import Walkthrough.Flow.Batch
import Walkthrough.Flow.Resource
import Walkthrough.Flow.Retry
import Walkthrough.Flow.Steps

/-!
# Flows built from the library's combinators

A flow is any function to programs, so nothing holds of all of them. `Composed k` singles out the
flows that are built from the combinators of this library, whatever the functions are that they are
built from: such a function may throw, change the world, and make another flow each time it is
called, as long as every flow that it makes is composed again.

A `Kit` says which kinds of steps are at hand besides the ones that always are. Statements that hold
only of flows without alternatives, say, are statements about a kit without them. Everything that
the library builds from its combinators (failing, asking the session, selectors, actions,
assertions) is composed as well: see `Walkthrough.Proofs.Composed.Derived`.
-/

namespace Walkthrough

/-- The kinds of steps that a flow may be built from, besides those that are always at hand. -/
structure Kit where
  /-- Trying another flow when one fails. -/
  alternation : Bool := true
  /-- Trying a flow again from the state that the first try was started from. -/
  retrying : Bool := true
  /-- Keeping lines from the sinks. -/
  muting : Bool := true
  /-- Reading the state of the run as a whole. -/
  reading : Bool := true
  /-- Putting another state in place of the state of the run. -/
  replacing : Bool := true

/-- The body hands out the flow at some point, whatever it was resumed with before. -/
inductive Body.Offers {H : Host} {α : Type} : Body H α → {β : Type} → Flow H β → Prop where
  | here {β : Type} (c : Flow H β) (w : H.World) (close : Act H.World Unit)
      (resume : β → H.World → Body H α) : Offers (.handsOut c w close resume) c
  | later {β γ : Type} {c : Flow H β} {w : H.World} {close : Act H.World Unit}
      {resume : β → H.World → Body H α} (b : β) (w' : H.World) {d : Flow H γ}
      (h : Offers (resume b w') d) : Offers (.handsOut c w close resume) d

namespace Flow

/-- The flow is built from the combinators of the library, with the kinds of steps in the kit. -/
inductive Composed {H : Host} (k : Kit) : {α : Type} → Flow H α → Prop where
  | pure {α : Type} (a : α) : Composed k (pure a)
  | failure {α : Type} (f : Failure) (fs : List Failure) : Composed k (failure f fs : Flow H α)
  /-- Something that cannot be run, where a flow is expected. -/
  | throwing {α : Type} (e : Thrown) : Composed k (throwing e : Flow H α)
  | bind {α β : Type} {c : Flow H α} {f : α → Act H.World (Flow H β)} (hc : Composed k c)
      (hf : ∀ a w d w', f a w = (.ok d, w') → Composed k d) : Composed k (c.bind f)
  | map {α β : Type} {c : Flow H α} (f : α → Act H.World β) (hc : Composed k c) :
      Composed k (c.map f)
  | orElseWith {α : Type} {c : Flow H α} {f : List Failure → Act H.World (Flow H α)}
      (allowed : k.alternation = true) (hc : Composed k c)
      (hf : ∀ fs w d w', f fs w = (.ok d, w') → Composed k d) : Composed k (c.orElseWith f)
  | bimap {α β : Type} {c : Flow H α} (onSuccess : α → Act H.World β)
      (onFailure : List Failure → Act H.World (List Failure)) (hc : Composed k c) :
      Composed k (c.bimap onSuccess onFailure)
  | retype {α β : Type} {c : Flow H α} (f : α → β) (hc : Composed k c) : Composed k (c.retype f)
  | getState (allowed : k.reading = true) : Composed k getState
  | liftState {α : Type} (allowed : k.reading = true) (f : H.State → Act H.World α) :
      Composed k (liftState f)
  | putState (allowed : k.replacing = true) (t : H.State) : Composed k (putState t)
  | modifyState (allowed : k.replacing = true) (f : H.State → Act H.World H.State) :
      Composed k (modifyState f)
  | ask : Composed k ask
  | «local» {α : Type} {c : Flow H α} (f : H.Env → Act H.World H.Env) (hc : Composed k c) :
      Composed k («local» f c)
  | initConfig (configuration : List (String × String)) : Composed k (initConfig configuration)
  | initSettings (settings : Settings H.Sinks) : Composed k (initSettings settings)
  | defaultWait : Composed k defaultWait
  | defaultInterval : Composed k defaultInterval
  | lift {α : Type} (code : Act H.World (Reply H.World α)) : Composed k (lift code)
  | write (kind : LogKind) (message : String) : Composed k (write kind message)
  | context {α : Type} {c : Flow H α} (label : String) (hc : Composed k c) :
      Composed k (context label c)
  | mute {α : Type} {c : Flow H α} (allowed : k.muting = true) (hc : Composed k c) :
      Composed k (mute c)
  | config (key : String) : Composed k (config key)
  | tryEffect {α : Type} (e : Effect H (Reply H.World α)) (label : Thrown → Act H.World String) :
      Composed k (tryEffect e label)
  | sequence {α : Type} {items : List (Flow H α)} (h : ∀ c ∈ items, Composed k c) :
      Composed k (sequence items)
  | collect {α : Type} {items : List (Flow H α)} (h : ∀ c ∈ items, Composed k c) :
      Composed k (collect items)
  | use {α β : Type} (resource : β) (release : β → Act H.World (Reply H.World Unit))
      {f : β → Act H.World (Flow H α)}
      (hf : ∀ w d w', f resource w = (.ok d, w') → Composed k d) :
      Composed k (use resource release f)
  | session : Composed k session
  | withSession {α : Type} {c : Flow H α} (handle : H.Session) (hc : Composed k c) :
      Composed k (withSession handle c)
  | stopwatch {α : Type} {c : Flow H α} (hc : Composed k c) : Composed k (stopwatch c)
  | pause (interval : Span) : Composed k (pause interval)
  | waitUntil {α : Type} {c : Flow H α} (allowed : k.retrying = true) (hc : Composed k c)
      (watch : Watch H α) (interval wait : Option Span) :
      Composed k (waitUntil c watch interval wait)
  | waitUntilSucceeds {α : Type} {c : Flow H α} (alternation : k.alternation = true)
      (retrying : k.retrying = true) (hc : Composed k c) (interval wait : Option Span)
      (label : String) : Composed k (waitUntilSucceeds c interval wait label)
  | doWhile {α : Type} {c : Flow H α} (hc : Composed k c) (continueIf : α → Act H.World Bool)
      (maxRepeats : Int) : Composed k (doWhile c continueIf maxRepeats)
  | doWhileOrFail {α : Type} {c : Flow H α} (hc : Composed k c)
      (continueIf : α → Act H.World Bool) (maxAttempts : Int) (interval : Option Span)
      (message : String) :
      Composed k (doWhileOrFail c continueIf maxAttempts interval message)
  | ofRecipe {α : Type} {code : Act H.World (Recipe H α)}
      (hflow : ∀ w c w', code w = (.ok (.flow c), w') → Composed k c)
      (hbody : ∀ w b w', code w = (.ok (.body b), w') →
        ∀ {β : Type} (c : Flow H β), (b w').Offers c → Composed k c) :
      Composed k (ofRecipe code)

end Flow

end Walkthrough
