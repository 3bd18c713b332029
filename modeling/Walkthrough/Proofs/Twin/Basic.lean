import Walkthrough.Flow.Batch
import Walkthrough.Flow.Resource
import Walkthrough.Flow.Retry
import Walkthrough.Flow.Steps

/-!
# Twins

Two flows are twins when they are built in the same way from the combinators of the library, and
differ only in the code that leaves the run: the functions of `lift` and `tryCall`, the code that
releases a resource, and how sessions answer. `Flow.Twin calls swaps` relates the flows of a host to
those of the host whose sessions answer as `calls` says; outside code may be exchanged for code that
`swaps` relates to it.

The functions that a flow is built from may throw and change the world. Those of twins do the same
of it, and where one makes a flow the other makes a twin of it: `Alike` says so of what they give,
and `Body.Alike` and `Recipe.Alike` say so of code that hands out flows one at a time.
-/

namespace Walkthrough

universe u v

/-- The same was thrown, or two values were given that belong together, and the world is the
same. -/
inductive Alike {World : Type} {α : Type u} {α' : Type v} (R : α → α' → Prop) :
    Except Thrown α × World → Except Thrown α' × World → Prop where
  | threw (e : Thrown) (w : World) : Alike R (.error e, w) (.error e, w)
  | gave {a : α} {a' : α'} (h : R a a') (w : World) : Alike R (.ok a, w) (.ok a', w)

namespace Alike

variable {World : Type} {α : Type u} {α' : Type v} {R R' : α → α' → Prop}

theorem imp {x : Except Thrown α × World} {x' : Except Thrown α' × World} (h : Alike R x x')
    (hR : ∀ a a', R a a' → R' a a') : Alike R' x x' := by
  cases h with
  | threw e w => exact .threw e w
  | gave h w => exact .gave (hR _ _ h) w

theorem threw_or_gave {x : Except Thrown α × World} {x' : Except Thrown α' × World}
    (h : Alike R x x') :
    (∃ e w, x = (.error e, w) ∧ x' = (.error e, w)) ∨
      ∃ a a' w, R a a' ∧ x = (.ok a, w) ∧ x' = (.ok a', w) := by
  cases h with
  | threw e w => exact .inl ⟨e, w, rfl, rfl⟩
  | gave h w => exact .inr ⟨_, _, w, h, rfl, rfl⟩

end Alike

/-- How sessions answer. -/
abbrev Host.Caller (H : Host) : Type 1 :=
  (β : Type) → H.Session → Command H.Element H.Datum β → Act H.World (Reply H.World β)

/-- The host with other sessions behind the same handles. -/
abbrev Host.answeringWith (H : Host) (calls : H.Caller) : Host :=
  { H with call := fun {β} => calls β }

/-- Which code that leaves a run may be exchanged for which. -/
abbrev Host.Exchange (H : Host) : Type 1 :=
  (β : Type) → Act H.World (Reply H.World β) → Act H.World (Reply H.World β) → Prop

/-- Which flows of two hosts belong together. -/
abbrev Flow.Pairing (H H' : Host) : Type 1 := (β : Type) → Flow H β → Flow H' β → Prop

namespace Flow

variable {H : Host} (calls : H.Caller)

/-- What a wait watches for, under a host with other sessions. -/
def Watch.recast {α : Type} (watch : Watch H α) : Watch (H.answeringWith calls) α :=
  ⟨watch.continueIf, watch.label, watch.describe⟩

end Flow

/-- Two bodies hand out flows that belong together, and do the same otherwise. -/
inductive Body.Alike {H : Host} {calls : H.Caller} (R : Flow.Pairing H (H.answeringWith calls)) :
    {α : Type} → Body H α → Body (H.answeringWith calls) α → Prop where
  | returned {α : Type} (a : α) (w : H.World) : Body.Alike R (.returned a w) (.returned a w)
  | threw {α : Type} (e : Thrown) (w : H.World) :
      Body.Alike R (.threw e w : Body H α) (.threw e w)
  | strays {α : Type} (shown : String) (w : H.World) (close : Act H.World Unit) :
      Body.Alike R (.strays shown w close : Body H α) (.strays shown w close)
  | handsOut {α β : Type} {c : Flow H β} {c' : Flow (H.answeringWith calls) β} (h : R β c c')
      (w : H.World) (close : Act H.World Unit) {resume : β → H.World → Body H α}
      {resume' : β → H.World → Body (H.answeringWith calls) α}
      (hresume : ∀ b w, Body.Alike R (resume b w) (resume' b w)) :
      Body.Alike R (.handsOut c w close resume) (.handsOut c' w close resume')

/-- Two recipes make the same value, flows that belong together, or bodies that are alike. -/
inductive Recipe.Alike {H : Host} {calls : H.Caller}
    (R : Flow.Pairing H (H.answeringWith calls)) {α : Type} :
    Recipe H α → Recipe (H.answeringWith calls) α → Prop where
  | value (a : α) : Recipe.Alike R (.value a) (.value a)
  | flow {c : Flow H α} {c' : Flow (H.answeringWith calls) α} (h : R α c c') :
      Recipe.Alike R (.flow c) (.flow c')
  | body {b : H.World → Body H α} {b' : H.World → Body (H.answeringWith calls) α}
      (h : ∀ w, (b w).Alike R (b' w)) : Recipe.Alike R (.body b) (.body b')

namespace Flow

/-- The flows are built in the same way, and their code that leaves the run is related by
`swaps`. -/
inductive Twin {H : Host} (calls : H.Caller) (swaps : H.Exchange) :
    {α : Type} → Flow H α → Flow (H.answeringWith calls) α → Prop where
  | pure {α : Type} (a : α) : Twin calls swaps (pure a) (pure a)
  | failure {α : Type} (f : Failure) (fs : List Failure) :
      Twin calls swaps (failure f fs : Flow H α) (failure f fs)
  | throwing {α : Type} (e : Thrown) : Twin calls swaps (throwing e : Flow H α) (throwing e)
  | bind {α β : Type} {c : Flow H α} {c' : Flow (H.answeringWith calls) α}
      {f : α → Act H.World (Flow H β)} {f' : α → Act H.World (Flow (H.answeringWith calls) β)}
      {R : Pairing H (H.answeringWith calls)} (hR : ∀ {γ} d d', R γ d d' → Twin calls swaps d d')
      (hc : Twin calls swaps c c') (hf : ∀ a w, Alike (R β) (f a w) (f' a w)) :
      Twin calls swaps (c.bind f) (c'.bind f')
  | map {α β : Type} {c : Flow H α} {c' : Flow (H.answeringWith calls) α}
      (f : α → Act H.World β) (hc : Twin calls swaps c c') : Twin calls swaps (c.map f) (c'.map f)
  | orElseWith {α : Type} {c : Flow H α} {c' : Flow (H.answeringWith calls) α}
      {f : List Failure → Act H.World (Flow H α)}
      {f' : List Failure → Act H.World (Flow (H.answeringWith calls) α)}
      {R : Pairing H (H.answeringWith calls)} (hR : ∀ {γ} d d', R γ d d' → Twin calls swaps d d')
      (hc : Twin calls swaps c c') (hf : ∀ fs w, Alike (R α) (f fs w) (f' fs w)) :
      Twin calls swaps (c.orElseWith f) (c'.orElseWith f')
  | bimap {α β : Type} {c : Flow H α} {c' : Flow (H.answeringWith calls) α}
      (onSuccess : α → Act H.World β) (onFailure : List Failure → Act H.World (List Failure))
      (hc : Twin calls swaps c c') :
      Twin calls swaps (c.bimap onSuccess onFailure) (c'.bimap onSuccess onFailure)
  | retype {α β : Type} {c : Flow H α} {c' : Flow (H.answeringWith calls) α} (f : α → β)
      (hc : Twin calls swaps c c') : Twin calls swaps (c.retype f) (c'.retype f)
  | getState : Twin calls swaps getState getState
  | liftState {α : Type} (f : H.State → Act H.World α) :
      Twin calls swaps (liftState f) (liftState f)
  | putState (t : H.State) : Twin calls swaps (putState t) (putState t)
  | modifyState (f : H.State → Act H.World H.State) :
      Twin calls swaps (modifyState f) (modifyState f)
  | ask : Twin calls swaps ask ask
  | «local» {α : Type} {c : Flow H α} {c' : Flow (H.answeringWith calls) α}
      (f : H.Env → Act H.World H.Env) (hc : Twin calls swaps c c') :
      Twin calls swaps («local» f c) («local» f c')
  | initConfig (configuration : List (String × String)) :
      Twin calls swaps (initConfig configuration) (initConfig configuration)
  | initSettings (settings : Settings H.Sinks) :
      Twin calls swaps (initSettings settings) (initSettings settings)
  | defaultWait : Twin calls swaps defaultWait defaultWait
  | defaultInterval : Twin calls swaps defaultInterval defaultInterval
  | lift {α : Type} {code code' : Act H.World (Reply H.World α)} (h : swaps α code code') :
      Twin calls swaps (lift code) (lift code')
  | write (kind : LogKind) (message : String) :
      Twin calls swaps (write kind message) (write kind message)
  | context {α : Type} {c : Flow H α} {c' : Flow (H.answeringWith calls) α} (label : String)
      (hc : Twin calls swaps c c') : Twin calls swaps (context label c) (context label c')
  | mute {α : Type} {c : Flow H α} {c' : Flow (H.answeringWith calls) α}
      (hc : Twin calls swaps c c') : Twin calls swaps (mute c) (mute c')
  | config (key : String) : Twin calls swaps (config key) (config key)
  | tryCall {α : Type} {code code' : Act H.World (Reply H.World α)} (h : swaps α code code')
      (label : Thrown → Act H.World String) :
      Twin calls swaps (tryCall code label) (tryCall code' label)
  /-- A session is asked to do something. Its twin asks the session behind the same handle. -/
  | tryAsk {α : Type} (handle : H.Session) (command : Command H.Element H.Datum α)
      (label : Thrown → Act H.World String) :
      Twin calls swaps (tryEffect (.call handle command) label)
        (tryEffect (.call handle command) label)
  | sequence {α : Type} {items : List (Flow H α × Flow (H.answeringWith calls) α)}
      (h : ∀ item ∈ items, Twin calls swaps item.1 item.2) :
      Twin calls swaps (sequence (items.map Prod.fst)) (sequence (items.map Prod.snd))
  | collect {α : Type} {items : List (Flow H α × Flow (H.answeringWith calls) α)}
      (h : ∀ item ∈ items, Twin calls swaps item.1 item.2) :
      Twin calls swaps (collect (items.map Prod.fst)) (collect (items.map Prod.snd))
  | use {α β : Type} (resource : β) {release release' : β → Act H.World (Reply H.World Unit)}
      {f : β → Act H.World (Flow H α)} {f' : β → Act H.World (Flow (H.answeringWith calls) α)}
      {R : Pairing H (H.answeringWith calls)} (hR : ∀ {γ} d d', R γ d d' → Twin calls swaps d d')
      (hrelease : swaps Unit (release resource) (release' resource))
      (hf : ∀ w, Alike (R α) (f resource w) (f' resource w)) :
      Twin calls swaps (use resource release f) (use resource release' f')
  | session : Twin calls swaps session session
  | withSession {α : Type} {c : Flow H α} {c' : Flow (H.answeringWith calls) α}
      (handle : H.Session) (hc : Twin calls swaps c c') :
      Twin calls swaps (withSession handle c) (withSession handle c')
  | stopwatch {α : Type} {c : Flow H α} {c' : Flow (H.answeringWith calls) α}
      (hc : Twin calls swaps c c') : Twin calls swaps (stopwatch c) (stopwatch c')
  | pause (interval : Span) : Twin calls swaps (pause interval) (pause interval)
  | waitUntil {α : Type} {c : Flow H α} {c' : Flow (H.answeringWith calls) α}
      (hc : Twin calls swaps c c') (watch : Watch H α) (interval wait : Option Span) :
      Twin calls swaps (waitUntil c watch interval wait)
        (waitUntil c' (watch.recast calls) interval wait)
  | waitUntilSucceeds {α : Type} {c : Flow H α} {c' : Flow (H.answeringWith calls) α}
      (hc : Twin calls swaps c c') (interval wait : Option Span) (label : String) :
      Twin calls swaps (waitUntilSucceeds c interval wait label)
        (waitUntilSucceeds c' interval wait label)
  | doWhile {α : Type} {c : Flow H α} {c' : Flow (H.answeringWith calls) α}
      (hc : Twin calls swaps c c') (continueIf : α → Act H.World Bool) (maxRepeats : Int) :
      Twin calls swaps (doWhile c continueIf maxRepeats) (doWhile c' continueIf maxRepeats)
  | doWhileOrFail {α : Type} {c : Flow H α} {c' : Flow (H.answeringWith calls) α}
      (hc : Twin calls swaps c c') (continueIf : α → Act H.World Bool) (maxAttempts : Int)
      (interval : Option Span) (message : String) :
      Twin calls swaps (doWhileOrFail c continueIf maxAttempts interval message)
        (doWhileOrFail c' continueIf maxAttempts interval message)
  | ofRecipe {α : Type} {code : Act H.World (Recipe H α)}
      {code' : Act H.World (Recipe (H.answeringWith calls) α)}
      {R : Pairing H (H.answeringWith calls)} (hR : ∀ {γ} d d', R γ d d' → Twin calls swaps d d')
      (h : ∀ w, Alike (Recipe.Alike R) (code w) (code' w)) :
      Twin calls swaps (ofRecipe code) (ofRecipe code')

end Flow

end Walkthrough
