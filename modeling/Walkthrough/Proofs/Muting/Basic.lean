import Walkthrough.Flow.Batch
import Walkthrough.Flow.Resource
import Walkthrough.Flow.Steps
import Walkthrough.Proofs.Run.Coincide
import Walkthrough.Proofs.Run.Sighting

/-!
# Flows that differ in what they mute

The sinks of a run may keep what they are handed, so they change the world. Sinks are discreet when
that is all they do: they never throw, and no clock, session or code notices the change. What
everything but the sinks notices of a world is given by a function `seen`.

`Flow.Remuted seen` relates flows that are built in the same way from combinators that neither read
nor replace the state of the run as a whole, but with `mute` around different parts. The functions
that they are built from coincide. A flow that is remuted to itself is one whose functions do not
notice what the sinks do.
-/

namespace Walkthrough

variable {Seen : Type}

/-- The sinks never throw, and nothing else notices what they do. -/
structure Host.Discreet (H : Host) (seen : H.World → Seen) : Prop where
  logLine : ∀ sinks message indent w,
    ∃ w', H.logLine sinks message indent w = (.ok (), w') ∧ seen w' = seen w
  publish : ∀ sinks record w, ∃ w', H.publish sinks record w = (.ok (), w') ∧ seen w' = seen w
  now : ∀ {w w'}, seen w = seen w' → H.now w = H.now w'
  sleep : ∀ t {w w'}, seen w = seen w' → seen (H.sleep t w) = seen (H.sleep t w')
  complain : ∀ severity message {w w'}, seen w = seen w' →
    seen (H.complain severity message w) = seen (H.complain severity message w')
  call : ∀ {β : Type} (handle : H.Session) (command : Command H.Element H.Datum β),
    (H.call handle command).BlindReply seen

/-- The driver does not notice what is not seen of a world. -/
structure Driver.Blind {H : Host} (seen : H.World → Seen) (d : Driver H) : Prop where
  sleep : ∀ t {w w'}, seen w = seen w' → Coincide seen Eq (d.sleep t w) (d.sleep t w')
  await : ∀ {β : Type} {code code' : Act H.World β}, code.Coincides seen Eq code' →
    Act.Coincides seen Eq (d.await code) (d.await code')

variable {H : Host} {seen : H.World → Seen}

/-- Asking for the reply does not notice what is not seen of a world, and its answer is seen as the
same. -/
structure Effect.Blind {β : Type} (seen : H.World → Seen) (e : Effect H (Reply H.World β)) :
    Prop where
  perform : (H.perform e).BlindReply seen
  sightings : ∀ x x' : Except Thrown (Reply H.World β) × H.World,
    Coincide seen (Reply.Coincides seen) x x' → e.sightings x.1 = e.sightings x'.1

namespace Effect.Blind

variable {β : Type}

/-- What coincides is seen as the same answer, or as none yet. -/
theorem sightings_eq {x x' : Except Thrown (Reply H.World β) × H.World}
    (h : Coincide seen (Reply.Coincides seen) x x') :
    (Reply.sightings x.1 : List H.Sighting) = Reply.sightings x'.1 := by
  cases h with
  | threw e hw => rfl
  | gave h hw =>
    cases h with
    | value b => rfl
    | awaitable hcode => rfl

theorem code {code : Act H.World (Reply H.World β)} (h : code.BlindReply seen) :
    (Effect.code code : Effect H (Reply H.World β)).Blind seen where
  perform := h
  sightings _ _ h := congrArg (Sighting.called :: ·) (sightings_eq h)

theorem call (host : H.Discreet seen) (handle : H.Session)
    (command : Command H.Element H.Datum β) :
    (Effect.call handle command : Effect H (Reply H.World β)).Blind seen where
  perform := host.call handle command
  sightings _ _ h := congrArg (Sighting.asked handle command :: ·) (sightings_eq h)

end Effect.Blind

theorem Driver.blind_blocking (host : H.Discreet seen) : (blocking : Driver H).Blind seen where
  sleep _ _ _ hw := .gave rfl (host.sleep _ hw)
  await _ _ _ hw := .threw _ hw

theorem Driver.blind_suspending (host : H.Discreet seen) :
    (suspending : Driver H).Blind seen where
  sleep _ _ _ hw := .gave rfl (host.sleep _ hw)
  await h := h

/-- Two bodies hand out flows that belong together, and do the same otherwise. -/
inductive Body.Coincides (seen : H.World → Seen) (R : (β : Type) → Flow H β → Flow H β → Prop) :
    {α : Type} → Body H α → Body H α → Prop where
  | returned {α : Type} (a : α) {w w' : H.World} (hw : seen w = seen w') :
      Body.Coincides seen R (.returned a w) (.returned a w')
  | threw {α : Type} (e : Thrown) {w w' : H.World} (hw : seen w = seen w') :
      Body.Coincides seen R (.threw e w : Body H α) (.threw e w')
  | strays {α : Type} (shown : String) {w w' : H.World} (hw : seen w = seen w')
      {close close' : Act H.World Unit} (hclose : close.Coincides seen Eq close') :
      Body.Coincides seen R (.strays shown w close : Body H α) (.strays shown w' close')
  | handsOut {α β : Type} {c c' : Flow H β} (h : R β c c') {w w' : H.World}
      (hw : seen w = seen w') {close close' : Act H.World Unit}
      (hclose : close.Coincides seen Eq close') {resume resume' : β → H.World → Body H α}
      (hresume : ∀ b v v', seen v = seen v' → Body.Coincides seen R (resume b v) (resume' b v')) :
      Body.Coincides seen R (.handsOut c w close resume) (.handsOut c' w' close' resume')

/-- Making two recipes throws the same, or they stand for the same value, for flows that belong
together, or for bodies that coincide from the worlds that are left. -/
inductive Recipe.Coincide (seen : H.World → Seen) (R : (β : Type) → Flow H β → Flow H β → Prop)
    {α : Type} : Except Thrown (Recipe H α) × H.World → Except Thrown (Recipe H α) × H.World →
      Prop where
  | threw (e : Thrown) {w w' : H.World} (hw : seen w = seen w') :
      Recipe.Coincide seen R (.error e, w) (.error e, w')
  | value (a : α) {w w' : H.World} (hw : seen w = seen w') :
      Recipe.Coincide seen R (.ok (.value a), w) (.ok (.value a), w')
  | flow {c c' : Flow H α} (h : R α c c') {w w' : H.World} (hw : seen w = seen w') :
      Recipe.Coincide seen R (.ok (.flow c), w) (.ok (.flow c'), w')
  | body {x x' : H.World → Body H α} {w w' : H.World} (h : (x w).Coincides seen R (x' w')) :
      Recipe.Coincide seen R (.ok (.body x), w) (.ok (.body x'), w')

namespace Flow

/-- The flows are built in the same way, but for the parts that they mute. -/
inductive Remuted (seen : H.World → Seen) : {α : Type} → Flow H α → Flow H α → Prop where
  | muteLeft {α : Type} {c c' : Flow H α} (hc : Remuted seen c c') : Remuted seen (mute c) c'
  | muteRight {α : Type} {c c' : Flow H α} (hc : Remuted seen c c') : Remuted seen c (mute c')
  | pure {α : Type} (a : α) : Remuted seen (pure a) (pure a)
  | failure {α : Type} (f : Failure) (fs : List Failure) :
      Remuted seen (failure f fs : Flow H α) (failure f fs)
  | throwing {α : Type} (e : Thrown) : Remuted seen (throwing e : Flow H α) (throwing e)
  | bind {α β : Type} {c c' : Flow H α} {f f' : α → Act H.World (Flow H β)}
      {R : (γ : Type) → Flow H γ → Flow H γ → Prop}
      (hR : ∀ {γ} d d', R γ d d' → Remuted seen d d') (hc : Remuted seen c c')
      (hf : ∀ a, (f a).Coincides seen (R β) (f' a)) : Remuted seen (c.bind f) (c'.bind f')
  | map {α β : Type} {c c' : Flow H α} {f : α → Act H.World β} (hf : ∀ a, (f a).Blind seen)
      (hc : Remuted seen c c') : Remuted seen (c.map f) (c'.map f)
  | orElseWith {α : Type} {c c' : Flow H α} {f f' : List Failure → Act H.World (Flow H α)}
      {R : (γ : Type) → Flow H γ → Flow H γ → Prop}
      (hR : ∀ {γ} d d', R γ d d' → Remuted seen d d') (hc : Remuted seen c c')
      (hf : ∀ fs, (f fs).Coincides seen (R α) (f' fs)) :
      Remuted seen (c.orElseWith f) (c'.orElseWith f')
  | bimap {α β : Type} {c c' : Flow H α} {onSuccess : α → Act H.World β}
      {onFailure : List Failure → Act H.World (List Failure)}
      (hsuccess : ∀ a, (onSuccess a).Blind seen) (hfailure : ∀ fs, (onFailure fs).Blind seen)
      (hc : Remuted seen c c') :
      Remuted seen (c.bimap onSuccess onFailure) (c'.bimap onSuccess onFailure)
  | retype {α β : Type} {c c' : Flow H α} (f : α → β) (hc : Remuted seen c c') :
      Remuted seen (c.retype f) (c'.retype f)
  | ask : Remuted seen ask ask
  | «local» {α : Type} {c c' : Flow H α} {f : H.Env → Act H.World H.Env}
      (hf : ∀ env, (f env).Blind seen) (hc : Remuted seen c c') :
      Remuted seen («local» f c) («local» f c')
  | initConfig (configuration : List (String × String)) :
      Remuted seen (initConfig configuration) (initConfig configuration)
  | initSettings (settings : Settings H.Sinks) :
      Remuted seen (initSettings settings) (initSettings settings)
  | defaultWait : Remuted seen defaultWait defaultWait
  | defaultInterval : Remuted seen defaultInterval defaultInterval
  | lift {α : Type} {code : Act H.World (Reply H.World α)} (h : code.BlindReply seen) :
      Remuted seen (lift code) (lift code)
  | write (kind : LogKind) (message : String) :
      Remuted seen (write kind message) (write kind message)
  | context {α : Type} {c c' : Flow H α} (label : String) (hc : Remuted seen c c') :
      Remuted seen (context label c) (context label c')
  | config (key : String) : Remuted seen (config key) (config key)
  | tryEffect {α : Type} {e : Effect H (Reply H.World α)} (he : e.Blind seen)
      {label : Thrown → Act H.World String} (hlabel : ∀ e, (label e).Blind seen) :
      Remuted seen (tryEffect e label) (tryEffect e label)
  | sequence {α : Type} {items : List (Flow H α × Flow H α)}
      (h : ∀ item ∈ items, Remuted seen item.1 item.2) :
      Remuted seen (sequence (items.map Prod.fst)) (sequence (items.map Prod.snd))
  | collect {α : Type} {items : List (Flow H α × Flow H α)}
      (h : ∀ item ∈ items, Remuted seen item.1 item.2) :
      Remuted seen (collect (items.map Prod.fst)) (collect (items.map Prod.snd))
  | use {α β : Type} (resource : β) {release : β → Act H.World (Reply H.World Unit)}
      {f f' : β → Act H.World (Flow H α)} {R : (γ : Type) → Flow H γ → Flow H γ → Prop}
      (hR : ∀ {γ} d d', R γ d d' → Remuted seen d d')
      (hrelease : (release resource).BlindReply seen)
      (hf : (f resource).Coincides seen (R α) (f' resource)) :
      Remuted seen (use resource release f) (use resource release f')
  | session : Remuted seen session session
  | withSession {α : Type} {c c' : Flow H α} (handle : H.Session) (hc : Remuted seen c c') :
      Remuted seen (withSession handle c) (withSession handle c')
  | stopwatch {α : Type} {c c' : Flow H α} (hc : Remuted seen c c') :
      Remuted seen (stopwatch c) (stopwatch c')
  | pause (interval : Span) : Remuted seen (pause interval) (pause interval)
  | waitUntil {α : Type} {c c' : Flow H α} (hc : Remuted seen c c') {watch : Watch H α}
      (hwatch : watch.Blind seen) (interval wait : Option Span) :
      Remuted seen (waitUntil c watch interval wait) (waitUntil c' watch interval wait)
  | waitUntilSucceeds {α : Type} {c c' : Flow H α} (hc : Remuted seen c c')
      (interval wait : Option Span) (label : String) :
      Remuted seen (waitUntilSucceeds c interval wait label)
        (waitUntilSucceeds c' interval wait label)
  | doWhile {α : Type} {c c' : Flow H α} (hc : Remuted seen c c')
      {continueIf : α → Act H.World Bool} (hcontinue : ∀ a, (continueIf a).Blind seen)
      (maxRepeats : Int) :
      Remuted seen (doWhile c continueIf maxRepeats) (doWhile c' continueIf maxRepeats)
  | doWhileOrFail {α : Type} {c c' : Flow H α} (hc : Remuted seen c c')
      {continueIf : α → Act H.World Bool} (hcontinue : ∀ a, (continueIf a).Blind seen)
      (maxAttempts : Int) (interval : Option Span) (message : String) :
      Remuted seen (doWhileOrFail c continueIf maxAttempts interval message)
        (doWhileOrFail c' continueIf maxAttempts interval message)
  | ofRecipe {α : Type} {code code' : Act H.World (Recipe H α)}
      {R : (γ : Type) → Flow H γ → Flow H γ → Prop}
      (hR : ∀ {γ} d d', R γ d d' → Remuted seen d d')
      (h : ∀ w w', seen w = seen w' → Recipe.Coincide seen R (code w) (code' w')) :
      Remuted seen (ofRecipe code) (ofRecipe code')

end Flow

end Walkthrough
