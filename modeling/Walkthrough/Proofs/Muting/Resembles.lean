import Walkthrough.Proofs.Muting.Basic
import Walkthrough.Proofs.Run.Comparison
import Walkthrough.Proofs.Run.Law

/-!
# Remuted flows resemble each other

Two runs that differ only in what is muted are compared from states that differ only in the muted
flag. They end with outcomes that differ only there, each with the flag that it was started with, in
worlds that look the same, and do the same but for what the sinks hear; the sinks hear nothing of a
run that is started muted (`Program.Resembles`). There is one rule for each kind of request, which
make this a comparison of runs (`Host.Discreet.comparison`).

Both flags are free in all of this. A nested step may so be muted on one side only, which is what
`Flow.relates_mute_left` and `Flow.relates_mute_right` are about: they alone compare a step with
another number of steps.
-/

namespace Walkthrough

variable {Seen : Type} {H : Host} {seen : H.World → Seen} {α β : Type}

/-- How the sessions of the host itself answer. -/
abbrev Host.ownCalls (H : Host) : H.Caller := fun _ => H.call

/-! ## What the sinks hear -/

/-- The effect hands something to the sinks. -/
def Effect.toSinks : {β : Type} → Effect H β → Bool
  | _, .logLine .. => true
  | _, .publish .. => true
  | _, _ => false

/-- What is asked for a reply is not for the sinks. -/
theorem Effect.toSinks_reply {e : Effect H (Reply H.World β)} (w : H.World) :
    e.toSinks = false :=
  e.of_reply (P := fun e => e.toSinks = false) (fun _ _ => rfl) (fun _ => rfl) w

/-- Something is handed to the sinks in the event. -/
def Event.toSinks : Event H → Bool
  | did e _ => e.toSinks
  | _ => false

namespace History

/-- The events of a run that hand something to the sinks. -/
def heard (h : History H α) : List (Event H) := h.events.filter Event.toSinks

/-- What is seen of a run besides what is handed to the sinks. -/
def unheard (h : History H α) : List H.Sighting :=
  (h.events.filter fun e => !e.toSinks).flatMap Event.sightings

theorem heard_after (h : History H α) (es : List (Event H)) :
    (h.after es).heard = es.filter Event.toSinks ++ h.heard := by
  simp [heard]

theorem unheard_after (h : History H α) (es : List (Event H)) :
    (h.after es).unheard =
      (es.filter fun e => !e.toSinks).flatMap Event.sightings ++ h.unheard := by
  simp [unheard]

end History

/-! ## States and outcomes -/

/-- The states differ at most in the muted flag, which is `b` in the first and `b'` in the
second. -/
structure RunState.Remuted {Session Sinks : Type} (b b' : Bool) (s s' : RunState Session Sinks) :
    Prop where
  left : s.muted = b
  right : s'.muted = b'
  same : s.withMuted true = s'.withMuted true

namespace RunState.Remuted

variable {Session Sinks : Type} {s s' : RunState Session Sinks} {b b' : Bool}

theorem withMuted_left {a : Bool} (hs : s.Remuted a b' s') : (s.withMuted b).Remuted b b' s' :=
  ⟨rfl, hs.right, hs.same⟩

theorem withMuted_right {a : Bool} (hs : s.Remuted b a s') : s.Remuted b b' (s'.withMuted b') :=
  ⟨hs.left, rfl, hs.same⟩

/-- Where both flags are the same, so are the states. -/
theorem eq (hs : s.Remuted b b s') : s = s' := by
  have hleft : (s.withMuted true).withMuted b = s := by
    rw [← hs.left]
    rfl
  have hright : (s'.withMuted true).withMuted b = s' := by
    rw [← hs.right]
    rfl
  rw [← hleft, ← hright, hs.same]

end RunState.Remuted

/-- What leaves the flag as it is leaves it so on both sides. -/
theorem Host.Unmuting.remuted {f : H.State → H.State} (hf : H.Unmuting f) {s s' : H.State}
    {b b' : Bool} (hs : s.Remuted b b' s') : (f s).Remuted b b' (f s') where
  left := by
    have hkept : f s = (f s).withMuted s.muted := hf s s.muted
    exact (congrArg RunState.muted hkept).trans hs.left
  right := by
    have hkept : f s' = (f s').withMuted s'.muted := hf s' s'.muted
    exact (congrArg RunState.muted hkept).trans hs.right
  same := by
    rw [← hf, ← hf, hs.same]

namespace Outcome

/-- The outcome, with the muted flag of its state put to `b`. -/
def withMuted (o : Outcome H α) (b : Bool) : Outcome H α :=
  o.update (·.withMuted b) (by intro s; rfl)

variable {o : Outcome H α} {o' : Outcome (H.answeringWith H.ownCalls) α} {a b b' : Bool}

theorem Compares.withMuted_left (ho : o.Compares (RunState.Remuted a b') o') :
    (o.withMuted b).Compares (RunState.Remuted b b') o' := by
  cases ho with
  | @success v s s' h h' hs =>
    have hmuted : (s.withMuted b).failures = [] := h
    exact .success v hmuted h' hs.withMuted_left
  | @faulted v s s' h h' hs =>
    have hmuted : (s.withMuted b).failures ≠ [] := h
    exact .faulted v hmuted h' hs.withMuted_left

theorem Compares.withMuted_right (ho : o.Compares (RunState.Remuted b a) o') :
    o.Compares (RunState.Remuted b b') (Outcome.withMuted (H := H) o' b') := by
  cases ho with
  | @success v s s' h h' hs =>
    have hmuted : (s'.withMuted b').failures = [] := h'
    exact .success v h hmuted hs.withMuted_right
  | @faulted v s s' h h' hs =>
    have hmuted : (s'.withMuted b').failures ≠ [] := h'
    exact .faulted v h hmuted hs.withMuted_right

/-- Where the flags are the same, so are the outcomes. -/
theorem Compares.eq_of_remuted (ho : o.Compares (RunState.Remuted b b) o') : o' = o := by
  cases ho with
  | success v h h' hs =>
    obtain rfl := hs.eq
    rfl
  | faulted v h h' hs =>
    obtain rfl := hs.eq
    rfl

end Outcome

/-! ## Programs -/

/-- The programs are started from states with the flags `b` and `b'`. Their outcomes differ in these
flags only, the worlds that are left look the same, and what is seen of the runs differs only in
what the sinks hear, which is nothing when the second one is muted. -/
structure Program.Resembles (seen : H.World → Seen) (d : Driver H) (b b' : Bool)
    (start start' : H.State) (p p' : Program H α) : Prop where
  outcome : (p.history d start).outcome.Compares (RunState.Remuted b b')
    (p'.history d start').outcome
  world : seen (p.history d start).world = seen (p'.history d start').world
  unheard : (p.history d start).unheard = (p'.history d start').unheard
  silent : b' = true → (p'.history d start').heard = []

variable {d : Driver H}

namespace Program.Resembles

variable {b b' : Bool} {start start' s s' : H.State} {w w' : H.World}

theorem finish {o o' : Outcome H α} (ho : o.Compares (RunState.Remuted b b') o')
    (hw : seen w = seen w') :
    (Program.finish o w).Resembles seen d b b' start start' (.finish o' w') :=
  ⟨ho, hw, rfl, fun _ => rfl⟩

theorem raise (e : Thrown) (hstart : start.Remuted b b' start') (hw : seen w = seen w') :
    (Program.raise e w : Program H α).Resembles seen d b b' start start' (.raise e w') := by
  have hfaulted : H.Unmuting (·.addFailures [Failure.ofThrown e none]) := fun _ _ => rfl
  exact ⟨.faulted none _ _ (hfaulted.remuted hstart), hw, rfl, fun _ => rfl⟩

/-- Earlier events may differ in what the sinks hear, as long as that is nothing where the second
run is muted. -/
theorem of_after {p q p' q' : Program H α} {es es' : List (Event H)}
    (hp : p.history d start = (q.history d start).after es)
    (hp' : p'.history d start' = (q'.history d start').after es')
    (hunheard : (es.filter fun e => !e.toSinks).flatMap Event.sightings =
      (es'.filter fun e => !e.toSinks).flatMap Event.sightings)
    (hsilent : b' = true → es'.filter Event.toSinks = [])
    (h : q.Resembles seen d b b' start start' q') : p.Resembles seen d b b' start start' p' := by
  refine ⟨?_, ?_, ?_, ?_⟩
  · rw [hp, hp']
    exact h.outcome
  · rw [hp, hp']
    exact h.world
  · rw [hp, hp', History.unheard_after, History.unheard_after, hunheard, h.unheard]
  · intro hb
    rw [hp', History.heard_after, hsilent hb, h.silent hb]
    rfl

/-- Nested steps are started with the flags that the runs have at that point, and the outer programs
go on from outcomes that differ in these flags only. -/
theorem run {c c' : Flow H β} {env : H.Env} {next next' : Outcome H β → H.World → Program H α}
    (hc : (c env s w).Resembles seen d b b' s s' (c' env s' w'))
    (hnext : ∀ {o o' : Outcome H β} {v v'}, o.Compares (RunState.Remuted b b') o' →
      seen v = seen v' → (next o v).Resembles seen d b b' start start' (next' o' v')) :
    (Program.run c env s w next).Resembles seen d b b' start start'
      (.run c' env s' w' next') := by
  refine of_after (Program.history_run ..) (Program.history_run ..) ?_ (fun hb => ?_)
    (hnext hc.outcome hc.world)
  · -- the events of a step are seen, its start and its end are not
    simp only [List.cons_append, List.filter_cons, List.filter_append, List.flatMap_append,
      List.filter_nil, List.flatMap_cons, List.flatMap_nil, Event.toSinks, Event.sightings,
      Bool.not_false, if_true, List.nil_append, List.append_nil]
    exact hc.unheard
  · simp only [List.cons_append, List.filter_cons, List.filter_append, List.filter_nil,
      Event.toSinks, Bool.false_eq_true, if_false, List.append_nil]
    exact hc.silent hb

theorem await (driver : d.Blind seen) {code code' : Act H.World β}
    (hcode : code.Coincides seen Eq code') (hw : seen w = seen w')
    {next next' : Except Thrown β → H.World → Program H α}
    (hnext : ∀ {x x'}, Coincide seen Eq x x' →
      (next x.1 x.2).Resembles seen d b b' start start' (next' x'.1 x'.2)) :
    (Program.await code w next).Resembles seen d b b' start start' (.await code' w' next') := by
  have hanswer := driver.await hcode w w' hw
  refine of_after rfl rfl ?_ (fun _ => rfl) (hnext hanswer)
  exact congrArg (fun r => [Sighting.answered r]) hanswer.fst_eq

/-- A call that leaves the run, and what is awaited for its answer. -/
theorem outside (driver : d.Blind seen) {e : Effect H (Reply H.World β)} (he : e.Blind seen)
    (hw : seen w = seen w') {next next' : Except Thrown β → H.World → Program H α}
    (hnext : ∀ {x x'}, Coincide seen Eq x x' →
      (next x.1 x.2).Resembles seen d b b' start start' (next' x'.1 x'.2)) :
    (Program.outside e w next).Resembles seen d b b' start start' (.outside e w' next') := by
  have hanswer := he.perform w w' hw
  have hunheard : e.toSinks = false := Effect.toSinks_reply w
  have hp : (Program.outside e w next).history d start =
      ((Program.resolve (H.perform e w).1 (H.perform e w).2 next).history d start).after
        [.did e (H.perform e w).1] := rfl
  have hp' : (Program.outside e w' next').history d start' =
      ((Program.resolve (H.perform e w').1 (H.perform e w').2 next').history d start').after
        [.did e (H.perform e w').1] := rfl
  refine of_after hp hp' ?_ (fun _ => ?_) ?_
  · simp only [List.filter_cons, List.filter_nil, Event.toSinks, hunheard, Bool.not_false, if_true,
      List.flatMap_cons, List.flatMap_nil, List.append_nil, Event.sightings]
    exact he.sightings _ _ hanswer
  · simp only [List.filter_cons, List.filter_nil, Event.toSinks, hunheard, Bool.false_eq_true,
      if_false]
  · generalize H.perform e w = x at hanswer ⊢
    generalize H.perform e w' = x' at hanswer ⊢
    cases hanswer with
    | threw e hv => exact hnext (.threw e hv)
    | gave h hv =>
      cases h with
      | value a => exact hnext (.gave rfl hv)
      | awaitable hcode => exact await driver hcode hv hnext

/-- What follows an announcement goes on in a world that looks as it did, after events that only the
sinks hear. -/
theorem history_announce (host : H.Discreet seen) (s : H.State) (node : Log) (w : H.World)
    (next : H.World → Program H α) (start : H.State) :
    ∃ v es, seen v = seen w ∧
      (Flow.announce s node w next).history d start = ((next v).history d start).after es ∧
      (es.filter fun e => !e.toSinks) = [] ∧ (s.muted = true → es = []) := by
  unfold Flow.announce
  split
  next hsilent => exact ⟨w, [], rfl, rfl, rfl, fun _ => rfl⟩
  next hloud =>
    obtain ⟨w₁, hlogged, hw₁⟩ := host.logLine s.settings.sinks node.message node.indent w
    obtain ⟨w₂, hpublished, hw₂⟩ := host.publish s.settings.sinks node.record w₁
    refine ⟨w₂, [.did (.logLine s.settings.sinks node.message node.indent) (.ok ()),
      .did (.publish s.settings.sinks node.record) (.ok ())], hw₂.trans hw₁, ?_, rfl, ?_⟩
    · simp only [history, Host.perform, hlogged, hpublished]
      rfl
    · intro hmuted
      rw [hmuted] at hloud
      exact absurd rfl hloud

/-- A node of the log is announced to discreet sinks, or kept from them. -/
theorem announce (host : H.Discreet seen) (hs : s.Remuted b b' s') {node : Log}
    (hw : seen w = seen w') {next next' : H.World → Program H α}
    (hnext : ∀ {v v'}, seen v = seen v' →
      (next v).Resembles seen d b b' start start' (next' v')) :
    (Flow.announce s node w next).Resembles seen d b b' start start'
      (Flow.announce s' node w' next') := by
  obtain ⟨v, es, hv, hp, hes, -⟩ := history_announce (d := d) host s node w next start
  obtain ⟨v', es', hv', hp', hes', hmuted⟩ :=
    history_announce (d := d) host s' node w' next' start'
  refine of_after hp hp' (by rw [hes, hes']) (fun hb => ?_) (hnext ?_)
  · rw [hmuted (hs.right.trans hb)]
    rfl
  · rw [hv, hv', hw]

/-- Changing the values that programs end with changes nothing else. -/
theorem map {p p' : Program H α} (f : α → β) (h : p.Resembles seen d b b' start start' p') :
    (p.map f).Resembles seen d b b' start start' (p'.map f) := by
  refine ⟨?_, ?_, ?_, ?_⟩
  · rw [Program.history_map, Program.history_map]
    exact h.outcome.map f
  · rw [Program.history_map, Program.history_map]
    exact h.world
  · rw [Program.history_map, Program.history_map]
    exact h.unheard
  · rw [Program.history_map]
    exact h.silent

end Program.Resembles

/-- Under sinks that are discreet, programs are alike when they resemble each other. The sides are
the two flags. -/
def Host.Discreet.comparison (host : H.Discreet seen) (driver : d.Blind seen) :
    H.Comparison H.ownCalls Seen where
  Side := Bool × Bool
  seen := seen
  states i := RunState.Remuted i.1 i.2
  asks e e' := e' = e ∧ e.Blind seen
  programs i start start' p p' := Program.Resembles seen d i.1 i.2 start start' p p'
  now hw := host.now hw
  unmuted hs := hs.same
  change hf hs := hf.remuted hs
  finish ho hw := .finish ho hw
  raise e hstart hw := .raise e hstart hw
  run hc hs hw hnext := .run (hc _ _ _ _ _ _ hs hw) hnext
  complain hw hnext := .of_after rfl rfl rfl (fun _ => rfl) (hnext (host.complain _ _ hw))
  sleep hw hnext := .of_after rfl rfl rfl (fun _ => rfl) (hnext (driver.sleep _ hw))
  outside he hw hnext := by
    obtain ⟨rfl, he⟩ := he
    exact .outside driver he hw hnext
  announce _ hs hnode hw hnext := by
    subst hnode
    exact .announce host hs hw hnext
  map f h := h.map f

/-! ## Muting on one side -/

/-- A muted step does what the step does that it mutes, from the state with the flag set. -/
theorem Flow.history_mute (c : Flow H α) (d : Driver H) (env : H.Env) (s : H.State) (w : H.World) :
    let inner := (c env (s.withMuted true) w).history d (s.withMuted true)
    let muted := (Flow.mute c env s w).history d s
    muted.outcome = inner.outcome.withMuted s.muted ∧ muted.world = inner.world ∧
      muted.unheard = inner.unheard ∧ muted.heard = inner.heard := by
  intro inner muted
  have hmuted : muted = History.after ⟨[], inner.outcome.withMuted s.muted, inner.world⟩
      (.started (s.withMuted true) :: inner.events ++ [.ended inner.outcome]) := rfl
  rw [hmuted]
  refine ⟨rfl, rfl, ?_, ?_⟩
  · rw [History.unheard_after]
    simp [History.unheard, Event.toSinks, Event.sightings]
  · rw [History.heard_after]
    simp [History.heard, Event.toSinks]

namespace Flow

variable {host : H.Discreet seen} {driver : d.Blind seen} {c c' : Flow H α}

theorem relates_mute_left (hc : (host.comparison driver).Relates c c') :
    (host.comparison driver).Relates (mute c) c' := by
  rintro ⟨b, b'⟩ env s s' w w' hs hw
  obtain ⟨houtcome, hworld, hunheard, hsilent⟩ :=
    hc (true, b') env (s.withMuted true) s' w w' hs.withMuted_left hw
  obtain ⟨hmuted, hleft, hunheard', -⟩ := history_mute c d env s w
  refine ⟨?_, hleft ▸ hworld, hunheard'.trans hunheard, hsilent⟩
  rw [hmuted, hs.left]
  exact houtcome.withMuted_left

/-- The second run is muted here whatever its flag was, so the sinks hear nothing. -/
theorem relates_mute_right (hc : (host.comparison driver).Relates c c') :
    (host.comparison driver).Relates c (mute c' : Flow H α) := by
  rintro ⟨b, b'⟩ env s s' w w' hs hw
  obtain ⟨houtcome, hworld, hunheard, hsilent⟩ :=
    hc (b, true) env s (s'.withMuted true) w w' hs.withMuted_right hw
  obtain ⟨hmuted, hright, hunheard', hheard⟩ := history_mute c' d env s' w'
  refine ⟨?_, hright ▸ hworld, hunheard.trans hunheard'.symm, fun _ => ?_⟩
  · rw [hmuted, hs.right]
    exact houtcome.withMuted_right
  · rw [hheard]
    exact hsilent rfl

end Flow

/-! ## Remuted flows -/

/-- Bodies that coincide are related when the flows that they hand out are. -/
theorem Host.Discreet.bodies_of_coincides (host : H.Discreet seen) (driver : d.Blind seen)
    {R : (γ : Type) → Flow H γ → Flow H γ → Prop} {b b' : Body H α} (h : b.Coincides seen R b')
    (hR : ∀ {γ : Type} (c c' : Flow H γ), R γ c c' → (host.comparison driver).Relates c c') :
    (host.comparison driver).Bodies b b' := by
  induction h with
  | returned a hw => exact .returned a hw
  | threw e hw => exact .threw e hw
  | strays shown hw hclose => exact .strays shown hw hclose
  | handsOut hc hw hclose hresume ih => exact .handsOut (hR _ _ hc) hw hclose ih

theorem Host.Discreet.recipes_of_coincide (host : H.Discreet seen) (driver : d.Blind seen)
    {R : (γ : Type) → Flow H γ → Flow H γ → Prop}
    {x x' : Except Thrown (Recipe H α) × H.World} (h : Recipe.Coincide seen R x x')
    (hR : ∀ {γ : Type} (c c' : Flow H γ), R γ c c' → (host.comparison driver).Relates c c') :
    (host.comparison driver).Recipes x x' := by
  cases h with
  | threw e hw => exact .threw e hw
  | value a hw => exact .value a hw
  | flow hc hw => exact .flow (hR _ _ hc) hw
  | body hb => exact .body (host.bodies_of_coincides driver hb hR)

namespace Flow

/-- By induction on how the flows are built, with one case for each combinator and one for a mute on
either side. -/
theorem relates_of_remuted (host : H.Discreet seen) (driver : d.Blind seen) {c c' : Flow H α}
    (h : Remuted seen c c') : (host.comparison driver).Relates c c' := by
  induction h with
  | muteLeft hc ih => exact relates_mute_left ih
  | muteRight hc ih => exact relates_mute_right ih
  | pure a => exact .pure a
  | failure f fs => exact .failure f fs
  | throwing e => exact .throwing e
  | bind hR hc hf ihR ih => exact .bind ih fun a w w' hw => (hf a w w' hw).imp ihR
  | map hf hc ih => exact .map hf ih
  | orElseWith hR hc hf ihR ih => exact .orElseWith ih fun fs w w' hw => (hf fs w w' hw).imp ihR
  | bimap hsuccess hfailure hc ih => exact .bimap hsuccess hfailure ih
  | retype f hc ih => exact .retype f ih
  | ask => exact .ask
  | «local» hf hc ih => exact .local hf ih
  | initConfig configuration => exact .modifyState fun _ _ => rfl
  | initSettings settings => exact .modifyState fun _ _ => rfl
  | defaultWait => exact .liftState fun _ _ => rfl
  | defaultInterval => exact .liftState fun _ _ => rfl
  | lift h => exact .lift ⟨rfl, .code h⟩
  | write kind message => exact .write kind message
  | context label hc ih => exact .context label ih
  | config key => exact .config key
  | @tryEffect _ e he label hlabel =>
    have hasks : (host.comparison driver).asks e e := ⟨rfl, he⟩
    exact .tryEffect hasks hlabel
  | sequence h ih => exact .sequence ih
  | collect h ih => exact .collect ih
  | use resource hR hrelease hf ihR =>
    exact .use resource ⟨rfl, .code hrelease⟩ fun w w' hw => (hf w w' hw).imp ihR
  | session => exact .session
  | withSession handle hc ih => exact .withSession handle ⟨rfl, .call host handle .quit⟩ ih
  | stopwatch hc ih => exact .stopwatch ih
  | pause interval => exact .pause interval
  | waitUntil hc hwatch interval wait ih => exact .waitUntil ih hwatch interval wait
  | waitUntilSucceeds hc interval wait label ih => exact .waitUntilSucceeds ih interval wait label
  | doWhile hc hcontinue maxRepeats ih => exact .doWhile ih hcontinue maxRepeats
  | doWhileOrFail hc hcontinue maxAttempts interval message ih =>
    exact .doWhileOrFail ih hcontinue maxAttempts interval message
  | ofRecipe hR h ihR =>
    exact .ofRecipe fun hw => host.recipes_of_coincide driver (h _ _ hw) ihR

/-- Remuted flows resemble each other from states that differ in the muted flag only, in worlds that
look the same. -/
theorem resembles_of_remuted (host : H.Discreet seen) (driver : d.Blind seen) {c c' : Flow H α}
    (h : Remuted seen c c') {b b' : Bool} (env : H.Env) {s s' : H.State} {w w' : H.World}
    (hs : s.Remuted b b' s') (hw : seen w = seen w') :
    (c env s w).Resembles seen d b b' s s' (c' env s' w') :=
  relates_of_remuted host driver h (b, b') env s s' w w' hs hw

end Flow

end Walkthrough
