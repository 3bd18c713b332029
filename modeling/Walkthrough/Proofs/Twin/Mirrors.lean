import Walkthrough.Proofs.Run.Comparison
import Walkthrough.Proofs.Run.Sighting

/-!
# Twins look the same

When two drivers settle the code that leaves a run in the same way, each of two twins ends under its
driver as the other does, leaves the same world, and the same is seen of both
(`Flow.mirrors_of_twin`). The drivers may differ in what they do about something awaited, as long as
they settle exchanged code alike (`Driver.Agrees`).

This is a comparison of runs from the same state and in the same world (`Host.Copying`), in which
programs mirror each other (`Driver.Agrees.mirroring`). `Program.Mirrors` has one rule for each kind
of request. The rule for a nested step (`Mirrors.run`) asks for
continuations that mirror each other from the same outcome. So an exception that is thrown by a call
and one that is thrown into the step that waited for the call need not be told apart: both are the
settled answer that the step goes on from.

Twins are related by every comparison that hides nothing and takes exchanged code for alike
(`Host.Comparison.relates_of_twin`).
-/

namespace Walkthrough

variable {H : Host} {calls : H.Caller} {swaps : H.Exchange} {α β : Type}

namespace Outcome

/-- The outcome under a host with other sessions. -/
def recast (calls : H.Caller) : Outcome H α → Outcome (H.answeringWith calls) α
  | success a s h => success a s h
  | faulted a s h => faulted a s h

@[simp] theorem state_recast (o : Outcome H α) : (o.recast calls).state = o.state := by
  cases o <;> rfl

@[simp] theorem value?_recast (o : Outcome H α) : (o.recast calls).value? = o.value? := by
  cases o <;> rfl

theorem recast_of (a : α) (s : H.State) :
    (of a s : Outcome H α).recast calls = (of a s : Outcome (H.answeringWith calls) α) := by
  unfold of
  split <;> rfl

theorem recast_map (f : α → β) (o : Outcome H α) :
    (o.map f).recast calls = (o.recast calls).map f := by
  cases o <;> rfl

/-- An outcome is compared with itself. -/
theorem compares_recast (o : Outcome H α) : o.Compares Eq (o.recast calls) := by
  cases o with
  | success a s h => exact .success a h h rfl
  | faulted a s h => exact .faulted a h h rfl

theorem Compares.eq_recast {o : Outcome H α} {o' : Outcome (H.answeringWith calls) α}
    (h : o.Compares Eq o') : o' = o.recast calls := by
  cases h with
  | success a h h' hs =>
    subst hs
    rfl
  | faulted a h h' hs =>
    subst hs
    rfl

end Outcome

/-- Two drivers pause alike and settle exchanged code alike. -/
structure Driver.Agrees (swaps : H.Exchange) (d : Driver H) (d' : Driver (H.answeringWith calls)) :
    Prop where
  sleep : ∀ t w, d'.sleep t w = d.sleep t w
  code : ∀ {β : Type} {code code' : Act H.World (Reply H.World β)}, swaps β code code' →
    ∀ w, d'.answer code' w = d.answer code w
  call : ∀ {β : Type} (handle : H.Session) (command : Command H.Element H.Datum β) (w : H.World),
    d'.answer (calls β handle command) w = d.answer (H.call handle command) w

/-- The programs end with the same outcome and world, and the same is seen of them. -/
structure Program.Mirrors (d : Driver H) (d' : Driver (H.answeringWith calls)) (start : H.State)
    (p : Program H α) (p' : Program (H.answeringWith calls) α) : Prop where
  outcome : (p'.history d' start).outcome = (p.history d start).outcome.recast calls
  world : (p'.history d' start).world = (p.history d start).world
  sightings : (p'.history d' start).sightings = (p.history d start).sightings

/-- From every state, the flows end alike and the same is seen of them. -/
def Flow.Mirrors (d : Driver H) (d' : Driver (H.answeringWith calls)) (c : Flow H α)
    (c' : Flow (H.answeringWith calls) α) : Prop :=
  ∀ env s w, (c env s w).Mirrors d d' s (c' env s w)

variable {d : Driver H} {d' : Driver (H.answeringWith calls)}

/-! ## Programs -/

namespace Program.Mirrors

variable {start : H.State}

theorem finish {o : Outcome H α} {o' : Outcome (H.answeringWith calls) α}
    (h : o' = o.recast calls) (w : H.World) :
    (Program.finish o w).Mirrors d d' start (.finish o' w) := ⟨h, rfl, rfl⟩

theorem raise (e : Thrown) (w : H.World) :
    (Program.raise e w : Program H α).Mirrors d d' start (.raise e w) := ⟨rfl, rfl, rfl⟩

/-- Earlier events that look the same leave programs that mirror each other as they are. -/
theorem of_after {p q : Program H α} {p' q' : Program (H.answeringWith calls) α}
    {es : List (Event H)} {es' : List (Event (H.answeringWith calls))}
    (hp : p.history d start = (q.history d start).after es)
    (hp' : p'.history d' start = (q'.history d' start).after es')
    (hseen : es'.flatMap Event.sightings = es.flatMap Event.sightings)
    (h : q.Mirrors d d' start q') : p.Mirrors d d' start p' := by
  refine ⟨?_, ?_, ?_⟩
  · rw [hp, hp', History.outcome_after, History.outcome_after]
    exact h.outcome
  · rw [hp, hp', History.world_after, History.world_after]
    exact h.world
  · rw [hp, hp', History.sightings_after, History.sightings_after, hseen, h.sightings]

/-- The outer programs go on from the same outcome of the nested steps. -/
theorem run {c : Flow H β} {c' : Flow (H.answeringWith calls) β} {env : H.Env} {s : H.State}
    {w : H.World} {next : Outcome H β → H.World → Program H α}
    {next' : Outcome (H.answeringWith calls) β → H.World → Program (H.answeringWith calls) α}
    (hc : c.Mirrors d d' c')
    (hnext : ∀ o w, (next o w).Mirrors d d' start (next' (o.recast calls) w)) :
    (Program.run c env s w next).Mirrors d d' start (.run c' env s w next') := by
  obtain ⟨houtcome, hworld, hsightings⟩ := hc env s w
  let inner := (c env s w).history d s
  let inner' := (c' env s w).history d' s
  have hinner : inner'.events.flatMap Event.sightings = inner.events.flatMap Event.sightings :=
    hsightings
  have hrest : (Program.run c' env s w next').history d' start =
      ((next' (inner.outcome.recast calls) inner.world).history d' start).after
        (.started s :: inner'.events ++ [.ended inner'.outcome]) := by
    rw [← houtcome, ← hworld]
    rfl
  refine of_after rfl hrest ?_ (hnext _ _)
  -- the events of a step are seen, its start and its end are not
  simp only [List.flatMap_append, List.flatMap_cons, List.flatMap_nil, Event.sightings, hinner]
  rfl

/-- Something that both hosts do alike. -/
theorem effect {e : Effect H β} {e' : Effect (H.answeringWith calls) β} {w : H.World}
    {next : Except Thrown β → H.World → Program H α}
    {next' : Except Thrown β → H.World → Program (H.answeringWith calls) α}
    (hperform : (H.answeringWith calls).perform e' w = H.perform e w)
    (hseen : ∀ r, e'.sightings r = e.sightings r)
    (hnext : ∀ r w, (next r w).Mirrors d d' start (next' r w)) :
    (Program.effect e w next).Mirrors d d' start (.effect e' w next') := by
  have hrest : (Program.effect e' w next').history d' start =
      ((next' (H.perform e w).1 (H.perform e w).2).history d' start).after
        [.did e' (H.perform e w).1] := by
    rw [← hperform]
    rfl
  refine of_after rfl hrest ?_ (hnext _ _)
  simp only [List.flatMap_cons, List.flatMap_nil, Event.sightings, hseen]

/-- A complaint is never refused. -/
theorem complain {severity : Severity} {message : String} {w : H.World}
    {next : Except Thrown Unit → H.World → Program H α}
    {next' : Except Thrown Unit → H.World → Program (H.answeringWith calls) α}
    (hnext : ∀ w, (next (.ok ()) w).Mirrors d d' start (next' (.ok ()) w)) :
    (Program.effect (.complain severity message) w next).Mirrors d d' start
      (.effect (.complain severity message) w next') :=
  of_after rfl rfl rfl (hnext _)

theorem sleep (hd : d.Agrees swaps d') {t : Rat} {w : H.World}
    {next : Except Thrown Unit → H.World → Program H α}
    {next' : Except Thrown Unit → H.World → Program (H.answeringWith calls) α}
    (hnext : ∀ r w, (next r w).Mirrors d d' start (next' r w)) :
    (Program.sleep t w next).Mirrors d d' start (.sleep t w next') := by
  have hrest : (Program.sleep t w next' : Program (H.answeringWith calls) α).history d' start =
      ((next' (d.sleep t w).1 (d.sleep t w).2).history d' start).after [.slept t] := by
    rw [← hd.sleep]
    rfl
  exact of_after rfl hrest rfl (hnext _ _)

/-- Calls that leave the run and are settled alike. -/
theorem outside {e : Effect H (Reply H.World β)}
    {e' : Effect (H.answeringWith calls) (Reply H.World β)} {request : H.Sighting}
    (he : ∀ r, e.sightings r = request :: Reply.sightings r)
    (he' : ∀ r, e'.sightings r = request :: Reply.sightings r) {w : H.World}
    (hanswer : d'.answer ((H.answeringWith calls).perform e') w = d.answer (H.perform e) w)
    {next : Except Thrown β → H.World → Program H α}
    {next' : Except Thrown β → H.World → Program (H.answeringWith calls) α}
    (hnext : ∀ r w, (next r w).Mirrors d d' start (next' r w)) :
    (Program.outside e w next).Mirrors d d' start (.outside e' w next') := by
  have hrest := hnext (d.answer (H.perform e) w).1 (d.answer (H.perform e) w).2
  obtain ⟨houtcome, hworld, hsightings⟩ := answer_outside d he w next start
  obtain ⟨houtcome', hworld', hsightings'⟩ := answer_outside d' he' w next' start
  rw [hanswer] at houtcome' hworld' hsightings'
  refine ⟨?_, ?_, ?_⟩
  · rw [houtcome', houtcome]
    exact hrest.outcome
  · rw [hworld', hworld]
    exact hrest.world
  · rw [hsightings', hsightings, hrest.sightings]

/-- Outside code and code that may be exchanged for it. -/
theorem code (hd : d.Agrees swaps d') {a a' : Act H.World (Reply H.World β)} (h : swaps β a a')
    {w : H.World} {next : Except Thrown β → H.World → Program H α}
    {next' : Except Thrown β → H.World → Program (H.answeringWith calls) α}
    (hnext : ∀ r w, (next r w).Mirrors d d' start (next' r w)) :
    (Program.outside (.code a) w next).Mirrors d d' start (.outside (.code a') w next') :=
  outside (fun _ => rfl) (fun _ => rfl) (hd.code h w) hnext

/-- The sessions behind one handle. -/
theorem call (hd : d.Agrees swaps d') {handle : H.Session}
    {command : Command H.Element H.Datum β} {w : H.World}
    {next : Except Thrown β → H.World → Program H α}
    {next' : Except Thrown β → H.World → Program (H.answeringWith calls) α}
    (hnext : ∀ r w, (next r w).Mirrors d d' start (next' r w)) :
    (Program.outside (.call handle command) w next).Mirrors d d' start
      (.outside (.call handle command) w next') :=
  outside (fun _ => rfl) (fun _ => rfl) (hd.call handle command w) hnext

theorem announce {s : H.State} {node : Log} {w : H.World} {next : H.World → Program H α}
    {next' : H.World → Program (H.answeringWith calls) α}
    (hnext : ∀ w, (next w).Mirrors d d' start (next' w)) :
    (Flow.announce s node w next).Mirrors d d' start (Flow.announce s node w next') := by
  unfold Flow.announce
  split
  · exact hnext w
  · refine effect rfl (fun _ => rfl) fun r w' => ?_
    cases r with
    | error e => exact raise e w'
    | ok u =>
      refine effect rfl (fun _ => rfl) fun r w'' => ?_
      cases r with
      | error e => exact raise e w''
      | ok u => exact hnext w''

/-- Changing the values that programs end with changes nothing else. -/
theorem map {p : Program H α} {p' : Program (H.answeringWith calls) α} (f : α → β)
    (h : p.Mirrors d d' start p') : (p.map f).Mirrors d d' start (p'.map f) := by
  refine ⟨?_, ?_, ?_⟩
  · rw [history_map, history_map]
    show (Outcome.map f _) = (Outcome.map f _).recast calls
    rw [h.outcome, Outcome.recast_map]
  · rw [history_map, history_map]
    exact h.world
  · rw [history_map, history_map]
    exact h.sightings

end Program.Mirrors

/-- Code that leaves a run is exchanged for other code, or a session is asked the same. -/
inductive Effect.Exchanged (swaps : H.Exchange) : {β : Type} → Effect H (Reply H.World β) →
    Effect (H.answeringWith calls) (Reply H.World β) → Prop where
  | code {β : Type} {a a' : Act H.World (Reply H.World β)} (h : swaps β a a') :
      Exchanged swaps (.code a) (.code a')
  | call {β : Type} (handle : H.Session) (command : Command H.Element H.Datum β) :
      Exchanged swaps (.call handle command) (.call handle command)

/-! ## Comparisons of copies -/

/-- A comparison of programs that are run from the same state and in the same world. -/
structure Host.Copying (H : Host) (calls : H.Caller) where
  asks : {β : Type} → Effect H (Reply H.World β) →
    Effect (H.answeringWith calls) (Reply H.World β) → Prop
  /-- The programs, whose steps were started from this state. -/
  programs : {α : Type} → H.State → Program H α → Program (H.answeringWith calls) α → Prop
  finish : ∀ {α : Type} {start} (o : Outcome H α) (w),
    programs start (.finish o w) (.finish (o.recast calls) w)
  raise : ∀ {α : Type} {start} (e : Thrown) (w),
    programs start (.raise e w : Program H α) (.raise e w)
  run : ∀ {α β : Type} {start env s w} {c : Flow H β} {c' : Flow (H.answeringWith calls) β}
    {next : Outcome H β → H.World → Program H α}
    {next' : Outcome (H.answeringWith calls) β → H.World → Program (H.answeringWith calls) α},
    (∀ env s w, programs s (c env s w) (c' env s w)) →
    (∀ o v, programs start (next o v) (next' (o.recast calls) v)) →
    programs start (.run c env s w next) (.run c' env s w next')
  complain : ∀ {α : Type} {start w} {severity : Severity} {message : String}
    {next : Except Thrown Unit → H.World → Program H α}
    {next' : Except Thrown Unit → H.World → Program (H.answeringWith calls) α},
    (∀ r v, programs start (next r v) (next' r v)) →
    programs start (.effect (.complain severity message) w next)
      (.effect (.complain severity message) w next')
  sleep : ∀ {α : Type} {start w} {t : Rat} {next : Except Thrown Unit → H.World → Program H α}
    {next' : Except Thrown Unit → H.World → Program (H.answeringWith calls) α},
    (∀ r v, programs start (next r v) (next' r v)) →
    programs start (.sleep t w next) (.sleep t w next')
  outside : ∀ {α β : Type} {start w} {e : Effect H (Reply H.World β)}
    {e' : Effect (H.answeringWith calls) (Reply H.World β)}
    {next : Except Thrown β → H.World → Program H α}
    {next' : Except Thrown β → H.World → Program (H.answeringWith calls) α}, asks e e' →
    (∀ r v, programs start (next r v) (next' r v)) →
    programs start (.outside e w next) (.outside e' w next')
  announce : ∀ {α : Type} {start s w} {node : Log} {next : H.World → Program H α}
    {next' : H.World → Program (H.answeringWith calls) α},
    (∀ v, programs start (next v) (next' v)) →
    programs start (Flow.announce s node w next) (Flow.announce s node w next')
  map : ∀ {α β : Type} {start} {p : Program H α} {p' : Program (H.answeringWith calls) α}
    (f : α → β), programs start p p' → programs start (p.map f) (p'.map f)

/-- Copies are compared from states that are the same, with the world in full view. -/
def Host.Copying.comparison (copying : H.Copying calls) : H.Comparison calls H.World where
  Side := Unit
  seen := id
  states _ := Eq
  asks := copying.asks
  programs _ start _ p p' := copying.programs start p p'
  now hw := congrArg H.now hw
  unmuted hs := congrArg (·.withMuted true) hs
  change _ hs := congrArg _ hs
  finish ho hw := by
    obtain rfl : _ = _ := hw
    rw [ho.eq_recast]
    exact copying.finish _ _
  raise e _ hw := by
    obtain rfl : _ = _ := hw
    exact copying.raise e _
  run hc hs hw hnext := by
    obtain rfl : _ = _ := hw
    subst hs
    exact copying.run (fun env s w => hc () env s s w w rfl rfl) fun o v =>
      hnext o.compares_recast rfl
  complain hw hnext := by
    obtain rfl : _ = _ := hw
    exact copying.complain fun r v => hnext rfl
  sleep hw hnext := by
    obtain rfl : _ = _ := hw
    exact copying.sleep fun r v => hnext (.refl id (r, v))
  outside he hw hnext := by
    obtain rfl : _ = _ := hw
    exact copying.outside he fun r v => hnext (.refl id (r, v))
  announce _ hs hnode hw hnext := by
    obtain rfl : _ = _ := hw
    subst hs hnode
    exact copying.announce fun v => hnext rfl
  map f h := copying.map f h

/-- Under drivers that agree, programs are alike when they mirror each other. -/
def Driver.Agrees.mirroring (hd : d.Agrees swaps d') : H.Copying calls where
  asks := Effect.Exchanged swaps
  programs start p p' := p.Mirrors d d' start p'
  finish _ w := .finish rfl w
  raise := .raise
  run := .run
  complain hnext := .complain fun w => hnext _ w
  sleep := .sleep hd
  outside he hnext := by
    cases he with
    | code h => exact .code hd h hnext
    | call handle command => exact .call hd hnext
  announce := .announce
  map := .map

/-! ## Twins -/

namespace Alike

variable {Seen : Type} {World : Type} {γ γ' : Type _} {R : γ → γ' → Prop}

theorem coincide (seen : World → Seen) {x : Except Thrown γ × World}
    {x' : Except Thrown γ' × World} (h : Alike R x x') : Coincide seen R x x' := by
  cases h with
  | threw e w => exact .threw e rfl
  | gave ha w => exact .gave ha rfl

end Alike

namespace Host.Comparison

/-- Nothing is hidden from the comparison, and it takes exchanged code for alike. -/
structure Admits {Seen : Type} (cmp : H.Comparison calls Seen) (swaps : H.Exchange) : Prop where
  same : cmp.Exact
  hidden : Function.Injective cmp.seen
  asks : ∀ {β : Type} {e : Effect H (Reply H.World β)}
    {e' : Effect (H.answeringWith calls) (Reply H.World β)}, e.Exchanged swaps e' → cmp.asks e e'

/-- A comparison of copies hides nothing. -/
theorem admits_copying {copying : H.Copying calls}
    (asks : ∀ {β : Type} {e : Effect H (Reply H.World β)}
      {e' : Effect (H.answeringWith calls) (Reply H.World β)},
      e.Exchanged swaps e' → copying.asks e e') : copying.comparison.Admits swaps :=
  ⟨fun _ _ _ => Iff.rfl, fun _ _ h => h, asks⟩

variable {Seen : Type} {cmp : H.Comparison calls Seen}

/-- Bodies that are alike are related when the flows that they hand out are. -/
theorem bodies_of_alike (hidden : Function.Injective cmp.seen)
    {R : Flow.Pairing H (H.answeringWith calls)} {b : Body H α}
    {b' : Body (H.answeringWith calls) α} (h : b.Alike R b')
    (hR : ∀ {γ : Type} (c : Flow H γ) c', R γ c c' → cmp.Relates c c') : cmp.Bodies b b' := by
  induction h with
  | returned a w => exact .returned a rfl
  | threw e w => exact .threw e rfl
  | strays shown w close => exact .strays shown rfl (Act.blind_of_injective hidden close)
  | handsOut hc w close hresume ih =>
    refine .handsOut (hR _ _ hc) rfl (Act.blind_of_injective hidden close) fun a v v' hv => ?_
    obtain rfl := hidden hv
    exact ih a v

/-- By induction on how the twins are built, with one case for each combinator. -/
theorem relates_of_twin (admits : cmp.Admits swaps) {c : Flow H α}
    {c' : Flow (H.answeringWith calls) α} (h : Flow.Twin calls swaps c c') : cmp.Relates c c' := by
  have blind : ∀ {γ : Type} (code : Act H.World γ), code.Blind cmp.seen :=
    fun code => Act.blind_of_injective admits.hidden code
  induction h with
  | pure a => exact .pure a
  | failure f fs => exact .failure f fs
  | throwing e => exact .throwing e
  | bind hR hc hf ihR ih =>
    exact .bind ih fun a => Act.coincides_of_injective admits.hidden fun w =>
      ((hf a w).imp ihR).coincide cmp.seen
  | map f hc ih => exact .map (fun a => blind (f a)) ih
  | orElseWith hR hc hf ihR ih =>
    exact .orElseWith ih fun fs => Act.coincides_of_injective admits.hidden fun w =>
      ((hf fs w).imp ihR).coincide cmp.seen
  | bimap onSuccess onFailure hc ih =>
    exact .bimap (fun _ => blind _) (fun _ => blind _) ih
  | retype f hc ih => exact .retype f ih
  | getState => exact .getState admits.same
  | liftState f => exact .liftStateWith admits.same fun _ => blind _
  | putState t => exact .putState admits.same t
  | modifyState f => exact .modifyStateWith admits.same fun _ => blind _
  | ask => exact .ask
  | «local» f hc ih => exact .local (fun _ => blind _) ih
  | initConfig configuration => exact .modifyState fun _ _ => rfl
  | initSettings settings => exact .modifyState fun _ _ => rfl
  | defaultWait => exact .liftState fun _ _ => rfl
  | defaultInterval => exact .liftState fun _ _ => rfl
  | lift h => exact .lift (admits.asks (.code h))
  | write kind message => exact .write kind message
  | context label hc ih => exact .context label ih
  | mute hc ih => exact .mute admits.same ih
  | config key => exact .config key
  | tryCall h label => exact .tryEffect (admits.asks (.code h)) fun _ => blind _
  | tryAsk handle command label =>
    exact .tryEffect (admits.asks (.call handle command)) fun _ => blind _
  | sequence h ih => exact .sequence ih
  | collect h ih => exact .collect ih
  | use resource hR hrelease hf ihR =>
    exact .use resource (admits.asks (.code hrelease))
      (Act.coincides_of_injective admits.hidden fun w => ((hf w).imp ihR).coincide cmp.seen)
  | session => exact .session
  | withSession handle hc ih => exact .withSession handle (admits.asks (.call handle .quit)) ih
  | stopwatch hc ih => exact .stopwatch ih
  | pause interval => exact .pause interval
  | waitUntil hc watch interval wait ih =>
    exact .waitUntil ih (watch.blind_of_injective admits.hidden) interval wait
  | waitUntilSucceeds hc interval wait label ih => exact .waitUntilSucceeds ih interval wait label
  | doWhile hc continueIf maxRepeats ih => exact .doWhile ih (fun _ => blind _) maxRepeats
  | doWhileOrFail hc continueIf maxAttempts interval message ih =>
    exact .doWhileOrFail ih (fun _ => blind _) maxAttempts interval message
  | ofRecipe hR h ihR =>
    refine .ofRecipe fun {w w'} hw => ?_
    obtain rfl := admits.hidden hw
    obtain ⟨e, v, hmade, hmade'⟩ | ⟨r, r', v, hr, hmade, hmade'⟩ := (h w).threw_or_gave
    · rw [hmade, hmade']
      exact .threw e rfl
    · rw [hmade, hmade']
      cases hr with
      | value a => exact .value a rfl
      | flow hc => exact .flow (ihR _ _ hc) rfl
      | body hb => exact .body (bodies_of_alike admits.hidden (hb v) ihR)

end Host.Comparison

namespace Flow

/-- Twins mirror each other under drivers that agree. -/
theorem mirrors_of_twin (hd : d.Agrees swaps d') {c : Flow H α}
    {c' : Flow (H.answeringWith calls) α} (h : Twin calls swaps c c') : c.Mirrors d d' c' := by
  have admits : hd.mirroring.comparison.Admits swaps := Host.Comparison.admits_copying fun h => h
  intro env s w
  exact Host.Comparison.relates_of_twin admits h () env s s w w rfl rfl

end Flow

end Walkthrough
