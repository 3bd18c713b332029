import Walkthrough.Proofs.Run.Coincide
import Walkthrough.Proofs.Twin.Basic

/-!
# Comparing runs

Two flows that are built in the same way make programs that ask for the same things in the same
order, and go on alike from like answers. What is concluded from that differs: the two runs look the
same, or they differ in what the sinks hear, or one program is a copy of the other. A
`Host.Comparison` is such a conclusion. It says which states, worlds and outside calls count as
alike and which programs do, with one rule for each kind of request.

`Comparison.Relates` is the conclusion about flows: from like states and in like worlds, they make
like programs. There is one lemma for each combinator, and it serves every comparison. The induction
over pairs of flows that are built alike is then one line for each combinator, and no comparison
opens a combinator again.

The states that are compared may differ in whether they are muted and in nothing else. The
combinators that read or replace the whole state are compared only where like states are the same
(`Comparison.Exact`).
-/

namespace Walkthrough

variable {H : Host} {calls : H.Caller} {Seen : Type} {α β : Type}

/-! ## Outcomes -/

/-- The outcomes are the same but for the states that are left, and these are related. -/
inductive Outcome.Compares (R : H.State → H.State → Prop) :
    Outcome H α → Outcome (H.answeringWith calls) α → Prop where
  | success (a : α) {s s' : H.State} (h : s.failures = []) (h' : s'.failures = [])
      (hs : R s s') : Compares R (.success a s h) (.success a s' h')
  | faulted (a : Option α) {s s' : H.State} (h : s.failures ≠ []) (h' : s'.failures ≠ [])
      (hs : R s s') : Compares R (.faulted a s h) (.faulted a s' h')

namespace Outcome.Compares

variable {R R' : H.State → H.State → Prop} {o : Outcome H α}
  {o' : Outcome (H.answeringWith calls) α}

/-- Outcomes that compare leave states that do. -/
theorem state (h : o.Compares R o') : R o.state o'.state := by
  cases h with
  | success a h h' hs => exact hs
  | faulted a h h' hs => exact hs

/-- The same value, in states with the same failures. -/
theorem of {s s' : H.State} (a : α) (hfailures : s.failures = s'.failures) (hs : R s s') :
    (Outcome.of a s).Compares R (Outcome.of a s' : Outcome (H.answeringWith calls) α) := by
  unfold Outcome.of
  by_cases h : s.failures = []
  · have h' : s'.failures = [] := hfailures ▸ h
    rw [dif_pos h, dif_pos h']
    exact .success a h h' hs
  · have h' : s'.failures ≠ [] := hfailures ▸ h
    rw [dif_neg h, dif_neg h']
    exact .faulted (some a) h h' hs

/-- A change that keeps the comparison may be made on both sides. -/
theorem update (h : o.Compares R o') {f f' : H.State → H.State}
    {hf : ∀ s, (f s).failures = [] ↔ s.failures = []}
    {hf' : ∀ s, (f' s).failures = [] ↔ s.failures = []}
    (hupdate : ∀ {s s'}, R s s' → R' (f s) (f' s')) :
    (o.update f hf).Compares R' (o'.update f' hf') := by
  cases h with
  | success a h h' hs => exact .success a _ _ (hupdate hs)
  | faulted a h h' hs => exact .faulted a _ _ (hupdate hs)

/-- The value may be changed on both sides. -/
theorem map (h : o.Compares R o') (f : α → β) : (o.map f).Compares R (o'.map f) := by
  cases h with
  | success a h h' hs => exact .success _ _ _ hs
  | faulted a h h' hs => exact .faulted _ _ _ hs

end Outcome.Compares

/-! ## Comparisons -/

/-- The function changes a state without looking at whether it is muted, and leaves that as it
is. -/
def Host.Unmuting (f : H.State → H.State) : Prop := ∀ t b, f (t.withMuted b) = (f t).withMuted b

/-- Which states, worlds, calls and programs count as alike, with a rule for each kind of request.
`Side` tells apart in which ways two runs may differ while they last. -/
structure Host.Comparison (H : Host) (calls : H.Caller) (Seen : Type) where
  Side : Type
  seen : H.World → Seen
  states : Side → H.State → H.State → Prop
  asks : {β : Type} → Effect H (Reply H.World β) →
    Effect (H.answeringWith calls) (Reply H.World β) → Prop
  /-- The programs, whose steps were started from these states. -/
  programs : {α : Type} → Side → H.State → H.State → Program H α →
    Program (H.answeringWith calls) α → Prop
  now : ∀ {w w'}, seen w = seen w' → H.now w = H.now w'
  unmuted : ∀ {i s s'}, states i s s' → s.withMuted true = s'.withMuted true
  change : ∀ {i s s' f}, H.Unmuting f → states i s s' → states i (f s) (f s')
  finish : ∀ {α : Type} {i start start' w w'} {o : Outcome H α}
    {o' : Outcome (H.answeringWith calls) α}, o.Compares (states i) o' → seen w = seen w' →
    programs i start start' (.finish o w) (.finish o' w')
  raise : ∀ {α : Type} {i start start' w w'} (e : Thrown), states i start start' →
    seen w = seen w' →
    programs i start start' (.raise e w : Program H α) (.raise e w')
  run : ∀ {α β : Type} {i start start' s s' env w w'} {c : Flow H β}
    {c' : Flow (H.answeringWith calls) β} {next : Outcome H β → H.World → Program H α}
    {next' : Outcome (H.answeringWith calls) β → H.World → Program (H.answeringWith calls) α},
    (∀ i env s s' w w', states i s s' → seen w = seen w' →
      programs i s s' (c env s w) (c' env s' w')) →
    states i s s' → seen w = seen w' →
    (∀ {o o' v v'}, o.Compares (states i) o' → seen v = seen v' →
      programs i start start' (next o v) (next' o' v')) →
    programs i start start' (.run c env s w next) (.run c' env s' w' next')
  complain : ∀ {α : Type} {i start start' w w'} {severity : Severity} {message : String}
    {next : Except Thrown Unit → H.World → Program H α}
    {next' : Except Thrown Unit → H.World → Program (H.answeringWith calls) α},
    seen w = seen w' →
    (∀ {r v v'}, seen v = seen v' → programs i start start' (next r v) (next' r v')) →
    programs i start start' (.effect (.complain severity message) w next)
      (.effect (.complain severity message) w' next')
  sleep : ∀ {α : Type} {i start start' w w'} {t : Rat}
    {next : Except Thrown Unit → H.World → Program H α}
    {next' : Except Thrown Unit → H.World → Program (H.answeringWith calls) α},
    seen w = seen w' →
    (∀ {x x'}, Coincide seen Eq x x' →
      programs i start start' (next x.1 x.2) (next' x'.1 x'.2)) →
    programs i start start' (.sleep t w next) (.sleep t w' next')
  outside : ∀ {α β : Type} {i start start' w w'} {e : Effect H (Reply H.World β)}
    {e' : Effect (H.answeringWith calls) (Reply H.World β)}
    {next : Except Thrown β → H.World → Program H α}
    {next' : Except Thrown β → H.World → Program (H.answeringWith calls) α},
    asks e e' → seen w = seen w' →
    (∀ {x x'}, Coincide seen Eq x x' →
      programs i start start' (next x.1 x.2) (next' x'.1 x'.2)) →
    programs i start start' (.outside e w next) (.outside e' w' next')
  announce : ∀ {α : Type} {i start start' s s' w w'} {node node' : Log}
    {next : H.World → Program H α} {next' : H.World → Program (H.answeringWith calls) α},
    states i start start' → states i s s' → node = node' → seen w = seen w' →
    (∀ {v v'}, seen v = seen v' → programs i start start' (next v) (next' v')) →
    programs i start start' (Flow.announce s node w next) (Flow.announce s' node' w' next')
  map : ∀ {α β : Type} {i start start'} {p : Program H α}
    {p' : Program (H.answeringWith calls) α} (f : α → β), programs i start start' p p' →
    programs i start start' (p.map f) (p'.map f)

namespace Host.Comparison

variable {cmp : H.Comparison calls Seen}

/-- From like states and in like worlds, the flows make like programs. -/
def Relates (cmp : H.Comparison calls Seen) (c : Flow H α)
    (c' : Flow (H.answeringWith calls) α) : Prop :=
  ∀ i env s s' w w', cmp.states i s s' → cmp.seen w = cmp.seen w' →
    cmp.programs i s s' (c env s w) (c' env s' w')

/-- Like states are the same. -/
def Exact (cmp : H.Comparison calls Seen) : Prop := ∀ i s s', cmp.states i s s' ↔ s = s'

/-! ### States -/

section

variable {i : cmp.Side} {s s' t t' : H.State}

/-- What does not depend on whether a state is muted is the same in like states. -/
theorem reads (hs : cmp.states i s s') {γ : Type} (f : H.State → γ)
    (hf : ∀ t b, f (t.withMuted b) = f t) : f s = f s' := by
  rw [← hf s true, ← hf s' true, cmp.unmuted hs]

/-- States that compare have the same failures, so both runs are faulted or neither is. -/
theorem failures (hs : cmp.states i s s') : s.failures = s'.failures :=
  reads hs RunState.failures fun _ _ => rfl

/-- Both sides are faulted alike. -/
theorem fault (hs : cmp.states i s s') (f : Failure) (fs : List Failure) :
    (Outcome.fault s f fs : Outcome H α).Compares (cmp.states i)
      (Outcome.fault s' f fs : Outcome (H.answeringWith calls) α) :=
  .faulted none _ _ (cmp.change (f := (·.addFailures (f :: fs))) (fun _ _ => rfl) hs)

/-- A scope is left to like states. -/
theorem leave (hs : cmp.states i s s') (label : String) (ht : cmp.states i t t') :
    cmp.states i (s.leave label t) (s'.leave label t') := by
  have hscope : s'.leave label t' = s.leave label t' :=
    (reads hs (·.leave label t') fun _ _ => rfl).symm
  rw [hscope]
  exact cmp.change (f := s.leave label) (fun _ _ => rfl) ht

/-- The session that was there before is given back on both sides. -/
theorem giveBack (hs : cmp.states i s s') (ht : cmp.states i t t') :
    cmp.states i (t.withSession s.session) (t'.withSession s'.session) := by
  rw [← reads hs RunState.session fun _ _ => rfl]
  exact cmp.change (f := (·.withSession s.session)) (fun _ _ => rfl) ht

end

/-! ### Programs -/

section

variable {i : cmp.Side} {start start' s s' : H.State} {w w' : H.World}

theorem value (a : α) (hs : cmp.states i s s') (hw : cmp.seen w = cmp.seen w') :
    cmp.programs i start start' (.finish (.of a s) w) (.finish (.of a s') w') :=
  cmp.finish (.of a (failures hs) hs) hw

/-- The steps that take the places of these compare when their flows do. -/
theorem endWith {c : Flow H α} {c' : Flow (H.answeringWith calls) α} {env : H.Env}
    (hc : cmp.Relates c c') (hs : cmp.states i s s') (hw : cmp.seen w = cmp.seen w') :
    cmp.programs i start start' (c.endWith env s w) (c'.endWith env s' w') :=
  cmp.run hc hs hw fun ho hv => cmp.finish ho hv

/-- Code that coincides makes flows that compare, or throws the same. -/
theorem endWithMade {made : Except Thrown (Flow H α) × H.World}
    {made' : Except Thrown (Flow (H.answeringWith calls) α) × H.World} {env : H.Env}
    (hstart : cmp.states i start start') (hs : cmp.states i s s')
    (h : Coincide cmp.seen cmp.Relates made made') :
    cmp.programs i start start' (Flow.endWithMade made env s)
      (Flow.endWithMade made' env s') := by
  cases h with
  | threw e hv => exact cmp.raise e hstart hv
  | gave hc hv => exact endWith hc hs hv

/-- Code that coincides gives the same value, or throws the same. -/
theorem endWithValue {given given' : Except Thrown α × H.World}
    (hstart : cmp.states i start start') (hs : cmp.states i s s')
    (h : Coincide cmp.seen Eq given given') :
    cmp.programs i start start' (Flow.endWithValue given s) (Flow.endWithValue given' s') := by
  cases h with
  | threw e hv => exact cmp.raise e hstart hv
  | gave ha hv =>
    rw [ha]
    exact value _ hs hv

/-- Closing code that coincides closes both sides alike. -/
theorem closeWith {close close' : Act H.World Unit}
    (hclose : close.Coincides cmp.seen Eq close') {o : Outcome H α}
    {o' : Outcome (H.answeringWith calls) α} (hstart : cmp.states i start start')
    (ho : o.Compares (cmp.states i) o') (hw : cmp.seen w = cmp.seen w') :
    cmp.programs i start start' (Flow.closeWith close o w) (Flow.closeWith close' o' w') := by
  have hclosed := hclose w w' hw
  unfold Flow.closeWith
  generalize close w = x at hclosed
  generalize close' w' = x' at hclosed
  cases hclosed with
  | threw e hv => exact cmp.raise e hstart hv
  | gave _ hv => exact cmp.finish ho hv

end

/-! ## Combinators -/

namespace Relates

variable {c : Flow H α} {c' : Flow (H.answeringWith calls) α}

theorem pure (a : α) : cmp.Relates (Flow.pure a) (Flow.pure a) :=
  fun _ _ _ _ _ _ hs hw => value a hs hw

theorem failure (f : Failure) (fs : List Failure) :
    cmp.Relates (Flow.failure f fs : Flow H α) (Flow.failure f fs) :=
  fun _ _ _ _ _ _ hs hw => cmp.finish (fault hs f fs) hw

theorem throwing (e : Thrown) : cmp.Relates (Flow.throwing e : Flow H α) (Flow.throwing e) :=
  fun _ _ _ _ _ _ hs hw => cmp.raise e hs hw

/-- The line is announced on both sides, or on one side only where the comparison is of muted runs;
the states go on comparing. -/
theorem write (kind : LogKind) (message : String) :
    cmp.Relates (Flow.write kind message) (Flow.write kind message) := by
  intro i env s s' w w' hs hw
  have hline := reads hs (·.line kind message) fun _ _ => rfl
  have hwritten := cmp.change (f := (·.withLine kind message)) (fun _ _ => rfl) hs
  exact cmp.announce hs hs hline hw fun hv => value () hwritten hv

/-- The functions need only coincide: they make flows that compare, or throw the same. -/
theorem bind {f : α → Act H.World (Flow H β)}
    {f' : α → Act H.World (Flow (H.answeringWith calls) β)} (hc : cmp.Relates c c')
    (hf : ∀ a, (f a).Coincides cmp.seen cmp.Relates (f' a)) :
    cmp.Relates (c.bind f) (c'.bind f') := by
  intro i env s s' w w' hs hw
  refine cmp.run hc hs hw fun ho hv => ?_
  cases ho with
  | faulted a h h' ht => exact cmp.finish (.faulted none h h' ht) hv
  | success a h h' ht => exact endWithMade hs ht (hf a _ _ hv)

theorem andThen {e : Flow H β} {e' : Flow (H.answeringWith calls) β} (hc : cmp.Relates c c')
    (he : cmp.Relates e e') : cmp.Relates (c.andThen e) (c'.andThen e') :=
  bind hc fun _ _ _ hw => .gave he hw

theorem fail (f : Failure) : cmp.Relates (Flow.fail f : Flow H α) (Flow.fail f) :=
  andThen (write .error f.message) (failure f [])

/-- The function sees the same on both sides, and must not look at what is hidden. -/
theorem map {f : α → Act H.World β} (hf : ∀ a, (f a).Blind cmp.seen) (hc : cmp.Relates c c') :
    cmp.Relates (c.map f) (c'.map f) := by
  intro i env s s' w w' hs hw
  refine cmp.run hc hs hw fun ho hv => ?_
  cases ho with
  | faulted a h h' ht => exact cmp.finish (.faulted none h h' ht) hv
  | success a h h' ht => exact endWithValue hs ht (hf a _ _ hv)

/-- The alternative starts from the states that the first flows were started from. -/
theorem orElseWith {f : List Failure → Act H.World (Flow H α)}
    {f' : List Failure → Act H.World (Flow (H.answeringWith calls) α)} (hc : cmp.Relates c c')
    (hf : ∀ fs, (f fs).Coincides cmp.seen cmp.Relates (f' fs)) :
    cmp.Relates (c.orElseWith f) (c'.orElseWith f') := by
  intro i env s s' w w' hs hw
  refine cmp.run hc hs hw fun {left left' v v'} hleft hv => ?_
  cases hleft with
  | success a h h' ht => exact cmp.finish (.success a h h' ht) hv
  | @faulted a t t' h h' ht =>
    have hmade : Coincide cmp.seen cmp.Relates (f t.failures v) (f' t'.failures v') := by
      rw [← failures ht]
      exact hf t.failures v v' hv
    dsimp only
    generalize f t.failures v = x at hmade ⊢
    generalize f' t'.failures v' = x' at hmade ⊢
    cases hmade with
    | threw e hu => exact cmp.raise e hs hu
    | gave he hu =>
      refine cmp.run he hs hu fun hright hz => ?_
      cases hright with
      | success a k k' hr => exact cmp.finish (.success a k k' hr) hz
      | @faulted a r r' k k' hr =>
        -- both add the failures of both sides to the states that they were started from
        refine cmp.finish (.faulted none _ _ ?_) hz
        rw [← failures ht, ← failures hr]
        exact cmp.change (f := (·.addFailures (t.failures ++ r.failures))) (fun _ _ => rfl) hs

/-- So must both functions. -/
theorem bimap {onSuccess : α → Act H.World β}
    {onFailure : List Failure → Act H.World (List Failure)}
    (hsuccess : ∀ a, (onSuccess a).Blind cmp.seen)
    (hfailure : ∀ fs, (onFailure fs).Blind cmp.seen) (hc : cmp.Relates c c') :
    cmp.Relates (c.bimap onSuccess onFailure) (c'.bimap onSuccess onFailure) := by
  intro i env s s' w w' hs hw
  refine cmp.run hc hs hw fun {o o' v v'} ho hv => ?_
  cases ho with
  | success a h h' ht => exact endWithValue hs ht (hsuccess a _ _ hv)
  | @faulted a t t' h h' ht =>
    have hmade := hfailure t.failures v v' hv
    dsimp only
    rw [← failures ht]
    generalize onFailure t.failures v = x at hmade ⊢
    generalize onFailure t.failures v' = x' at hmade ⊢
    cases hmade with
    | threw e hu => exact cmp.raise e hs hu
    | @gave fs fs' hsame _ _ hu =>
      subst hsame
      cases fs with
      | nil => exact cmp.finish (.faulted none h h' ht) hu
      | cons f fs =>
        exact cmp.finish (.faulted none _ _
          (cmp.change (f := (·.withFailures (f :: fs))) (fun _ _ => rfl) ht)) hu

theorem retype (f : α → β) (hc : cmp.Relates c c') : cmp.Relates (c.retype f) (c'.retype f) :=
  fun _ _ _ _ _ _ hs hw => cmp.map f (hc _ _ _ _ _ _ hs hw)

theorem ask : cmp.Relates (Flow.ask : Flow H H.Env) Flow.ask :=
  fun _ env _ _ _ _ hs hw => value env hs hw

/-- The function must not look at what is hidden. -/
theorem «local» {f : H.Env → Act H.World H.Env} (hf : ∀ env, (f env).Blind cmp.seen)
    (hc : cmp.Relates c c') : cmp.Relates (Flow.local f c) (Flow.local f c') := by
  intro i env s s' w w' hs hw
  have hmade := hf env w w' hw
  unfold Flow.local
  generalize f env w = x at hmade ⊢
  generalize f env w' = x' at hmade ⊢
  cases hmade with
  | threw e hv => exact cmp.raise e hs hv
  | gave henv hv =>
    subst henv
    exact endWith hc hs hv

/-- What is put in place does not depend on whether the state is muted. -/
theorem modifyState {f : H.State → H.State} (hf : H.Unmuting f) :
    cmp.Relates (Flow.modifyState fun s => .ok (f s)) (Flow.modifyState fun s => .ok (f s)) :=
  fun _ _ _ _ _ _ hs hw => value () (cmp.change hf hs) hw

/-- What is read does not depend on whether the state is muted. -/
theorem liftState {f : H.State → α} (hf : ∀ t b, f (t.withMuted b) = f t) :
    cmp.Relates (Flow.liftState fun s => .ok (f s)) (Flow.liftState fun s => .ok (f s)) :=
  fun _ _ _ _ _ _ hs hw => endWithValue hs hs (.gave (reads hs f hf) hw)

/-- The code may be another one on the other side, as long as the answers compare. -/
theorem lift {code code' : Act H.World (Reply H.World α)}
    (h : cmp.asks (.code code) (.code code')) : cmp.Relates (Flow.lift code) (Flow.lift code') :=
  fun _ _ _ _ _ _ hs hw => cmp.outside h hw fun hx => endWithValue hs hs hx

/-- Both sides enter the scope and leave it; its label goes on the failures of both. -/
theorem context (label : String) (hc : cmp.Relates c c') :
    cmp.Relates (Flow.context label c) (Flow.context label c') := by
  intro i env s s' w w' hs hw
  have hlog := reads hs (fun t => (t.enter label).log) fun _ _ => rfl
  have henter := cmp.change (f := (·.enter label)) (fun _ _ => rfl) hs
  refine cmp.announce hs hs hlog hw fun hv => cmp.run hc henter hv fun ho hu => ?_
  exact cmp.finish (ho.update fun ht => leave hs label ht) hu

/-- Both sides look the key up in the same configuration. -/
theorem config (key : String) : cmp.Relates (Flow.config key) (Flow.config key) := by
  intro i env s s' w w' hs hw
  have hsetting := reads hs (·.setting? key) fun _ _ => rfl
  unfold Flow.config
  rw [hsetting]
  cases s'.setting? key with
  | some found => exact value found hs hw
  | none => exact endWith (fail _) hs hw

/-- What a call throws and what is thrown into the step that waits for it get the same label. -/
theorem tryEffect {e : Effect H (Reply H.World α)}
    {e' : Effect (H.answeringWith calls) (Reply H.World α)} (h : cmp.asks e e')
    {label : Thrown → Act H.World String} (hlabel : ∀ e, (label e).Blind cmp.seen) :
    cmp.Relates (Flow.tryEffect e label) (Flow.tryEffect e' label) := by
  intro i env s s' w w' hs hw
  refine cmp.outside h hw fun {x x'} hx => ?_
  cases hx with
  | gave ha hv =>
    subst ha
    exact value _ hs hv
  | @threw thrown v v' hv =>
    have hmade := hlabel thrown v v' hv
    dsimp only
    generalize label thrown v = y at hmade ⊢
    generalize label thrown v' = y' at hmade ⊢
    cases hmade with
    | threw e hu => exact cmp.raise e hs hu
    | gave hl hu =>
      subst hl
      exact endWith (fail _) hs hu

/-! ### The whole state -/

/-- The whole state may be looked at only where the states that compare are equal. -/
theorem getState (hexact : cmp.Exact) : cmp.Relates (Flow.getState : Flow H H.State)
    Flow.getState := by
  intro i env s s' w w' hs hw
  obtain rfl := (hexact _ _ _).mp hs
  exact value s hs hw

/-- So may a function of the state. -/
theorem liftStateWith (hexact : cmp.Exact) {f : H.State → Act H.World α}
    (hf : ∀ s, (f s).Blind cmp.seen) : cmp.Relates (Flow.liftState f) (Flow.liftState f) := by
  intro i env s s' w w' hs hw
  obtain rfl := (hexact _ _ _).mp hs
  exact endWithValue hs hs (hf s _ _ hw)

/-- A state that is put is the same on both sides. -/
theorem putState (hexact : cmp.Exact) (t : H.State) :
    cmp.Relates (Flow.putState t) (Flow.putState t) :=
  fun _ _ _ _ _ _ _ hw => value () ((hexact _ _ _).mpr rfl) hw

/-- The function is given equal states. -/
theorem modifyStateWith (hexact : cmp.Exact) {f : H.State → Act H.World H.State}
    (hf : ∀ s, (f s).Blind cmp.seen) : cmp.Relates (Flow.modifyState f) (Flow.modifyState f) := by
  intro i env s s' w w' hs hw
  obtain rfl := (hexact _ _ _).mp hs
  have hmade := hf s w w' hw
  unfold Flow.modifyState
  generalize f s w = x at hmade ⊢
  generalize f s w' = x' at hmade ⊢
  cases hmade with
  | threw e hv => exact cmp.raise e hs hv
  | gave ht hv =>
    subst ht
    exact value () ((hexact _ _ _).mpr rfl) hv

/-- Where states that compare are equal, muting both sides keeps them so. -/
theorem mute (hexact : cmp.Exact) (hc : cmp.Relates c c') :
    cmp.Relates (Flow.mute c) (Flow.mute c') := by
  intro i env s s' w w' hs hw
  obtain rfl := (hexact _ _ _).mp hs
  refine cmp.run hc ((hexact _ _ _).mpr rfl) hw fun ho hv => cmp.finish (ho.update fun ht => ?_) hv
  obtain rfl := (hexact _ _ _).mp ht
  exact (hexact _ _ _).mpr rfl

/-! ### Batches -/

/-- By induction on the pairs of items; the values so far are the same. -/
theorem sequenceFrom {items : List (Flow H α × Flow (H.answeringWith calls) α)}
    (h : ∀ item ∈ items, cmp.Relates item.1 item.2) (env : H.Env) (gathered : List α)
    {i : cmp.Side} {start start' s s' : H.State} {w w' : H.World} (hs : cmp.states i s s')
    (hw : cmp.seen w = cmp.seen w') :
    cmp.programs i start start' (Flow.sequenceFrom env gathered (items.map Prod.fst) s w)
      (Flow.sequenceFrom env gathered (items.map Prod.snd) s' w') := by
  induction items generalizing gathered s s' w w' with
  | nil => exact value _ hs hw
  | cons item items ih =>
    obtain ⟨hitem, hitems⟩ := List.forall_mem_cons.mp h
    refine cmp.run hitem hs hw fun ho hv => ?_
    cases ho with
    | faulted a k k' ht => exact cmp.finish (.faulted none k k' ht) hv
    | success a k k' ht => exact ih hitems (a :: gathered) ht hv

theorem sequence {items : List (Flow H α × Flow (H.answeringWith calls) α)}
    (h : ∀ item ∈ items, cmp.Relates item.1 item.2) :
    cmp.Relates (Flow.sequence (items.map Prod.fst)) (Flow.sequence (items.map Prod.snd)) :=
  fun _ env _ _ _ _ hs hw => sequenceFrom h env [] hs hw

/-- By induction on the pairs of items; values and failures so far are the same. -/
theorem collectFrom {items : List (Flow H α × Flow (H.answeringWith calls) α)}
    (h : ∀ item ∈ items, cmp.Relates item.1 item.2) (env : H.Env) (gathered : List (Option α))
    (failed : List Failure) {i : cmp.Side} {start start' s s' : H.State} {w w' : H.World}
    (hs : cmp.states i s s') (hw : cmp.seen w = cmp.seen w') :
    cmp.programs i start start'
      (Flow.collectFrom env gathered failed (items.map Prod.fst) s w)
      (Flow.collectFrom env gathered failed (items.map Prod.snd) s' w') := by
  induction items generalizing gathered failed s s' w w' with
  | nil =>
    -- the batch is settled by the failures that were gathered, which are the same for both
    refine cmp.finish ?_ hw
    cases failed with
    | nil => exact .of _ (failures hs) hs
    | cons f fs =>
      exact .faulted _ _ _ (cmp.change (f := (·.withFailures [Failure.collected (f :: fs)]))
        (fun _ _ => rfl) hs)
  | cons item items ih =>
    obtain ⟨hitem, hitems⟩ := List.forall_mem_cons.mp h
    refine cmp.run hitem hs hw fun {o o' v v'} ho hv => ?_
    have hcleared := cmp.change (f := (·.withFailures [])) (fun _ _ => rfl) ho.state
    have hfailures : o'.failures = o.failures := (failures ho.state).symm
    dsimp only
    rw [hfailures]
    cases ho with
    | faulted a k k' ht => exact ih hitems _ _ hcleared hv
    | success a k k' ht => exact ih hitems _ _ hcleared hv

theorem collect {items : List (Flow H α × Flow (H.answeringWith calls) α)}
    (h : ∀ item ∈ items, cmp.Relates item.1 item.2) :
    cmp.Relates (Flow.collect (items.map Prod.fst)) (Flow.collect (items.map Prod.snd)) :=
  fun _ env _ _ _ _ hs hw => collectFrom h env [] [] hs hw

/-! ### Resources and time -/

/-- The release of one side is asked as that of the other; the resource is the same. -/
theorem use (resource : β) {release release' : β → Act H.World (Reply H.World Unit)}
    {f : β → Act H.World (Flow H α)} {f' : β → Act H.World (Flow (H.answeringWith calls) α)}
    (hrelease : cmp.asks (.code (release resource)) (.code (release' resource)))
    (hf : (f resource).Coincides cmp.seen cmp.Relates (f' resource)) :
    cmp.Relates (Flow.use resource release f) (Flow.use resource release' f') := by
  intro i env s s' w w' hs hw
  have hmade := hf w w' hw
  have hbody : cmp.Relates (Flow.madeOrFailed (f resource w).1)
      (Flow.madeOrFailed (f' resource w').1) := by
    generalize f resource w = x at hmade ⊢
    generalize f' resource w' = x' at hmade ⊢
    cases hmade with
    | threw e hv => exact failure _ []
    | gave hc hv => exact hc
  refine cmp.run hbody hs hmade.seen_eq fun ho hv => cmp.outside hrelease hv fun hx => ?_
  cases hx with
  | gave _ hu => exact cmp.finish ho hu
  | threw e hu => exact cmp.finish (fault ho.state _ []) hu

/-- Both sides have a session or neither has. -/
theorem session : cmp.Relates (Flow.session : Flow H H.Session) Flow.session := by
  intro i env s s' w w' hs hw
  have hsession := reads hs RunState.session fun _ _ => rfl
  unfold Flow.session
  rw [hsession]
  cases s'.session with
  | some handle => exact value handle hs hw
  | none => exact cmp.finish (fault hs _ []) hw

/-- Both sides run with the session, quit it alike, and give the earlier one back. -/
theorem withSession (handle : H.Session)
    (hquit : cmp.asks (.call handle .quit) (.call handle .quit)) (hc : cmp.Relates c c') :
    cmp.Relates (Flow.withSession handle c) (Flow.withSession handle c') := by
  intro i env s s' w w' hs hw
  have hlent := cmp.change (f := (·.withSession (some handle))) (fun _ _ => rfl) hs
  have hsettings := reads hs RunState.settings fun _ _ => rfl
  refine cmp.run hc hlent hw fun ho hv => ?_
  have hback : ∀ {t t' : H.State}, cmp.states i t t' →
      cmp.states i (t.withSession s.session) (t'.withSession s'.session) := giveBack hs
  dsimp only
  rw [hsettings]
  split
  · refine cmp.outside hquit hv fun hx => ?_
    -- a session that does not quit is complained about by both, whether it throws now or later
    cases hx with
    | gave _ hu => exact cmp.finish (ho.update hback) hu
    | threw e hu => exact cmp.complain hu fun hz => cmp.finish (ho.update hback) hz
  · exact cmp.finish (ho.update hback) hv

/-- Both sides read the same clock. -/
theorem stopwatch (hc : cmp.Relates c c') :
    cmp.Relates (Flow.stopwatch c) (Flow.stopwatch c') := by
  intro i env s s' w w' hs hw
  refine cmp.run (write .info "Start stopwatch") hs hw fun {started started' v v'} hstarted hv => ?_
  -- both flows run from the state that the line left, whatever became of the line
  dsimp only
  rw [cmp.now hv]
  refine cmp.run hc hstarted.state hv fun {o o' u u'} ho hu => ?_
  cases ho with
  | faulted a h h' ht => exact cmp.finish (.faulted none h h' ht) hu
  | success a h h' ht =>
    dsimp only
    rw [cmp.now hu]
    exact cmp.run (write .info _) ht hu fun hstopped hz => value _ hstopped.state hz

theorem pause (interval : Span) : cmp.Relates (Flow.pause interval : Flow H Unit)
    (Flow.pause interval) :=
  fun _ _ _ _ _ _ hs hw => cmp.sleep hw fun hx => endWithValue hs hs hx

/-! ### Loops -/

/-- Both sides give up with the same words. -/
theorem giveUp {watch : Flow.Watch H α} (hwatch : watch.Blind cmp.seen) (timeout elapsed : Rat)
    (attempts : Nat) (last : α) (env : H.Env) {i : cmp.Side} {start start' s s' : H.State}
    {w w' : H.World} (hstart : cmp.states i start start') (hs : cmp.states i s s')
    (hw : cmp.seen w = cmp.seen w') :
    cmp.programs i start start' (Flow.giveUp watch timeout elapsed attempts last env s w)
      (Flow.giveUp (watch.recast calls) timeout elapsed attempts last env s' w') := by
  refine cmp.complain hw fun {r v v'} hv => ?_
  -- the message asks the watch, which is the same code under both hosts
  have hsame : Flow.timeoutMessage (watch.recast calls) timeout last v' =
      Flow.timeoutMessage watch timeout last v' := by
    unfold Flow.timeoutMessage Flow.Watch.recast
    cases watch.describe with
    | none => rfl
    | some describe => rfl
  have hmessage := hwatch.timeoutMessage timeout last v v' hv
  rw [hsame]
  generalize Flow.timeoutMessage watch timeout last v = x at hmessage ⊢
  generalize Flow.timeoutMessage watch timeout last v' = x' at hmessage ⊢
  cases hmessage with
  | threw e hu => exact cmp.raise e hstart hu
  | gave h hu =>
    subst h
    exact endWith (fail _) hs hu

/-- By induction on the looks that are left: the clock is seen, so both sides go on or stop
together. -/
theorem look (hc : cmp.Relates c c') {watch : Flow.Watch H α} (hwatch : watch.Blind cmp.seen)
    (interval timeout began : Rat) (env : H.Env) {i : cmp.Side} {start start' s s' : H.State}
    (hstart : cmp.states i start start') (hs : cmp.states i s s') (left done : Nat)
    {w w' : H.World} (hw : cmp.seen w = cmp.seen w') :
    cmp.programs i start start' (Flow.look c watch interval timeout began env s left done w)
      (Flow.look c' (watch.recast calls) interval timeout began env s' left done w') := by
  induction left using Nat.strongRecOn generalizing done w w' with
  | ind left ih =>
    unfold Flow.look
    refine cmp.run hc hs hw fun {o o' v v'} ho hv => ?_
    cases ho with
    | faulted a h h' ht => exact cmp.finish (.faulted a h h' ht) hv
    | success a h h' ht =>
      have hagain := hwatch.continueIf a v v' hv
      dsimp only [Flow.Watch.recast]
      generalize watch.continueIf a v = x at hagain ⊢
      generalize watch.continueIf a v' = x' at hagain ⊢
      cases hagain with
      | threw e hu => exact cmp.raise e hstart hu
      | @gave again _ hsame u u' hu =>
        subst hsame
        cases again with
        | false => exact cmp.finish (.success a h h' ht) hu
        | true =>
          dsimp only
          rw [cmp.now hu]
          split
          · exact giveUp hwatch _ _ _ a env hstart hs hu
          · cases left with
            | zero => exact cmp.raise _ hstart hu
            | succ left =>
              refine cmp.sleep hu fun hy => ?_
              cases hy with
              | threw e hz => exact cmp.raise e hstart hz
              | gave _ hz => exact ih left (Nat.lt_succ_self left) (done + 1) hz

theorem waitUntil (hc : cmp.Relates c c') {watch : Flow.Watch H α} (hwatch : watch.Blind cmp.seen)
    (interval wait : Option Span) :
    cmp.Relates (Flow.waitUntil c watch interval wait)
      (Flow.waitUntil c' (watch.recast calls) interval wait) := by
  intro i env s s' w w' hs hw
  have hsettings := reads hs RunState.settings fun _ _ => rfl
  unfold Flow.waitUntil
  dsimp only
  rw [cmp.now hw, hsettings]
  exact look hc hwatch _ _ _ env hs hs _ 0 hw

/-- The failure that is settled is the same on both sides. -/
theorem settle {c : Flow H (Except Failure α)}
    {c' : Flow (H.answeringWith calls) (Except Failure α)} (hc : cmp.Relates c c') :
    cmp.Relates (Flow.settle c) (Flow.settle c') := by
  intro i env s s' w w' hs hw
  refine cmp.run hc hs hw fun ho hv => ?_
  cases ho with
  | faulted a h h' ht => exact cmp.finish (.faulted none h h' ht) hv
  | success r h h' ht =>
    cases r with
    | ok a => exact value a ht hv
    | error f => exact cmp.finish (fault ht f []) hv

theorem attempt (hc : cmp.Relates c c') : cmp.Relates (Flow.attempt c) (Flow.attempt c') :=
  orElseWith (map (fun _ => Act.blind_ok _) hc) fun _ _ _ hw => .gave (pure _) hw

theorem waitUntilSucceeds (hc : cmp.Relates c c') (interval wait : Option Span)
    (label : String) :
    cmp.Relates (Flow.waitUntilSucceeds c interval wait label)
      (Flow.waitUntilSucceeds c' interval wait label) :=
  settle (waitUntil (attempt hc) (Flow.blind_succeedsWatch label) interval wait)

/-- By induction on the repeats that are left. -/
theorem repeatWhile (hc : cmp.Relates c c') {continueIf : α → Act H.World Bool}
    (hcontinue : ∀ a, (continueIf a).Blind cmp.seen) (env : H.Env) (left : Nat)
    (last : Option α) {i : cmp.Side} {start start' s s' : H.State} {w w' : H.World}
    (hstart : cmp.states i start start') (hs : cmp.states i s s')
    (hw : cmp.seen w = cmp.seen w') :
    cmp.programs i start start' (Flow.repeatWhile c continueIf env left last s w)
      (Flow.repeatWhile c' continueIf env left last s' w') := by
  induction left generalizing last s s' w w' with
  | zero => exact value last hs hw
  | succ left ih =>
    refine cmp.run hc hs hw fun {o o' v v'} ho hv => ?_
    cases ho with
    | faulted a h h' ht => exact cmp.finish (.faulted (a.map some) h h' ht) hv
    | success a h h' ht =>
      have hagain := hcontinue a v v' hv
      dsimp only
      generalize continueIf a v = x at hagain ⊢
      generalize continueIf a v' = x' at hagain ⊢
      cases hagain with
      | threw e hu => exact cmp.raise e hstart hu
      | @gave again _ hsame _ _ hu =>
        subst hsame
        cases again with
        | false => exact value _ ht hu
        | true => exact ih (some a) ht hu

theorem doWhile (hc : cmp.Relates c c') {continueIf : α → Act H.World Bool}
    (hcontinue : ∀ a, (continueIf a).Blind cmp.seen) (maxRepeats : Int) :
    cmp.Relates (Flow.doWhile c continueIf maxRepeats) (Flow.doWhile c' continueIf maxRepeats) :=
  fun _ env _ _ _ _ hs hw => repeatWhile hc hcontinue env _ none hs hs hw

/-- By induction on the attempts that are left. -/
theorem repeatOrFail (hc : cmp.Relates c c') {continueIf : α → Act H.World Bool}
    (hcontinue : ∀ a, (continueIf a).Blind cmp.seen) (again : Option Rat) (message : String)
    (env : H.Env) (left : Nat) {i : cmp.Side} {start start' s s' : H.State} {w w' : H.World}
    (hstart : cmp.states i start start') (hs : cmp.states i s s')
    (hw : cmp.seen w = cmp.seen w') :
    cmp.programs i start start' (Flow.repeatOrFail c continueIf again message env left s w)
      (Flow.repeatOrFail c' continueIf again message env left s' w') := by
  induction left generalizing s s' w w' with
  | zero => exact endWith (fail _) hs hw
  | succ left ih =>
    rw [Flow.repeatOrFail, Flow.repeatOrFail]
    refine cmp.run hc hs hw fun {o o' v v'} ho hv => ?_
    cases ho with
    | faulted a h h' ht => exact cmp.finish (.faulted a h h' ht) hv
    | success a h h' ht =>
      have hagain := hcontinue a v v' hv
      dsimp only
      generalize continueIf a v = x at hagain ⊢
      generalize continueIf a v' = x' at hagain ⊢
      cases hagain with
      | threw e hu => exact cmp.raise e hstart hu
      | @gave more _ hsame _ _ hu =>
        subst hsame
        cases more with
        | false => exact cmp.finish (.success a h h' ht) hu
        | true =>
          dsimp only
          split
          · exact endWith (fail _) ht hu
          · exact ih ht hu
          · refine cmp.sleep hu fun hy => ?_
            cases hy with
            | threw e hz => exact cmp.raise e hstart hz
            | gave _ hz => exact ih ht hz

theorem doWhileOrFail (hc : cmp.Relates c c') {continueIf : α → Act H.World Bool}
    (hcontinue : ∀ a, (continueIf a).Blind cmp.seen) (maxAttempts : Int)
    (interval : Option Span) (message : String) :
    cmp.Relates (Flow.doWhileOrFail c continueIf maxAttempts interval message)
      (Flow.doWhileOrFail c' continueIf maxAttempts interval message) :=
  fun _ env _ _ _ _ hs hw => repeatOrFail hc hcontinue _ message env _ hs hs hw

end Relates

/-! ## Lists of steps -/

/-- Two bodies hand out flows that are related, and do the same otherwise. -/
inductive Bodies (cmp : H.Comparison calls Seen) :
    {α : Type} → Body H α → Body (H.answeringWith calls) α → Prop where
  | returned {α : Type} (a : α) {w w' : H.World} (hw : cmp.seen w = cmp.seen w') :
      Bodies cmp (.returned a w) (.returned a w')
  | threw {α : Type} (e : Thrown) {w w' : H.World} (hw : cmp.seen w = cmp.seen w') :
      Bodies cmp (.threw e w : Body H α) (.threw e w')
  | strays {α : Type} (shown : String) {w w' : H.World} (hw : cmp.seen w = cmp.seen w')
      {close close' : Act H.World Unit} (hclose : close.Coincides cmp.seen Eq close') :
      Bodies cmp (.strays shown w close : Body H α) (.strays shown w' close')
  | handsOut {α β : Type} {c : Flow H β} {c' : Flow (H.answeringWith calls) β}
      (h : cmp.Relates c c') {w w' : H.World} (hw : cmp.seen w = cmp.seen w')
      {close close' : Act H.World Unit} (hclose : close.Coincides cmp.seen Eq close')
      {resume : β → H.World → Body H α} {resume' : β → H.World → Body (H.answeringWith calls) α}
      (hresume : ∀ b v v', cmp.seen v = cmp.seen v' → Bodies cmp (resume b v) (resume' b v')) :
      Bodies cmp (.handsOut c w close resume) (.handsOut c' w' close' resume')

/-- Making two recipes throws the same, or they stand for the same value, for flows that are
related, or for bodies that are. -/
inductive Recipes (cmp : H.Comparison calls Seen) : Except Thrown (Recipe H α) × H.World →
    Except Thrown (Recipe (H.answeringWith calls) α) × H.World → Prop where
  | threw (e : Thrown) {w w' : H.World} (hw : cmp.seen w = cmp.seen w') :
      Recipes cmp (.error e, w) (.error e, w')
  | value (a : α) {w w' : H.World} (hw : cmp.seen w = cmp.seen w') :
      Recipes cmp (.ok (.value a), w) (.ok (.value a), w')
  | flow {c : Flow H α} {c' : Flow (H.answeringWith calls) α} (h : cmp.Relates c c')
      {w w' : H.World} (hw : cmp.seen w = cmp.seen w') :
      Recipes cmp (.ok (.flow c), w) (.ok (.flow c'), w')
  | body {b : H.World → Body H α} {b' : H.World → Body (H.answeringWith calls) α}
      {w w' : H.World} (h : cmp.Bodies (b w) (b' w')) :
      Recipes cmp (.ok (.body b), w) (.ok (.body b'), w')

namespace Relates

/-- The induction is on how the bodies are alike: both are resumed with the same value. -/
theorem followBody {b : Body H α} {b' : Body (H.answeringWith calls) α} (h : cmp.Bodies b b')
    (env : H.Env) {i : cmp.Side} {start start' s s' : H.State}
    (hstart : cmp.states i start start') (hs : cmp.states i s s') :
    cmp.programs i start start' (Flow.followBody env b s) (Flow.followBody env b' s') := by
  induction h generalizing s s' with
  | returned a hw => exact value a hs hw
  | threw e hw => exact cmp.finish (fault hs _ []) hw
  | strays shown hw hclose => exact closeWith hclose hstart (fault hs _ []) hw
  | handsOut hc hw hclose hresume ih =>
    rw [Flow.followBody, Flow.followBody]
    refine cmp.run hc hs hw fun {o o' v v'} ho hv => ?_
    cases ho with
    | faulted a h h' ht => exact closeWith hclose hstart (.faulted none h h' ht) hv
    | success a h h' ht => exact ih a v v' hv ht

/-- Code that makes recipes that compare; the bodies among them are followed by induction. -/
theorem ofRecipe {code : Act H.World (Recipe H α)}
    {code' : Act H.World (Recipe (H.answeringWith calls) α)}
    (h : ∀ {w w'}, cmp.seen w = cmp.seen w' → cmp.Recipes (code w) (code' w')) :
    cmp.Relates (Flow.ofRecipe code) (Flow.ofRecipe code') := by
  intro i env s s' w w' hs hw
  have hmade := h hw
  unfold Flow.ofRecipe
  generalize code w = x at hmade ⊢
  generalize code' w' = x' at hmade ⊢
  cases hmade with
  | threw e hv => exact cmp.raise e hs hv
  | value a hv => exact value a hs hv
  | flow hc hv => exact endWith hc hs hv
  | body hb => exact followBody hb env hs hs

end Relates

end Host.Comparison

end Walkthrough
