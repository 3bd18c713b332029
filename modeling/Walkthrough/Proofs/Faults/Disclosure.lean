import Walkthrough.Proofs.Composed.Derived
import Walkthrough.Proofs.Run.Keeps

/-!
# No failure is swallowed

When a nested step has failed, the flow around it fails too (`Flow.isFaulted_of_ended`), for every
flow that is composed without alternatives and without putting another state in place of the state
of the run. Neither the state that the run starts from nor the sinks matter, and functions that the
flow is built from may throw where they like.

The proof reads the statement backwards. A program *discloses* `P` when a run of it that ends
without a failure has made `P` true and has seen no nested step fail. Two facts need each other
here: a run that ends without a failure was started without one, and none of its nested steps
failed. `stopwatch` shows why: it does not look whether its first line could be written, and its
flow runs in a faulted state then; only because a faulted state is never mended is that failure
seen.
-/

namespace Walkthrough

variable {H : Host} {α β : Type} {d : Driver H}

/-- A nested step has ended with a failure. -/
def Event.failed : Event H → Bool
  | ended o => o.isFaulted
  | _ => false

/-- If the program ends without a failure, then `P` holds and no nested step has failed. -/
def Program.Discloses (d : Driver H) (p : Program H α) (start : H.State) (P : Prop) : Prop :=
  (p.history d start).outcome.isFaulted = false →
    P ∧ ∀ e ∈ (p.history d start).events, e.failed = false

/-- If the flow ends without a failure, it was started without one and no nested step has failed. -/
def Flow.Discloses (d : Driver H) (c : Flow H α) : Prop :=
  ∀ env s w, (c env s w).Discloses d s (s.failures = [])

/-! ## Programs -/

namespace Program.Discloses

variable {start : H.State} {P P' : Prop}

/-- A condition that follows may take the place of the one that is promised. -/
theorem imp {p : Program H α} (h : p.Discloses d start P') (hP : P' → P) :
    p.Discloses d start P := by
  intro ho
  obtain ⟨hP', hevents⟩ := h ho
  exact ⟨hP hP', hevents⟩

/-- An outcome may hide nothing: if it is not faulted, the promise holds. -/
theorem finish {o : Outcome H α} (w : H.World) (h : o.isFaulted = false → P) :
    (Program.finish o w).Discloses d start P := by
  intro ho
  exact ⟨h ho, fun e he => absurd he List.not_mem_nil⟩

/-- What ends faulted has nothing to promise. -/
theorem faulted (v : Option α) (s : H.State) (h : s.failures ≠ []) (w : H.World) :
    (Program.finish (.faulted v s h) w).Discloses d start P :=
  finish w fun ho => nomatch ho

/-- Ending with a value is ending without a failure only in a state that has none. -/
theorem value {a : α} {t : H.State} {w : H.World} (h : t.failures = [] → P) :
    (Program.finish (.of a t) w).Discloses d start P := by
  refine finish w fun ho => h ?_
  rw [← Outcome.state_of a t]
  exact Outcome.failures_of_unfaulted ho

/-- Whatever is thrown becomes a fault. -/
theorem raise (e : Thrown) (w : H.World) :
    (Program.raise e w : Program H α).Discloses d start P :=
  fun ho => nomatch ho

/-- A nested step that has failed must show in how the continuation ends. -/
theorem run {step : H.Env → H.State → H.World → Program H β} {env : H.Env} {s : H.State}
    {w : H.World} {next : Outcome H β → H.World → Program H α}
    (hstep : (step env s w).Discloses d s P')
    (hnext : ∀ o w', (next o w').Discloses d start (o.isFaulted = false ∧ (P' → P))) :
    (Program.run step env s w next).Discloses d start P := by
  intro ho
  -- from the end backwards: the continuation shows that the step did not fail, and only then is
  -- known what the step promises
  obtain ⟨⟨hinner, himp⟩, hrest⟩ := hnext _ _ ho
  obtain ⟨hP', hevents⟩ := hstep hinner
  refine ⟨himp hP', ?_⟩
  intro e he
  simp only [history, History.events_after, List.mem_append, List.mem_cons, List.not_mem_nil,
    or_false] at he
  rcases he with ((rfl | he) | rfl) | he
  · rfl
  · exact hevents e he
  · exact hinner
  · exact hrest e he

/-- After one event that is no failure, all depends on what follows. -/
theorem of_after {h : History H α} {e : Event H} (he : e.failed = false)
    (hrest : h.outcome.isFaulted = false → P ∧ ∀ e ∈ h.events, e.failed = false)
    (ho : (h.after [e]).outcome.isFaulted = false) :
    P ∧ ∀ e' ∈ (h.after [e]).events, e'.failed = false := by
  obtain ⟨hP, hevents⟩ := hrest ho
  refine ⟨hP, ?_⟩
  intro e' he'
  rcases List.mem_cons.mp he' with rfl | he'
  · exact he
  · exact hevents e' he'

/-- What an effect throws is up to what follows. -/
theorem effect {e : Effect H β} {w : H.World} {next : Except Thrown β → H.World → Program H α}
    (hnext : ∀ r w', (next r w').Discloses d start P) :
    (Program.effect e w next).Discloses d start P :=
  of_after rfl (hnext _ _)

theorem sleep {t : Rat} {w : H.World} {next : Except Thrown Unit → H.World → Program H α}
    (hnext : ∀ r w', (next r w').Discloses d start P) :
    (Program.sleep t w next).Discloses d start P :=
  of_after rfl (hnext _ _)

theorem await {code : Act H.World β} {w : H.World}
    {next : Except Thrown β → H.World → Program H α}
    (hnext : ∀ r w', (next r w').Discloses d start P) :
    (Program.await code w next).Discloses d start P :=
  of_after rfl (hnext _ _)

/-- What an outside call throws is up to what follows. -/
theorem outside {e : Effect H (Reply H.World β)} {w : H.World}
    {next : Except Thrown β → H.World → Program H α}
    (hnext : ∀ r w', (next r w').Discloses d start P) :
    (Program.outside e w next).Discloses d start P := by
  refine effect fun r w' => ?_
  rcases r with thrown | reply
  · exact hnext _ _
  · cases reply with
    | value b => exact hnext _ _
    | awaitable code => exact await hnext

/-- A sink that throws stops the step, and so it is disclosed. -/
theorem announce {s : H.State} {node : Log} {w : H.World} {next : H.World → Program H α}
    (hnext : ∀ w', (next w').Discloses d start P) :
    (Flow.announce s node w next).Discloses d start P := by
  unfold Flow.announce
  split
  · exact hnext w
  · refine effect fun r w' => ?_
    cases r with
    | error e => exact raise e w'
    | ok u =>
      refine effect fun r w'' => ?_
      cases r with
      | error e => exact raise e w''
      | ok u => exact hnext w''

/-- The step that takes the place of another one discloses for it. -/
theorem endWith {c : Flow H α} {env : H.Env} {s : H.State} {w : H.World} (hc : c.Discloses d)
    (hP : s.failures = [] → P) : (c.endWith env s w).Discloses d start P :=
  run (hc env s w) fun _ w' => finish w' fun ho => ⟨ho, hP⟩

/-- Code that throws in the place of making a flow ends the step. -/
theorem endWithMade {made : Except Thrown (Flow H α) × H.World} {env : H.Env} {s : H.State}
    (hmade : ∀ c w, made = (.ok c, w) → c.Discloses d) (hP : P) :
    (Flow.endWithMade made env s).Discloses d start P := by
  obtain ⟨e | c, w⟩ := made
  · exact raise e w
  · exact endWith (hmade c w rfl) fun _ => hP

theorem endWithValue {given : Except Thrown α × H.World} {s : H.State}
    (hP : s.failures = [] → P) : (Flow.endWithValue given s).Discloses d start P := by
  obtain ⟨e | a, w⟩ := given
  · exact raise e w
  · exact value hP

/-- Closing code that throws ends the step. -/
theorem closeWith {close : Act H.World Unit} {o : Outcome H α} {w : H.World}
    (h : o.isFaulted = false → P) : (Flow.closeWith close o w).Discloses d start P := by
  unfold Flow.closeWith
  split
  · exact finish _ h
  · exact raise _ _

end Program.Discloses

/-! ## Combinators -/

namespace Flow.Discloses

theorem pure (a : α) : (Flow.pure a : Flow H α).Discloses d := fun _ _ _ => .value id

theorem failure (f : Failure) (fs : List Failure) : (Flow.failure f fs : Flow H α).Discloses d :=
  fun _ _ w => .faulted _ _ _ w

theorem write (kind : LogKind) (message : String) :
    (Flow.write kind message : Flow H Unit).Discloses d :=
  fun _ _ _ => .announce fun _ => .value id

/-- A failure of either flow is the failure of both. -/
theorem bind {c : Flow H α} {f : α → Act H.World (Flow H β)} (hc : c.Discloses d)
    (hf : ∀ a w c' w', f a w = (.ok c', w') → c'.Discloses d) : (c.bind f).Discloses d := by
  intro env s w
  refine .run (hc env s w) fun o w' => ?_
  cases o with
  | faulted v t h => exact .faulted _ t h w'
  | success a t h => exact .endWithMade (fun c' w'' hmade => hf a w' c' w'' hmade) ⟨rfl, id⟩

theorem andThen {c : Flow H α} {c' : Flow H β} (hc : c.Discloses d) (hc' : c'.Discloses d) :
    (c.andThen c').Discloses d := by
  refine bind hc fun a w c'' w' h => ?_
  cases h
  exact hc'

theorem fail (f : Failure) : (Flow.fail f : Flow H α).Discloses d :=
  andThen (write .error f.message) (failure f [])

theorem map {c : Flow H α} (f : α → Act H.World β) (hc : c.Discloses d) :
    (c.map f).Discloses d := by
  intro env s w
  refine .run (hc env s w) fun o w' => ?_
  cases o with
  | faulted v t h => exact .faulted _ t h w'
  | success a t h => exact .endWithValue fun _ => ⟨rfl, id⟩

/-- A failed flow stays failed, whatever its failures are changed to: when nothing is left of them,
the old ones are kept. -/
theorem bimap {c : Flow H α} (onSuccess : α → Act H.World β)
    (onFailure : List Failure → Act H.World (List Failure)) (hc : c.Discloses d) :
    (c.bimap onSuccess onFailure).Discloses d := by
  intro env s w
  refine .run (hc env s w) fun o w' => ?_
  cases o with
  | success a t h => exact .endWithValue fun _ => ⟨rfl, id⟩
  | faulted v t h =>
    -- thrown, mapped to no failure at all, or to at least one: faulted each time
    dsimp only
    split
    · exact .raise _ _
    · exact .faulted _ _ _ _
    · exact .faulted _ _ _ _

theorem «local» {c : Flow H α} (f : H.Env → Act H.World H.Env) (hc : c.Discloses d) :
    (Flow.local f c).Discloses d := by
  intro env s w
  unfold Flow.local
  split
  · exact .endWith hc id
  · exact .raise _ _

theorem liftState (f : H.State → Act H.World α) : (Flow.liftState f).Discloses d :=
  fun _ _ _ => .endWithValue id

theorem initConfig (configuration : List (String × String)) :
    (Flow.initConfig configuration : Flow H Unit).Discloses d :=
  fun _ _ _ => .value id

theorem initSettings (settings : Settings H.Sinks) :
    (Flow.initSettings settings : Flow H Unit).Discloses d :=
  fun _ _ _ => .value id

theorem lift (code : Act H.World (Reply H.World α)) : (Flow.lift code).Discloses d :=
  fun _ _ _ => .outside fun _ _ => .endWithValue id

/-- Closing a scope changes the failures, but never leaves none where there were some. -/
theorem context {c : Flow H α} (label : String) (hc : c.Discloses d) :
    (Flow.context label c).Discloses d := by
  intro env s w
  refine .announce fun w' => .run (hc env (s.enter label) w') fun o w'' => ?_
  cases o with
  | faulted v t h => exact .faulted _ _ _ w''
  | success a t h => exact .finish w'' fun _ => ⟨rfl, id⟩

theorem mute {c : Flow H α} (hc : c.Discloses d) : (Flow.mute c).Discloses d := by
  intro env s w
  refine .run (hc env (s.withMuted true) w) fun o w' => ?_
  cases o with
  | faulted v t h => exact .faulted _ _ _ w'
  | success a t h => exact .finish w' fun _ => ⟨rfl, id⟩

theorem config (key : String) : (Flow.config key : Flow H String).Discloses d := by
  intro env s w
  unfold Flow.config
  split
  · exact .value id
  · exact .endWith (fail _) id

/-- What the call throws is a failure, or the label throws. -/
theorem tryEffect (e : Effect H (Reply H.World α)) (label : Thrown → Act H.World String) :
    (Flow.tryEffect e label).Discloses d := by
  intro env s w
  refine .outside fun r w' => ?_
  cases r with
  | ok a => exact .value id
  | error thrown =>
    dsimp only
    split
    · exact .raise _ _
    · exact .endWith (fail _) id

/-! ### Batches -/

/-- By induction on the items: the first that fails is the end. -/
theorem sequenceFrom {items : List (Flow H α)} (h : ∀ c ∈ items, c.Discloses d) (env : H.Env)
    (gathered : List α) (s : H.State) (w : H.World) {start : H.State} :
    (Flow.sequenceFrom env gathered items s w).Discloses d start (s.failures = []) := by
  induction items generalizing gathered s w with
  | nil => exact .value id
  | cons c items ih =>
    obtain ⟨hc, hitems⟩ := List.forall_mem_cons.mp h
    refine .run (hc env s w) fun o w' => ?_
    cases o with
    | faulted v t ht => exact .faulted _ t ht w'
    | success a t ht => exact (ih hitems (a :: gathered) t w').imp fun _ => ⟨rfl, id⟩

theorem sequence {items : List (Flow H α)} (h : ∀ c ∈ items, c.Discloses d) :
    (Flow.sequence items).Discloses d :=
  fun env s w => sequenceFrom h env [] s w

/-- Once an item has failed, the batch fails in the end, whatever the items after it do. -/
theorem isFaulted_collectFrom (items : List (Flow H α)) (env : H.Env)
    (gathered : List (Option α)) (f : Failure) (fs : List Failure) (s : H.State) (w : H.World)
    (start : H.State) :
    ((Flow.collectFrom env gathered (f :: fs) items s w).history d start).outcome.isFaulted =
      true := by
  induction items generalizing gathered fs s w with
  | nil => rfl
  | cons c items ih => exact ih _ _ _ _

/-- By induction on the items: failures are gathered, and a batch with any is faulted. -/
theorem collectFrom {items : List (Flow H α)} (h : ∀ c ∈ items, c.Discloses d) (env : H.Env)
    (gathered : List (Option α)) (s : H.State) (w : H.World) {start : H.State} :
    (Flow.collectFrom env gathered [] items s w).Discloses d start (s.failures = []) := by
  induction items generalizing gathered s w with
  | nil => exact .value id
  | cons c items ih =>
    obtain ⟨hc, hitems⟩ := List.forall_mem_cons.mp h
    refine .run (hc env s w) fun o w' => ?_
    cases o with
    | success a t ht =>
      have hnone : ([] : List Failure) ++ (Outcome.success a t ht).failures = [] := ht
      rw [hnone]
      exact (ih hitems _ _ w').imp fun _ => ⟨rfl, id⟩
    | faulted v t ht =>
      -- the batch goes on, so the later items do not help here: it fails at the end in any case
      obtain ⟨f, fs, hfs⟩ : ∃ f fs, t.failures = f :: fs := List.exists_cons_of_ne_nil ht
      have hsome : ([] : List Failure) ++ (Outcome.faulted v t ht).failures = f :: fs := hfs
      rw [hsome]
      intro ho
      have hfaulted : (Program.history d _ start).outcome.isFaulted = true :=
        isFaulted_collectFrom items env (none :: gathered) f fs (t.withFailures []) w' start
      exact absurd (ho.symm.trans hfaulted) Bool.false_ne_true

theorem collect {items : List (Flow H α)} (h : ∀ c ∈ items, c.Discloses d) :
    (Flow.collect items).Discloses d :=
  fun env s w => collectFrom h env [] s w

/-! ### Resources and time -/

/-- A failure of the release counts, too. -/
theorem use (resource : β) (release : β → Act H.World (Reply H.World Unit))
    {f : β → Act H.World (Flow H α)}
    (hf : ∀ w c w', f resource w = (.ok c, w') → c.Discloses d) :
    (Flow.use resource release f).Discloses d := by
  intro env s w
  have hbody : (madeOrFailed (f resource w).1).Discloses d := by
    rcases hmade : f resource w with ⟨e | c, w'⟩
    · exact failure _ []
    · exact hf w c w' hmade
  refine .run (hbody env s _) fun o w' => .outside fun r w'' => ?_
  cases r with
  | ok u => exact .finish w'' fun ho => ⟨ho, id⟩
  | error e => exact .faulted _ _ _ w''

theorem session : (Flow.session : Flow H H.Session).Discloses d := by
  intro env s w
  unfold Flow.session
  split
  · exact .value id
  · exact .faulted _ _ _ w

/-- Quitting the session may throw; that is written down elsewhere and changes no outcome. -/
theorem withSession {c : Flow H α} (handle : H.Session) (hc : c.Discloses d) :
    (Flow.withSession handle c).Discloses d := by
  intro env s w
  refine .run (hc env (s.withSession (some handle)) w) fun o w' => ?_
  have hended : ∀ w'' : H.World,
      (Program.finish (o.update (·.withSession s.session) (by intro t; rfl))
        w'').Discloses d s (o.isFaulted = false ∧ (s.failures = [] → s.failures = [])) := by
    intro w''
    cases o with
    | faulted v t h => exact .faulted _ _ _ w''
    | success a t h => exact .finish w'' fun _ => ⟨rfl, id⟩
  dsimp only
  split
  · refine .outside fun r w'' => ?_
    cases r with
    | ok u => exact hended w''
    | error e => exact .effect fun _ w₃ => hended w₃
  · exact hended w'

/-- The first line may fail, and the flow then runs in a faulted state; it cannot mend that
state. -/
theorem stopwatch {c : Flow H α} (hc : c.Discloses d) : (Flow.stopwatch c).Discloses d := by
  intro env s w
  refine .run (write .info "Start stopwatch" env s w) fun started w' => ?_
  refine .run (hc env started.state w') fun o w'' => ?_
  cases o with
  | faulted v t h => exact .faulted _ t h w''
  | success a t h =>
    -- the last line saw no failure, so neither did the first: its state was carried through
    refine .run (write .info _ env t w'') fun stopped w₃ => .value fun hstopped => ?_
    refine ⟨Outcome.unfaulted_of_failures hstopped, fun _ => ⟨rfl, fun hstarted => ?_⟩⟩
    exact ⟨Outcome.unfaulted_of_failures hstarted, id⟩

theorem pause (interval : Span) : (Flow.pause interval : Flow H Unit).Discloses d :=
  fun _ _ _ => .sleep fun _ _ => .endWithValue id

/-! ### Loops -/

/-- A timeout is a failure, or its message throws. -/
theorem giveUp (watch : Watch H α) (timeout elapsed : Rat) (attempts : Nat) (last : α)
    (env : H.Env) {s start : H.State} (w : H.World) {P : Prop} (hP : s.failures = [] → P) :
    (Flow.giveUp watch timeout elapsed attempts last env s w).Discloses d start P := by
  refine .effect fun _ w' => ?_
  split
  · exact .raise _ _
  · exact .endWith (fail _) hP

/-- Only an attempt that did not fail is followed by another one. -/
theorem look {c : Flow H α} (hc : c.Discloses d) (watch : Watch H α)
    (interval timeout began : Rat) (env : H.Env) (s : H.State) {start : H.State}
    (left done : Nat) (w : H.World) :
    (Flow.look c watch interval timeout began env s left done w).Discloses d start
      (s.failures = []) := by
  induction left using Nat.strongRecOn generalizing done w with
  | ind left ih =>
    unfold Flow.look
    refine .run (hc env s w) fun o w' => ?_
    cases o with
    | faulted v t h => exact .faulted _ t h w'
    | success a t h =>
      dsimp only
      split
      · exact .raise _ _
      · exact .finish _ fun _ => ⟨rfl, id⟩
      -- the next look starts from `s` again, of which the attempts before say nothing
      · split
        · exact giveUp watch _ _ _ a env _ fun _ => ⟨rfl, id⟩
        · cases left with
          | zero => exact .raise _ _
          | succ left =>
            refine .sleep fun r w'' => ?_
            cases r with
            | error e => exact .raise e w''
            | ok u =>
              exact (ih left (Nat.lt_succ_self left) (done + 1) w'').imp fun _ => ⟨rfl, id⟩

theorem waitUntil {c : Flow H α} (hc : c.Discloses d) (watch : Watch H α)
    (interval wait : Option Span) : (Flow.waitUntil c watch interval wait).Discloses d :=
  fun env s w => look hc watch _ _ _ env s _ 0 w

/-- By induction on the repeats that are left. -/
theorem repeatWhile {c : Flow H α} (hc : c.Discloses d) (continueIf : α → Act H.World Bool)
    (env : H.Env) (left : Nat) (value : Option α) (s : H.State) {start : H.State}
    (w : H.World) :
    (Flow.repeatWhile c continueIf env left value s w).Discloses d start (s.failures = []) := by
  induction left generalizing value s w with
  | zero => exact .value id
  | succ left ih =>
    refine .run (hc env s w) fun o w' => ?_
    cases o with
    | faulted v t h => exact .faulted _ t h w'
    | success a t h =>
      dsimp only
      split
      · exact .raise _ _
      · exact .value fun _ => ⟨rfl, id⟩
      · exact (ih (some a) t _).imp fun _ => ⟨rfl, id⟩

theorem doWhile {c : Flow H α} (hc : c.Discloses d) (continueIf : α → Act H.World Bool)
    (maxRepeats : Int) : (Flow.doWhile c continueIf maxRepeats).Discloses d :=
  fun env s w => repeatWhile hc continueIf env _ none s w

/-- By induction on the attempts that are left. -/
theorem repeatOrFail {c : Flow H α} (hc : c.Discloses d) (continueIf : α → Act H.World Bool)
    (again : Option Rat) (message : String) (env : H.Env) (left : Nat) (s : H.State)
    {start : H.State} (w : H.World) :
    (Flow.repeatOrFail c continueIf again message env left s w).Discloses d start
      (s.failures = []) := by
  induction left generalizing s w with
  | zero => exact .endWith (fail _) id
  | succ left ih =>
    rw [Flow.repeatOrFail]
    refine .run (hc env s w) fun o w' => ?_
    cases o with
    | faulted v t h => exact .faulted _ t h w'
    | success a t h =>
      dsimp only
      split
      · exact .raise _ _
      · exact .finish _ fun _ => ⟨rfl, id⟩
      · split
        · exact .endWith (fail _) fun _ => ⟨rfl, id⟩
        · exact (ih t _).imp fun _ => ⟨rfl, id⟩
        · refine .sleep fun r w'' => ?_
          cases r with
          | error e => exact .raise e w''
          | ok u => exact (ih t w'').imp fun _ => ⟨rfl, id⟩

theorem doWhileOrFail {c : Flow H α} (hc : c.Discloses d) (continueIf : α → Act H.World Bool)
    (maxAttempts : Int) (interval : Option Span) (message : String) :
    (Flow.doWhileOrFail c continueIf maxAttempts interval message).Discloses d :=
  fun env s w => repeatOrFail hc continueIf _ message env _ s w

/-! ### Lists of steps -/

/-- By induction on the body: the first flow that fails closes it, and what it throws is a fault. -/
theorem followBody (env : H.Env) (b : Body H α)
    (h : ∀ {γ : Type} (c : Flow H γ), b.Offers c → c.Discloses d) (s : H.State)
    {start : H.State} :
    (Flow.followBody env b s).Discloses d start (s.failures = []) := by
  induction b generalizing s with
  | returned a w => exact .value id
  | threw e w => exact .faulted _ _ _ w
  | strays shown w close => exact .closeWith fun ho => nomatch ho
  | handsOut c w close resume ih =>
    rw [Flow.followBody]
    refine .run (h c (.here c w close resume) env s w) fun o w' => ?_
    cases o with
    | faulted v t ht => exact .closeWith fun ho => nomatch ho
    | success a t ht =>
      exact (ih a w' (fun c' hc' => h c' (.later a w' hc')) t).imp fun _ => ⟨rfl, id⟩

theorem ofRecipe {code : Act H.World (Recipe H α)}
    (hflow : ∀ w c w', code w = (.ok (.flow c), w') → c.Discloses d)
    (hbody : ∀ w b w', code w = (.ok (.body b), w') →
      ∀ {γ : Type} (c : Flow H γ), (b w').Offers c → c.Discloses d) :
    (Flow.ofRecipe code).Discloses d := by
  intro env s w
  unfold Flow.ofRecipe
  split
  next e w' hcode => exact .raise e w'
  next a w' hcode => exact .value id
  next c w' hcode => exact .endWith (hflow w c w' hcode) id
  next b w' hcode => exact followBody env (b w') (hbody w b w' hcode) s

theorem retype {c : Flow H α} (f : α → β) (hc : c.Discloses d) : (c.retype f).Discloses d := by
  intro env s w
  unfold Program.Discloses Flow.retype
  -- changing the value changes no event, and not whether the outcome is faulted
  rw [Program.history_map]
  intro ho
  refine hc env s w ?_
  rw [← ho]
  show _ = (Outcome.map f _).isFaulted
  rw [Outcome.isFaulted_map]

end Flow.Discloses

/-! ## Composed flows -/

namespace Flow

/-- By induction on how the flow is composed, with one case for each combinator that is left. -/
theorem discloses_of_composed {k : Kit} (single : k.alternation = false)
    (keeping : k.replacing = false) {c : Flow H α} (hc : c.Composed k) : c.Discloses d := by
  induction hc with
  | pure a => exact .pure a
  | failure f fs => exact .failure f fs
  | throwing e => exact fun _ _ w => .raise e w
  | bind hc hf ih ihf => exact .bind ih ihf
  | map f hc ih => exact .map f ih
  | orElseWith allowed => exact absurd (single.symm.trans allowed) Bool.false_ne_true
  | bimap onSuccess onFailure hc ih => exact .bimap onSuccess onFailure ih
  | retype f hc ih => exact .retype f ih
  | getState allowed => exact fun _ _ _ => .value id
  | liftState allowed f => exact .liftState f
  | putState allowed t => exact absurd (keeping.symm.trans allowed) Bool.false_ne_true
  | modifyState allowed f => exact absurd (keeping.symm.trans allowed) Bool.false_ne_true
  | ask => exact fun _ _ _ => .value id
  | «local» f hc ih => exact .local f ih
  | initConfig configuration => exact .initConfig configuration
  | initSettings settings => exact .initSettings settings
  | defaultWait => exact .liftState _
  | defaultInterval => exact .liftState _
  | lift code => exact .lift code
  | write kind message => exact .write kind message
  | context label hc ih => exact .context label ih
  | mute allowed hc ih => exact .mute ih
  | config key => exact .config key
  | tryEffect e label => exact .tryEffect e label
  | sequence h ih => exact .sequence ih
  | collect h ih => exact .collect ih
  | use resource release hf ih => exact .use resource release ih
  | session => exact .session
  | withSession handle hc ih => exact .withSession handle ih
  | stopwatch hc ih => exact .stopwatch ih
  | pause interval => exact .pause interval
  | waitUntil allowed hc watch interval wait ih => exact .waitUntil ih watch interval wait
  | waitUntilSucceeds allowed => exact absurd (single.symm.trans allowed) Bool.false_ne_true
  | doWhile hc continueIf maxRepeats ih => exact .doWhile ih continueIf maxRepeats
  | doWhileOrFail hc continueIf maxAttempts interval message ih =>
    exact .doWhileOrFail ih continueIf maxAttempts interval message
  | ofRecipe hflow hbody ihflow ihbody => exact .ofRecipe ihflow ihbody

/-- Whatever state a flow is run from and whatever its sinks and functions throw: when the flow is
composed without alternatives and without replacing the state of the run, the failure of any step
that is run on the way is a failure of the flow. -/
theorem isFaulted_of_ended {k : Kit} (single : k.alternation = false)
    (keeping : k.replacing = false) {c : Flow H α} (hc : c.Composed k) (d : Driver H)
    (env : H.Env) (s : H.State) (w : H.World) {o : Outcome H β}
    (ho : Event.ended o ∈ (c.history d env s w).events) (hfaulted : o.isFaulted = true) :
    (c.history d env s w).outcome.isFaulted = true := by
  rw [history_eq] at ho ⊢
  cases hended : ((c env s w).history d s).outcome.isFaulted with
  | true => rfl
  | false =>
    have hdisclosed := (discloses_of_composed single keeping hc env s w hended).2
    have hunfaulted : o.isFaulted = false := hdisclosed (.ended o) ho
    exact absurd (hunfaulted.symm.trans hfaulted) Bool.false_ne_true

/-- The failure of a batch's first item is a failure of the flow around the batch, although the
second item is run and the failures are mapped to none. -/
theorem isFaulted_of_ended_first :
    let broken : Failure := .ofMessage .assertion "broken"
    let kit : Kit := { alternation := false, replacing := false }
    let batch : Flow Host.refusing (List (Option Unit)) :=
      (collect [failure broken [], Action.closeTab]).mapFail fun _ => .ok []
    let s := Host.refusing.initialState (some ()) { sinks := () }
    let o : Outcome Host.refusing Unit := .fault s broken []
    kit.alternation = false ∧ kit.replacing = false ∧ batch.Composed kit ∧
      (batch.history .blocking () s (0 : Nat)).events[2]? = some (.ended o) ∧
      o.isFaulted = true ∧ (batch.history .blocking () s (0 : Nat)).outcome.isFaulted = true := by
  intro broken kit batch s o
  have hbatch : batch.Composed kit := by
    refine .mapFail _ (.collect ?_)
    simp only [List.forall_mem_cons]
    exact ⟨.failure broken [], Action.composed_announced _ _ _, fun c hc => nomatch hc⟩
  have hevent : (batch.history .blocking () s (0 : Nat)).events[2]? = some (.ended o) := by
    rw [history_eq]
    rfl
  refine ⟨rfl, rfl, hbatch, hevent, rfl, ?_⟩
  exact isFaulted_of_ended rfl rfl hbatch .blocking () s (0 : Nat)
    (List.mem_of_getElem? hevent) rfl

end Flow

end Walkthrough
