import Walkthrough.Proofs.Run.Law

/-!
# Runs keep to laws

Every state that a composed flow goes through keeps to every forgiving law
(`Flow.upholds_of_composed`), whatever throws on the way and whatever the driver does. A flow that
may replace the state of the run keeps to a law only if that allows every state everywhere. There is
one lemma for each combinator, and it serves every law: the shape of the log, its growth, what a
step gives back, and that no step is started in a faulted state are four laws and no more proofs
about combinators.

The lemmas also serve laws that are not forgiving. Where a combinator goes back to an earlier state
only when something is thrown, the lemma asks for a forgiving law or for code that never throws;
alternatives and new tries go back in any case.
-/

namespace Walkthrough

variable {H : Host} {k : Kit} {α β : Type} {law : H.Law k} {d : Driver H}

namespace Flow.Upholds

/-- A value leaves the state that a law allowed. -/
theorem pure (a : α) : (Flow.pure a : Flow H α).Upholds law d :=
  fun _ _ w hs _ => .value w (.here hs.holds)

/-- Recording a failure is allowed by every law. -/
theorem failure (f : Failure) (fs : List Failure) : (Flow.failure f fs : Flow H α).Upholds law d :=
  fun _ _ w hs _ => .finish w ((Host.Law.Allows.here hs.holds).failures _)

/-- What is thrown becomes a fault of the state that the step was started from. -/
theorem throwing (e : Thrown) : (Flow.throwing e : Flow H α).Upholds law d :=
  fun _ _ w hs _ => .raise w (.here hs.holds)

/-- A line changes the log by the one record that is published. A sink that throws has told the
record and left the state behind, so the law must forgive that, or the sinks be quiet. -/
theorem write (hsinks : law.Forgiving ∨ H.Quiet) (kind : LogKind) (message : String) :
    (Flow.write kind message : Flow H Unit).Upholds law d := by
  intro env s w hs _
  obtain ⟨hholds, hrelates⟩ := law.line kind message hs.holds
  exact .announce hsinks hs.holds fun w' => .value w' ⟨hholds, hrelates⟩

/-- What the function throws takes the run back to the start of the step, behind the records of the
first flow; this is where a law must forgive, or the function be calm. -/
theorem bind {c : Flow H α} {f : α → Act H.World (Flow H β)} (hc : c.Upholds law d)
    (hthrow : law.Forgiving ∨ ∀ a, (f a).Calm)
    (hf : ∀ a w c' w', f a w = (.ok c', w') → c'.Upholds law d) : (c.bind f).Upholds law d := by
  intro env s w hs _
  refine .step (.here hs.holds) hs.clean hc fun o w' told ho => ?_
  cases o with
  | faulted v t h => exact .finish w' ho
  | success a t h =>
    exact .endWithMade (hthrow.imp_right (· a)) hs.holds ho (fun _ => h) (hf a w')

theorem andThen {c : Flow H α} {c' : Flow H β} (hc : c.Upholds law d) (hc' : c'.Upholds law d) :
    (c.andThen c').Upholds law d := by
  refine bind hc (.inr fun a w => ⟨c', w, rfl⟩) fun a w e w' h => ?_
  cases h
  exact hc'

/-- The line first, then the failure. -/
theorem fail (hsinks : law.Forgiving ∨ H.Quiet) (f : Failure) :
    (Flow.fail f : Flow H α).Upholds law d :=
  andThen (write hsinks .error f.message) (failure f [])

/-- As for `bind`: the function may throw behind the records of the flow. -/
theorem map {c : Flow H α} {f : α → Act H.World β} (hc : c.Upholds law d)
    (hthrow : law.Forgiving ∨ ∀ a, (f a).Calm) : (c.map f).Upholds law d := by
  intro env s w hs _
  refine .step (.here hs.holds) hs.clean hc fun o w' told ho => ?_
  cases o with
  | faulted v t h => exact .finish w' ho
  | success a t h => exact .endWithValue (hthrow.imp_right (· a)) hs.holds ho

/-- The alternative starts where the first flow was started. -/
theorem orElseWith (forgiving : law.Forgiving) {c : Flow H α}
    {f : List Failure → Act H.World (Flow H α)} (hc : c.Upholds law d)
    (hf : ∀ fs w c' w', f fs w = (.ok c', w') → c'.Upholds law d) :
    (c.orElseWith f).Upholds law d := by
  intro env s w hs _
  refine .step (.here hs.holds) hs.clean hc fun left w' told hleft => ?_
  cases left with
  | success a t h => exact .finish w' hleft
  | faulted v t h =>
    dsimp only
    split
    next e w'' hmade => exact .raise w'' (.back forgiving hs.holds)
    next c' w'' hmade =>
      -- the state that the first flow failed in is dropped with its failures
      refine .step (.back forgiving hs.holds) hs.clean (hf _ _ c' w'' hmade)
        fun right w₃ told' hright => ?_
      cases right with
      | success a u h => exact .finish w₃ hright
      | faulted v u h => exact .finish w₃ ((Host.Law.Allows.back forgiving hs.holds).failures _)

/-- Either function may throw behind the records of the flow. -/
theorem bimap {c : Flow H α} {onSuccess : α → Act H.World β}
    {onFailure : List Failure → Act H.World (List Failure)} (hc : c.Upholds law d)
    (hsuccess : law.Forgiving ∨ ∀ a, (onSuccess a).Calm)
    (hfailure : law.Forgiving ∨ ∀ fs, (onFailure fs).Calm) :
    (c.bimap onSuccess onFailure).Upholds law d := by
  intro env s w hs _
  refine .step (.here hs.holds) hs.clean hc fun o w' told ho => ?_
  cases o with
  | success a t h => exact .endWithValue (hsuccess.imp_right (· a)) hs.holds ho
  | faulted v t h =>
    dsimp only
    split
    next e w'' hmapped => exact .thrown (hfailure.imp_right (· t.failures)) hmapped hs.holds
    next w'' hmapped => exact .finish w'' ho
    next f fs w'' hmapped => exact .finish w'' (ho.failures _)

/-- What a flow puts in place it also does when its value is changed. -/
theorem retype {c : Flow H α} (f : α → β) (hc : c.Upholds law d) : (c.retype f).Upholds law d :=
  fun env s w hs own => (hc env s w hs fun new h => own new (h.again f)).map f

/-- Looking at the state changes nothing. -/
theorem getState : (Flow.getState : Flow H H.State).Upholds law d :=
  fun _ _ w hs _ => .value w (.here hs.holds)

theorem liftState (f : H.State → Act H.World α) : (Flow.liftState f).Upholds law d :=
  fun _ s w hs _ => .endWithFirst (f s w) hs.holds

/-- Any state may be put only where the law asks nothing of states. -/
theorem putState (free : law.Free) (t : H.State) :
    (Flow.putState t : Flow H Unit).Upholds law d :=
  fun _ s w _ _ => .value w (free s [] t)

/-- Nor may the state be changed by any function. -/
theorem modifyState (free : law.Free) (f : H.State → Act H.World H.State) :
    (Flow.modifyState f : Flow H Unit).Upholds law d := by
  intro env s w hs _
  unfold Flow.modifyState
  split
  · exact .value _ (free s [] _)
  · exact .raise _ (.here hs.holds)

theorem ask : (Flow.ask : Flow H H.Env).Upholds law d :=
  fun _ _ w hs _ => .value w (.here hs.holds)

/-- Another environment is no part of the state. -/
theorem «local» {c : Flow H α} (f : H.Env → Act H.World H.Env) (hc : c.Upholds law d) :
    (Flow.local f c).Upholds law d := by
  intro env s w hs _
  unfold Flow.local
  split
  · exact .endWith (.here hs.holds) hs.clean hc
  · exact .raise _ (.here hs.holds)

/-- The configuration is replaced, which the law permits or which is not launched. -/
theorem initConfig (pairs : List (String × String)) :
    (Flow.initConfig pairs : Flow H Unit).Upholds law d := by
  intro env s w hs own
  -- the step puts the same in place as the one that is given what the pairs come to
  have hsame : (Flow.initConfig (Keyed.ofPairs pairs) : Flow H Unit) = Flow.initConfig pairs := by
    unfold Flow.initConfig
    rw [Keyed.ofPairs_ofPairs]
  have hown : (Flow.initConfig (Keyed.ofPairs pairs) : Flow H Unit).Retyped
      (Flow.initConfig pairs) := by
    rw [hsame]
    exact .here
  have hpermitted := own (.configuration (Keyed.ofPairs pairs)) hown
  exact .value w ((Host.Law.Allows.here hs.holds).change (.configuration s hpermitted))

/-- The settings are replaced, which the law permits or which is not launched. -/
theorem initSettings (settings : Settings H.Sinks) :
    (Flow.initSettings settings : Flow H Unit).Upholds law d :=
  fun _ s w hs own =>
    .value w ((Host.Law.Allows.here hs.holds).change (.settings s (own (.settings settings) .here)))

theorem lift (code : Act H.World (Reply H.World α)) : (Flow.lift code).Upholds law d :=
  fun _ _ _ hs _ => .outside fun r w' => .endWithFirst (r, w') hs.holds

/-- What the scope publishes comes after the scope itself. -/
theorem context (hsinks : law.Forgiving ∨ H.Quiet) {c : Flow H α} (label : String)
    (hc : c.Upholds law d) : (Flow.context label c).Upholds law d := by
  intro env s w hs _
  refine .announce hsinks hs.holds fun w' => ?_
  refine .run ⟨law.enter label hs.holds, hs.clean⟩ hc fun o w'' more ho => ?_
  obtain ⟨hholds, hrelates⟩ := law.leave label hs.holds ho.holds ho.relates
  exact .update w'' ⟨hholds, hrelates⟩

/-- Inside, the state is muted; the law that muting is allowed under must permit that. -/
theorem mute (allowed : k.muting = true) {c : Flow H α} (hc : c.Upholds law d) :
    (Flow.mute c).Upholds law d := by
  intro env s w hs _
  refine .run ⟨law.mute allowed hs.holds, hs.clean⟩ hc fun o w' more ho => ?_
  obtain ⟨hholds, hrelates⟩ := law.unmute allowed hs.holds ho.holds ho.relates
  exact .update w' ⟨hholds, hrelates⟩

/-- Looking a key up changes nothing, and a missing key fails. -/
theorem config (hsinks : law.Forgiving ∨ H.Quiet) (key : String) :
    (Flow.config key : Flow H String).Upholds law d := by
  intro env s w hs _
  unfold Flow.config
  split
  · exact .value w (.here hs.holds)
  · exact .endWith (.here hs.holds) hs.clean (fail hsinks _)

/-- The state is that of the start whether the call throws or not; its failure is written first. -/
theorem tryEffect (hsinks : law.Forgiving ∨ H.Quiet) (e : Effect H (Reply H.World α))
    (label : Thrown → Act H.World String) : (Flow.tryEffect e label).Upholds law d := by
  intro env s w hs _
  refine .outside fun r w' => ?_
  cases r with
  | ok a => exact .value w' (.here hs.holds)
  | error thrown =>
    dsimp only
    split
    · exact .raise _ (.here hs.holds)
    · exact .endWith (.here hs.holds) hs.clean (fail hsinks _)

/-! ### Batches -/

/-- By induction on the items, with the records of those that have been run. -/
theorem sequenceFrom {items : List (Flow H α)} (h : ∀ c ∈ items, c.Upholds law d) (env : H.Env)
    (gathered : List α) {s start : H.State} {told : List LogRecord}
    (hs : law.Allows start told s) (hclean : law.strict → s.failures = []) (w : H.World) :
    (Flow.sequenceFrom env gathered items s w).Upholds law d told start := by
  induction items generalizing gathered s told w with
  | nil => exact .value w hs
  | cons c items ih =>
    obtain ⟨hc, hitems⟩ := List.forall_mem_cons.mp h
    refine .step hs hclean hc fun o w' told' ho => ?_
    cases o with
    | faulted v t ht => exact .finish w' ho
    | success a t ht => exact ih hitems (a :: gathered) ho (fun _ => ht) w'

theorem sequence {items : List (Flow H α)} (h : ∀ c ∈ items, c.Upholds law d) :
    (Flow.sequence items).Upholds law d :=
  fun env _ w hs _ => sequenceFrom h env [] (.here hs.holds) hs.clean w

/-- An item may fail: the next one starts from the state that is left without its failures. -/
theorem collectFrom {items : List (Flow H α)} (h : ∀ c ∈ items, c.Upholds law d) (env : H.Env)
    (gathered : List (Option α)) (failed : List Failure) {s start : H.State}
    {told : List LogRecord} (hs : law.Allows start told s)
    (hclean : law.strict → s.failures = []) (w : H.World) :
    (Flow.collectFrom env gathered failed items s w).Upholds law d told start := by
  induction items generalizing gathered failed s told w with
  | nil =>
    refine .finish w ?_
    cases failed with
    | nil =>
      show law.Allows start told (Outcome.of gathered.reverse s).state
      rwa [Outcome.state_of]
    | cons f fs => exact hs.failures _
  | cons c items ih =>
    obtain ⟨hc, hitems⟩ := List.forall_mem_cons.mp h
    exact .step hs hclean hc fun o w' told' ho =>
      ih hitems _ _ (ho.failures []) (fun _ => rfl) w'

theorem collect {items : List (Flow H α)} (h : ∀ c ∈ items, c.Upholds law d) :
    (Flow.collect items).Upholds law d :=
  fun env _ w hs _ => collectFrom h env [] [] (.here hs.holds) hs.clean w

/-! ### Resources and time -/

/-- What a resource is released with may throw: that is a failure of the state that is left. -/
theorem use (resource : β) (release : β → Act H.World (Reply H.World Unit))
    {f : β → Act H.World (Flow H α)}
    (hf : ∀ w c w', f resource w = (.ok c, w') → c.Upholds law d) :
    (Flow.use resource release f).Upholds law d := by
  intro env s w hs _
  have hbody : (madeOrFailed (f resource w).1).Upholds law d := by
    rcases hmade : f resource w with ⟨e | c, w'⟩
    · exact failure _ []
    · exact hf w c w' hmade
  refine .step (.here hs.holds) hs.clean hbody fun o w' told ho => .outside fun r w'' => ?_
  cases r with
  | ok u => exact .finish w'' ho
  | error e => exact .finish w'' (ho.failures _)

/-- Looking the session up changes nothing. -/
theorem session : (Flow.session : Flow H H.Session).Upholds law d := by
  intro env s w hs _
  unfold Flow.session
  split
  · exact .value w (.here hs.holds)
  · exact .finish w ((Host.Law.Allows.here hs.holds).failures _)

/-- The session is replaced on the way in and on the way out. -/
theorem withSession {c : Flow H α} (handle : H.Session) (hc : c.Upholds law d) :
    (Flow.withSession handle c).Upholds law d := by
  intro env s w hs _
  refine .run ⟨law.lend handle hs.holds, hs.clean⟩ hc fun o w' more ho => ?_
  obtain ⟨hholds, hrelates⟩ := law.giveBack handle hs.holds ho.holds ho.relates
  have hended : ∀ w'' : H.World,
      (Program.finish (o.update (·.withSession s.session) (by intro t; rfl)) w'').Upholds law d
        more s :=
    fun w'' => .update w'' ⟨hholds, hrelates⟩
  dsimp only
  split
  · refine .outside fun r w'' => ?_
    cases r with
    | ok u => exact hended w''
    | error e => exact .complain fun _ w₃ => hended w₃
  · exact hended w'

/-- With sinks that do not throw, a line is written and nothing fails. -/
theorem failures_write (quiet : H.Quiet) (kind : LogKind) (message : String) (env : H.Env)
    {s : H.State} (hs : s.failures = []) (w : H.World) :
    ((Flow.write kind message env s w).history d s).outcome.state.failures = [] := by
  refine (Program.Keeps.announce_quiet (E := fun _ => True)
    (Q := fun o => o.state.failures = []) quiet (fun _ _ _ _ => trivial) (fun _ _ _ => trivial)
    fun w' => .finish w' ?_).outcome
  rw [Outcome.state_of]
  exact hs

/-- The flow runs from the state that the first line left, whatever became of that line. -/
theorem stopwatch (hsinks : law.Forgiving ∨ H.Quiet) (hquiet : law.strict → H.Quiet)
    {c : Flow H α} (hc : c.Upholds law d) : (Flow.stopwatch c).Upholds law d := by
  intro env s w hs _
  refine .runWith (R := fun o => law.strict → o.state.failures = []) hs (write hsinks .info _)
    (fun strict => failures_write (hquiet strict) .info _ env (hs.clean strict) w)
    fun started w' told hclean hstarted => ?_
  refine .step hstarted hclean hc fun o w'' told' ho => ?_
  cases o with
  | faulted v t h => exact .finish w'' ho
  | success a t h =>
    exact .step ho (fun _ => h) (write hsinks .info _) fun stopped w₃ told'' hstopped =>
      .value w₃ hstopped

theorem pause (interval : Span) : (Flow.pause interval : Flow H Unit).Upholds law d :=
  fun _ _ _ hs _ => .sleep (.endWithFirst _ hs.holds)

/-! ### Loops -/

/-- What is left of a wait at its end: the state that it was started from, and a failure. -/
theorem giveUp (hsinks : law.Forgiving ∨ H.Quiet) (watch : Watch H α) (timeout elapsed : Rat)
    (attempts : Nat) (last : α) (env : H.Env) {s : H.State} {told : List LogRecord}
    (hs : law.Allows s told s) (hclean : law.strict → s.failures = []) (w : H.World) :
    (Flow.giveUp watch timeout elapsed attempts last env s w).Upholds law d told s := by
  refine .complain fun _ w' => ?_
  split
  · exact .raise _ hs
  · exact .endWith hs hclean (fail hsinks _)

/-- Each attempt starts from the state of the first one: what the attempt before did is undone. -/
theorem look (forgiving : law.Forgiving) {c : Flow H α} (hc : c.Upholds law d)
    (watch : Watch H α) (interval timeout began : Rat) (env : H.Env) {s : H.State}
    (hs : law.Starts s) (left done : Nat) (told : List LogRecord) (w : H.World) :
    (Flow.look c watch interval timeout began env s left done w).Upholds law d told s := by
  induction left using Nat.strongRecOn generalizing done told w with
  | ind left ih =>
    unfold Flow.look
    refine .step (.back forgiving hs.holds) hs.clean hc fun o w' told' ho => ?_
    have hback : law.Allows s told' s := .back forgiving hs.holds
    cases o with
    | faulted v t h => exact .finish w' ho
    | success a t h =>
      dsimp only
      split
      · exact .raise _ hback
      · exact .finish _ ho
      · split
        · exact giveUp (.inl forgiving) watch _ _ _ a env hback hs.clean _
        · cases left with
          | zero => exact .raise _ hback
          | succ left =>
            refine .sleep ?_
            split
            · exact .raise _ hback
            · exact ih left (Nat.lt_succ_self left) (done + 1) told' _

theorem waitUntil (forgiving : law.Forgiving) {c : Flow H α} (hc : c.Upholds law d)
    (watch : Watch H α) (interval wait : Option Span) :
    (Flow.waitUntil c watch interval wait).Upholds law d :=
  fun env _ w hs _ => look forgiving hc watch _ _ _ env hs _ 0 [] w

theorem settle {c : Flow H (Except Failure α)} (hc : c.Upholds law d) :
    (Flow.settle c).Upholds law d := by
  intro env s w hs _
  refine .step (.here hs.holds) hs.clean hc fun o w' told ho => ?_
  split
  · exact .finish w' ho
  · exact .value w' ho
  · exact .finish w' (ho.failures _)

/-- A wait goes back to the state that it was started from, whatever the attempt has told. -/
theorem attempt (forgiving : law.Forgiving) {c : Flow H α} (hc : c.Upholds law d) :
    (Flow.attempt c).Upholds law d := by
  refine orElseWith forgiving (map hc (.inl forgiving)) fun fs w c' w' h => ?_
  cases h
  exact pure _

theorem waitUntilSucceeds (forgiving : law.Forgiving) {c : Flow H α} (hc : c.Upholds law d)
    (interval wait : Option Span) (label : String) :
    (Flow.waitUntilSucceeds c interval wait label).Upholds law d :=
  settle (waitUntil forgiving (attempt forgiving hc) _ interval wait)

/-- By induction on the repeats that are left; each goes on from the state of the last. -/
theorem repeatWhile {c : Flow H α} (hc : c.Upholds law d) {continueIf : α → Act H.World Bool}
    (hthrow : law.Forgiving ∨ ∀ a, (continueIf a).Calm) (env : H.Env) (left : Nat)
    (value : Option α) {s start : H.State} {told : List LogRecord} (hstart : law.holds start)
    (hs : law.Allows start told s) (hclean : law.strict → s.failures = []) (w : H.World) :
    (Flow.repeatWhile c continueIf env left value s w).Upholds law d told start := by
  induction left generalizing value s told w with
  | zero => exact .value w hs
  | succ left ih =>
    refine .step hs hclean hc fun o w' told' ho => ?_
    cases o with
    | faulted v t h => exact .finish w' ho
    | success a t h =>
      dsimp only
      split
      next e w'' hthrown => exact .thrown (hthrow.imp_right (· a)) hthrown hstart
      next w'' hdone => exact .value w'' ho
      next w'' hmore => exact ih (some a) ho (fun _ => h) w''

theorem doWhile {c : Flow H α} (hc : c.Upholds law d) {continueIf : α → Act H.World Bool}
    (hthrow : law.Forgiving ∨ ∀ a, (continueIf a).Calm) (maxRepeats : Int) :
    (Flow.doWhile c continueIf maxRepeats).Upholds law d :=
  fun env _ w hs _ => repeatWhile hc hthrow env _ none hs.holds (.here hs.holds) hs.clean w

/-- By induction on the attempts that are left; the pause between two of them may throw, too. -/
theorem repeatOrFail (hsinks : law.Forgiving ∨ H.Quiet) (hsleep : law.Forgiving ∨ d.Steady)
    {c : Flow H α} (hc : c.Upholds law d) {continueIf : α → Act H.World Bool}
    (hthrow : law.Forgiving ∨ ∀ a, (continueIf a).Calm) (again : Option Rat) (message : String)
    (env : H.Env) (left : Nat) {s start : H.State} {told : List LogRecord}
    (hstart : law.holds start) (hs : law.Allows start told s)
    (hclean : law.strict → s.failures = []) (w : H.World) :
    (Flow.repeatOrFail c continueIf again message env left s w).Upholds law d told start := by
  induction left generalizing s told w with
  | zero => exact .endWith hs hclean (fail hsinks _)
  | succ left ih =>
    rw [Flow.repeatOrFail]
    refine .step hs hclean hc fun o w' told' ho => ?_
    cases o with
    | faulted v t h => exact .finish w' ho
    | success a t h =>
      dsimp only
      split
      next e w'' hthrown => exact .thrown (hthrow.imp_right (· a)) hthrown hstart
      next w'' hdone => exact .finish w'' ho
      next w'' hmore =>
        split
        · exact .endWith ho (fun _ => h) (fail hsinks _)
        · exact ih ho (fun _ => h) w''
        · -- only a pause that throws leads back to the start of the loop
          refine .sleep ?_
          split
          next e hslept =>
            rcases hsleep with forgiving | steady
            · exact .raise _ (.back forgiving hstart)
            · obtain ⟨v, hv⟩ := steady _ w''
              rw [hv] at hslept
              cases hslept
          next hslept => exact ih ho (fun _ => h) _

theorem doWhileOrFail (hsinks : law.Forgiving ∨ H.Quiet) (hsleep : law.Forgiving ∨ d.Steady)
    {c : Flow H α} (hc : c.Upholds law d) {continueIf : α → Act H.World Bool}
    (hthrow : law.Forgiving ∨ ∀ a, (continueIf a).Calm) (maxAttempts : Int)
    (interval : Option Span) (message : String) :
    (Flow.doWhileOrFail c continueIf maxAttempts interval message).Upholds law d :=
  fun env _ w hs _ =>
    repeatOrFail hsinks hsleep hc hthrow _ message env _ hs.holds (.here hs.holds) hs.clean w

/-! ### Lists of steps -/

/-- A body that throws fails from the state after its last step; only closing it may lead back. -/
theorem followBody (env : H.Env) {b : Body H α} (hclose : law.Forgiving ∨ b.ClosesCalmly)
    (h : ∀ {γ : Type} (c : Flow H γ), b.Offers c → c.Upholds law d) {s start : H.State}
    {told : List LogRecord} (hstart : law.holds start) (hs : law.Allows start told s)
    (hclean : law.strict → s.failures = []) :
    (Flow.followBody env b s).Upholds law d told start := by
  induction b generalizing s told with
  | returned a w => exact .value w hs
  | threw e w => exact .finish w (hs.failures _)
  | strays shown w close =>
    exact .closeWith (hclose.imp_right fun hcalm => hcalm) hstart (hs.failures _)
  | handsOut c w close resume ih =>
    rw [Flow.followBody]
    refine .step hs hclean (h c (.here c w close resume)) fun o w' told' ho => ?_
    cases o with
    | faulted v t ht => exact .closeWith (hclose.imp_right fun hcalm => hcalm.1) hstart ho
    | success a t ht =>
      exact ih a w' (hclose.imp_right fun hcalm => hcalm.2 a w')
        (fun c' hc' => h c' (.later a w' hc')) ho (fun _ => ht)

/-- The code of a flow makes a value, a flow or a body; a body may throw when it is closed. -/
theorem ofRecipe {code : Act H.World (Recipe H α)}
    (hclose : law.Forgiving ∨ ∀ w b w', code w = (.ok (.body b), w') → (b w').ClosesCalmly)
    (hflow : ∀ w c w', code w = (.ok (.flow c), w') → c.Upholds law d)
    (hbody : ∀ w b w', code w = (.ok (.body b), w') →
      ∀ {γ : Type} (c : Flow H γ), (b w').Offers c → c.Upholds law d) :
    (Flow.ofRecipe code).Upholds law d := by
  intro env s w hs _
  unfold Flow.ofRecipe
  split
  next e w' hcode => exact .raise w' (.here hs.holds)
  next a w' hcode => exact .value w' (.here hs.holds)
  next c w' hcode => exact .endWith (.here hs.holds) hs.clean (hflow w c w' hcode)
  next b w' hcode =>
    exact followBody env (hclose.imp_right (· w b w' hcode)) (hbody w b w' hcode) hs.holds
      (.here hs.holds) hs.clean

end Flow.Upholds

/-! ## Composed flows -/

namespace Flow

/-- Where everything may be put in place, a run is held to the law without further conditions. -/
theorem lawful_of_upholds {c : Flow H α} (hc : c.Upholds law d) (permits : ∀ new, law.permits new)
    (env : H.Env) {s : H.State} (hs : law.Starts s) (w : H.World) :
    (c env s w).Lawful law d [] s :=
  hc env s w hs (fun new _ => permits new) fun _ _ new _ => permits new

/-- By induction on how the flow is composed, with one case for each combinator. -/
theorem upholds_of_composed (forgiving : law.Forgiving) (hquiet : law.strict → H.Quiet)
    (keeping : k.replacing = false ∨ law.Free) {c : Flow H α} (hc : c.Composed k) :
    c.Upholds law d := by
  induction hc with
  | pure a => exact .pure a
  | failure f fs => exact .failure f fs
  | throwing e => exact .throwing e
  | bind hc hf ih ihf => exact .bind ih (.inl forgiving) ihf
  | map f hc ih => exact .map ih (.inl forgiving)
  | orElseWith allowed hc hf ih ihf => exact .orElseWith forgiving ih ihf
  | bimap onSuccess onFailure hc ih => exact .bimap ih (.inl forgiving) (.inl forgiving)
  | retype f hc ih => exact .retype f ih
  | getState allowed => exact .getState
  | liftState allowed f => exact .liftState f
  | putState allowed t =>
    exact .putState
      (keeping.resolve_left fun kept => Bool.false_ne_true (kept.symm.trans allowed)) t
  | modifyState allowed f =>
    exact .modifyState
      (keeping.resolve_left fun kept => Bool.false_ne_true (kept.symm.trans allowed)) f
  | ask => exact .ask
  | «local» f hc ih => exact .local f ih
  | initConfig configuration => exact .initConfig configuration
  | initSettings settings => exact .initSettings settings
  | defaultWait => exact .liftState _
  | defaultInterval => exact .liftState _
  | lift code => exact .lift code
  | write kind message => exact .write (.inl forgiving) kind message
  | context label hc ih => exact .context (.inl forgiving) label ih
  | mute allowed hc ih => exact .mute allowed ih
  | config key => exact .config (.inl forgiving) key
  | tryEffect e label => exact .tryEffect (.inl forgiving) e label
  | sequence h ih => exact .sequence ih
  | collect h ih => exact .collect ih
  | use resource release hf ih => exact .use resource release ih
  | session => exact .session
  | withSession handle hc ih => exact .withSession handle ih
  | stopwatch hc ih => exact .stopwatch (.inl forgiving) hquiet ih
  | pause interval => exact .pause interval
  | waitUntil allowed hc watch interval wait ih =>
    exact .waitUntil forgiving ih watch interval wait
  | waitUntilSucceeds _ _ hc interval wait label ih =>
    exact .waitUntilSucceeds forgiving ih interval wait label
  | doWhile hc continueIf maxRepeats ih => exact .doWhile ih (.inl forgiving) maxRepeats
  | doWhileOrFail hc continueIf maxAttempts interval message ih =>
    exact .doWhileOrFail (.inl forgiving) (.inl forgiving) ih (.inl forgiving) maxAttempts
      interval message
  | ofRecipe hflow hbody ihflow ihbody => exact .ofRecipe (.inl forgiving) ihflow ihbody

end Flow

end Walkthrough
