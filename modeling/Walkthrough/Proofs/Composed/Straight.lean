import Walkthrough.Proofs.Composed.Derived
import Walkthrough.Proofs.Run.Upholds

/-!
# Flows that never go back

A run goes back to an earlier state where an alternative or a new try starts, and where a step
throws after it has done something. `Flow.Straight` singles out the composed flows in which nothing
of this happens: they are built without alternatives and new tries, and the functions that they are
built from do not throw. They may fail, and call outside code that throws: that is caught, or ends a
step that has done nothing yet. They neither mute the log nor replace the state of the run.

Such flows keep to every law, forgiving or not (`Flow.upholds_of_straight`), when the sinks and the
pauses do not throw either. Searches without waits, actions and assertions are straight.
-/

namespace Walkthrough

variable {H : Host} {α β : Type} {k : Kit}

namespace Flow

/-- The flow is built from combinators that go on from the state the step before left, with
functions that do not throw. -/
inductive Straight : {α : Type} → Flow H α → Prop where
  | pure {α : Type} (a : α) : Straight (pure a)
  | failure {α : Type} (f : Failure) (fs : List Failure) : Straight (failure f fs : Flow H α)
  /-- Something that cannot be run, where a flow is expected. -/
  | throwing {α : Type} (e : Thrown) : Straight (throwing e : Flow H α)
  | bind {α β : Type} {c : Flow H α} {f : α → Act H.World (Flow H β)} (hc : Straight c)
      (calm : ∀ a, (f a).Calm) (hf : ∀ a w d w', f a w = (.ok d, w') → Straight d) :
      Straight (c.bind f)
  | map {α β : Type} {c : Flow H α} {f : α → Act H.World β} (hc : Straight c)
      (calm : ∀ a, (f a).Calm) : Straight (c.map f)
  | bimap {α β : Type} {c : Flow H α} {onSuccess : α → Act H.World β}
      {onFailure : List Failure → Act H.World (List Failure)} (hc : Straight c)
      (calm : ∀ a, (onSuccess a).Calm) (calmFailure : ∀ fs, (onFailure fs).Calm) :
      Straight (c.bimap onSuccess onFailure)
  | retype {α β : Type} {c : Flow H α} (f : α → β) (hc : Straight c) : Straight (c.retype f)
  | getState : Straight getState
  | liftState {α : Type} (f : H.State → Act H.World α) : Straight (liftState f)
  | ask : Straight ask
  | «local» {α : Type} {c : Flow H α} (f : H.Env → Act H.World H.Env) (hc : Straight c) :
      Straight («local» f c)
  | initConfig (configuration : List (String × String)) : Straight (initConfig configuration)
  | initSettings (settings : Settings H.Sinks) : Straight (initSettings settings)
  | lift {α : Type} (code : Act H.World (Reply H.World α)) : Straight (lift code)
  | write (kind : LogKind) (message : String) : Straight (write kind message)
  | context {α : Type} {c : Flow H α} (label : String) (hc : Straight c) :
      Straight (context label c)
  | config (key : String) : Straight (config key)
  | tryEffect {α : Type} (e : Effect H (Reply H.World α)) (label : Thrown → Act H.World String) :
      Straight (tryEffect e label)
  | sequence {α : Type} {items : List (Flow H α)} (h : ∀ c ∈ items, Straight c) :
      Straight (sequence items)
  | collect {α : Type} {items : List (Flow H α)} (h : ∀ c ∈ items, Straight c) :
      Straight (collect items)
  | use {α β : Type} (resource : β) (release : β → Act H.World (Reply H.World Unit))
      {f : β → Act H.World (Flow H α)}
      (hf : ∀ w d w', f resource w = (.ok d, w') → Straight d) :
      Straight (use resource release f)
  | session : Straight session
  | withSession {α : Type} {c : Flow H α} (handle : H.Session) (hc : Straight c) :
      Straight (withSession handle c)
  | stopwatch {α : Type} {c : Flow H α} (hc : Straight c) : Straight (stopwatch c)
  | pause (interval : Span) : Straight (pause interval)
  | doWhile {α : Type} {c : Flow H α} (hc : Straight c) {continueIf : α → Act H.World Bool}
      (calm : ∀ a, (continueIf a).Calm) (maxRepeats : Int) :
      Straight (doWhile c continueIf maxRepeats)
  | doWhileOrFail {α : Type} {c : Flow H α} (hc : Straight c)
      {continueIf : α → Act H.World Bool} (calm : ∀ a, (continueIf a).Calm) (maxAttempts : Int)
      (interval : Option Span) (message : String) :
      Straight (doWhileOrFail c continueIf maxAttempts interval message)
  | ofRecipe {α : Type} {code : Act H.World (Recipe H α)}
      (calm : ∀ w b w', code w = (.ok (.body b), w') → (b w').ClosesCalmly)
      (hflow : ∀ w c w', code w = (.ok (.flow c), w') → Straight c)
      (hbody : ∀ w b w', code w = (.ok (.body b), w') →
        ∀ {β : Type} (c : Flow H β), (b w').Offers c → Straight c) :
      Straight (ofRecipe code)

/-- Straight flows are composed, without alternatives, new tries, muting and other states. -/
theorem Straight.composed {c : Flow H α} (hc : c.Straight) :
    c.Composed
      { alternation := false, retrying := false, muting := false, replacing := false } := by
  induction hc with
  | pure a => exact .pure a
  | failure f fs => exact .failure f fs
  | throwing e => exact .throwing e
  | bind hc calm hf ih ihf => exact .bind ih ihf
  | map hc calm ih => exact .map _ ih
  | bimap hc calm calmFailure ih => exact .bimap _ _ ih
  | retype f hc ih => exact .retype f ih
  | getState => exact .getState rfl
  | liftState f => exact .liftState rfl f
  | ask => exact .ask
  | «local» f hc ih => exact .local f ih
  | initConfig configuration => exact .initConfig configuration
  | initSettings settings => exact .initSettings settings
  | lift code => exact .lift code
  | write kind message => exact .write kind message
  | context label hc ih => exact .context label ih
  | config key => exact .config key
  | tryEffect e label => exact .tryEffect e label
  | sequence h ih => exact .sequence ih
  | collect h ih => exact .collect ih
  | use resource release hf ih => exact .use resource release ih
  | session => exact .session
  | withSession handle hc ih => exact .withSession handle ih
  | stopwatch hc ih => exact .stopwatch ih
  | pause interval => exact .pause interval
  | doWhile hc calm maxRepeats ih => exact .doWhile ih _ maxRepeats
  | doWhileOrFail hc calm maxAttempts interval message ih =>
    exact .doWhileOrFail ih _ maxAttempts interval message
  | ofRecipe calm hflow hbody ihflow ihbody => exact .ofRecipe ihflow ihbody

/-- By induction on how the flow is composed. Only here is it used that its functions do not throw:
no case has to go back. -/
theorem upholds_of_straight (quiet : H.Quiet) {d : Driver H} (steady : d.Steady)
    {c : Flow H α} (hc : c.Straight) (law : H.Law k) : c.Upholds law d := by
  induction hc with
  | pure a => exact .pure a
  | failure f fs => exact .failure f fs
  | throwing e => exact .throwing e
  | bind hc calm hf ih ihf => exact .bind ih (.inr calm) ihf
  | map hc calm ih => exact .map ih (.inr calm)
  | bimap hc calm calmFailure ih => exact .bimap ih (.inr calm) (.inr calmFailure)
  | retype f hc ih => exact .retype f ih
  | getState => exact .getState
  | liftState f => exact .liftState f
  | ask => exact .ask
  | «local» f hc ih => exact .local f ih
  | initConfig configuration => exact .initConfig configuration
  | initSettings settings => exact .initSettings settings
  | lift code => exact .lift code
  | write kind message => exact .write (.inr quiet) kind message
  | context label hc ih => exact .context (.inr quiet) label ih
  | config key => exact .config (.inr quiet) key
  | tryEffect e label => exact .tryEffect (.inr quiet) e label
  | sequence h ih => exact .sequence ih
  | collect h ih => exact .collect ih
  | use resource release hf ih => exact .use resource release ih
  | session => exact .session
  | withSession handle hc ih => exact .withSession handle ih
  | stopwatch hc ih => exact .stopwatch (.inr quiet) (fun _ => quiet) ih
  | pause interval => exact .pause interval
  | doWhile hc calm maxRepeats ih => exact .doWhile ih (.inr calm) maxRepeats
  | doWhileOrFail hc calm maxAttempts interval message ih =>
    exact .doWhileOrFail (.inr quiet) (.inr steady) ih (.inr calm) maxAttempts interval message
  | ofRecipe calm hflow hbody ihflow ihbody => exact .ofRecipe (.inr calm) ihflow ihbody

end Flow

/-! ## What the library builds -/

namespace Flow.Straight

theorem defaultWait : (Flow.defaultWait : Flow H _).Straight := liftState _

theorem defaultInterval : (Flow.defaultInterval : Flow H _).Straight := liftState _

/-- What follows may depend on the value, but is made without calling a function that throws. -/
theorem bindOk {c : Flow H α} {f : α → Flow H β} (hc : c.Straight) (hf : ∀ a, (f a).Straight) :
    (c.bind fun a => .ok (f a)).Straight := by
  refine bind hc (fun a => Act.calm_ok (f a)) fun a w d w' h => ?_
  cases h
  exact hf a

theorem mapOk {c : Flow H α} (hc : c.Straight) (f : α → β) :
    (c.map fun a => .ok (f a)).Straight :=
  map hc fun a => Act.calm_ok (f a)

theorem andThen {c : Flow H α} {d : Flow H β} (hc : c.Straight) (hd : d.Straight) :
    (c.andThen d).Straight :=
  bindOk hc fun _ => hd

theorem mapFail {c : Flow H α} {f : List Failure → Act H.World (List Failure)} (hc : c.Straight)
    (calm : ∀ fs, (f fs).Calm) : (c.mapFail f).Straight :=
  bimap hc Act.calm_ok calm

theorem fail (f : Failure) : (Flow.fail f : Flow H α).Straight :=
  andThen (write .error f.message) (failure f [])

theorem require (value : Option α) (label : String) :
    (Flow.require value label : Flow H α).Straight := by
  cases value with
  | some a => exact pure a
  | none => exact fail _

theorem callSession (label : String) (command : Command H.Element H.Datum α) :
    (Flow.callSession label command : Flow H α).Straight :=
  bindOk session fun _ => tryEffect _ _

theorem forEach {values : List β} {f : β → Flow H α} (hf : ∀ b ∈ values, (f b).Straight) :
    (Flow.forEach values f).Straight := by
  refine sequence fun c hc => ?_
  obtain ⟨b, hb, rfl⟩ := List.mem_map.mp hc
  exact hf b hb

theorem ofBody {body : H.World → Body H α} (calm : ∀ w, (body w).ClosesCalmly)
    (h : ∀ w {γ : Type} (c : Flow H γ), (body w).Offers c → c.Straight) :
    (Flow.ofBody body).Straight := by
  have hrecipe : (Flow.ofRecipe (.ok (.body body))).Straight := by
    refine ofRecipe (fun w b w' hcode => ?_) (fun w c w' hcode => nomatch hcode)
      fun w b w' hcode => ?_
    · cases hcode
      exact calm w
    · cases hcode
      exact h w
  exact hrecipe

end Flow.Straight

/-! ### Searches without waits -/

/-- The code of a custom condition makes straight flows, and does not throw. -/
def Condition.Straight (condition : Condition H) : Prop :=
  ∀ found, (condition.check found).Calm ∧
    ∀ w c w', condition.check found w = (.ok c, w') → c.Straight

/-- The step is no wait, which tries the steps before it again. -/
def Step.Straight : Step H → Prop
  | .query _ => True
  | .filter condition _ => condition.Straight
  | .waitFor .. => False
  | .pick _ => True

/-- The selector has no wait. -/
def Selector.Straight (a : Selector H) : Prop := ∀ step ∈ a.steps, step.Straight

namespace Step

theorem straight_lookUpInsideAll (criterion : Criterion) (found : List H.Element) :
    (lookUpInsideAll criterion found).Straight := by
  unfold lookUpInsideAll
  split
  · exact .pure []
  · refine .mapOk (.sequence fun c hc => ?_) _
    obtain ⟨element, -, rfl⟩ := List.mem_map.mp hc
    exact .callSession _ _

theorem straight_pickFrom (index : Int) (found : List H.Element) :
    (pickFrom index found).Straight := by
  unfold pickFrom
  dsimp only
  split
  · exact .fail _
  · split
    · exact .pure _
    · exact .fail _

theorem straight_compile {step : Step H} {before : Option (Flow H (List H.Element))}
    (hstep : step.Straight) (hbefore : ∀ c, before = some c → c.Straight) :
    (step.compile before).Straight := by
  cases before with
  | none =>
    cases step with
    | query criterion => exact .callSession _ _
    | filter condition description => exact .fail _
    | waitFor condition description interval wait => exact .fail _
    | pick index => exact .fail _
  | some c =>
    have hc := hbefore c rfl
    cases step with
    | query criterion => exact .bindOk hc (straight_lookUpInsideAll criterion)
    | filter condition description =>
      refine .bind hc (fun found => (hstep found).1.map _) fun found w d w' h => ?_
      obtain ⟨verdict, hverdict, rfl⟩ := Act.map_eq_ok h
      exact .andThen ((hstep found).2 w verdict w' hverdict) (.pure found)
    | waitFor condition description interval wait => exact hstep.elim
    | pick index => exact .bindOk hc (straight_pickFrom index)

end Step

namespace Selector

variable {a : Selector H}

theorem straight_compileSteps {steps : List (Step H)} (hsteps : ∀ step ∈ steps, step.Straight)
    {before : Option (Flow H (List H.Element))} (hbefore : ∀ c, before = some c → c.Straight)
    (c : Flow H (List H.Element)) (h : compileSteps before steps = some c) : c.Straight := by
  induction steps generalizing before with
  | nil => exact hbefore c h
  | cons step steps ih =>
    obtain ⟨hstep, hsteps⟩ := List.forall_mem_cons.mp hsteps
    have hnext : ∀ d, some (step.compile before) = some d → d.Straight := by
      intro d hd
      cases hd
      exact Step.straight_compile hstep hbefore
    exact ih hsteps hnext h

theorem straight_findAll (ha : a.Straight) : a.findAll.Straight := by
  unfold findAll compile
  rcases hsteps : compileSteps none a.steps with _ | c
  · exact .callSession _ _
  · have hbefore : ∀ d, (none : Option (Flow H (List H.Element))) = some d → d.Straight :=
      fun d h => nomatch h
    exact straight_compileSteps ha hbefore c hsteps

theorem straight_findOne (ha : a.Straight) : a.findOne.Straight := by
  refine .bindOk (straight_findAll ha) fun found => ?_
  split
  · exact .fail _
  · exact .pure _
  · exact .fail _

end Selector

/-! ### Actions and assertions -/

theorem Action.straight_announced (line label : String) (command : Command H.Element H.Datum α) :
    (Action.announced line label command : Flow H α).Straight :=
  .andThen (.write .info line) (.callSession label command)

theorem Action.straight_onElement {a : Selector H} (ha : a.Straight) (label : String)
    (command : H.Element → Command H.Element H.Datum α) :
    (Action.onElement a label command).Straight :=
  .bindOk (Selector.straight_findOne ha) fun _ => .callSession _ _

theorem Action.straight_announcedOn {a : Selector H} (ha : a.Straight) (line label : String)
    (command : H.Element → Command H.Element H.Datum α) :
    (Action.announcedOn a line label command).Straight :=
  .andThen (.write .info line) (Action.straight_onElement ha label command)

theorem Assertion.straight_assertThat {fact : Flow H Bool} (hfact : fact.Straight)
    (label : String) : (Assertion.assertThat fact label).Straight := by
  refine .bindOk hfact fun holds => ?_
  split
  · exact .write .info _
  · exact .fail _

end Walkthrough
