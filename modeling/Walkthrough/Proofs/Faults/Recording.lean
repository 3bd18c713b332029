import Walkthrough.Proofs.Composed.Basic
import Walkthrough.Proofs.Run.Law
import Walkthrough.Proofs.Run.Trace

/-!
# Where failures are recorded

A failure is recorded by one step of a run, with the path that it carries then; every scope that is
left later puts its label in front. `Flow.Records` says which failures a step itself records, as
opposed to those that come out of the steps that it runs, among the steps that there are in a run
(`Flow.steps`). Both follow the run, so a failure that could be recorded but was not is none.

`Program.Traces` says along a program that the failures of its outcome are recorded failures seen
from outside of the scopes that were left since (`Failure.Placed`), provided that no step was
started in a faulted state: the failures that such a step finds were recorded elsewhere, but get the
labels of the scopes that it leaves. There is one rule for each kind of request.
-/

namespace Walkthrough

variable {H : Host} {α β : Type}

/-! ## Failures and their members -/

namespace Failure

mutual

/-- The failure itself and, if failures of a batch are folded in it, these with all their parts. -/
def parts : Failure → List Failure
  | single kind message breadcrumb cause => [single kind message breadcrumb cause]
  | composite members breadcrumb cause => composite members breadcrumb cause :: allParts members
  | group members breadcrumb => [group members breadcrumb]

/-- The parts of several failures. -/
def allParts : List Failure → List Failure
  | [] => []
  | f :: fs => parts f ++ allParts fs

end

/-- The parts of several failures are those of each, one after the other. -/
theorem allParts_eq_flatMap (fs : List Failure) : allParts fs = fs.flatMap parts := by
  induction fs with
  | nil => rfl
  | cons f fs ih => rw [allParts, ih, List.flatMap_cons]

/-- The parts of two lists of failures stand side by side. -/
theorem allParts_append (fs gs : List Failure) :
    allParts (fs ++ gs) = allParts fs ++ allParts gs := by
  rw [allParts_eq_flatMap, allParts_eq_flatMap, allParts_eq_flatMap, List.flatMap_append]

/-- The parts of a single failure, as those of a list. -/
theorem allParts_singleton (f : Failure) : allParts [f] = f.parts := List.append_nil _

mutual

/-- A scope gives its label to every part. -/
theorem parts_within (label : String) : ∀ f : Failure,
    (f.within label).parts = f.parts.map (within label)
  | single kind message breadcrumb cause => rfl
  | composite members breadcrumb cause => by
    have hmembers := allParts_allWithin label members
    rw [within, parts, parts, List.map_cons, hmembers]
    rfl
  | group members breadcrumb => rfl

/-- A label goes into every part. -/
theorem allParts_allWithin (label : String) : ∀ fs : List Failure,
    allParts (allWithin label fs) = (allParts fs).map (within label)
  | [] => rfl
  | f :: fs => by
    rw [allWithin, allParts, allParts, List.map_append, parts_within label f,
      allParts_allWithin label fs]

end

/-- The failure as it is seen from outside of scopes with these labels, outermost first. -/
def inScopes (labels : List String) (f : Failure) : Failure := labels.foldr within f

/-- The labels of the scopes around stand in front of the path that a failure has already. -/
theorem breadcrumb_inScopes (labels : List String) (f : Failure) :
    (f.inScopes labels).breadcrumb = labels ++ f.breadcrumb := by
  induction labels with
  | nil => rfl
  | cons label labels ih =>
    show ((f.inScopes labels).within label).breadcrumb = _
    rw [breadcrumb_within, ih, List.cons_append]

/-- Scopes do not change the kind of a failure. -/
theorem kindName_inScopes (labels : List String) (f : Failure) :
    (f.inScopes labels).kindName = f.kindName := by
  induction labels with
  | nil => rfl
  | cons label labels ih => exact (kindName_within label _).trans ih

/-- Nor what was raised to make it. -/
theorem cause_inScopes (labels : List String) (f : Failure) :
    (f.inScopes labels).cause = f.cause := by
  induction labels with
  | nil => rfl
  | cons label labels ih => exact (cause_within label _).trans ih

/-- The failure is one that was recorded in some scopes inside `labels`, seen from outside of
these. `S` says what was recorded in which scopes. -/
def Placed (S : List String → Failure → Prop) (labels : List String) (f : Failure) : Prop :=
  ∃ inner g, S (labels ++ inner) g ∧ f = g.inScopes inner

variable {S : List String → Failure → Prop} {labels : List String}

/-- A failure that is recorded in some scopes is placed there with an empty path. -/
theorem Placed.here {f : Failure} (h : S labels f) : f.Placed S labels :=
  ⟨[], f, by rwa [List.append_nil], rfl⟩

/-- Leaving a scope takes its label from the scopes and puts it on the path, so that the two
together stay what they were. -/
theorem Placed.within {f : Failure} {label : String} (h : f.Placed S (labels ++ [label])) :
    (f.within label).Placed S labels := by
  obtain ⟨inner, g, hg, rfl⟩ := h
  rw [List.append_assoc] at hg
  exact ⟨label :: inner, g, hg, rfl⟩

end Failure

/-- Inside the scopes `labels`, and with no failures but those that were recorded there or further
inside. -/
structure RunState.Stands {Session Sinks : Type} (S : List String → Failure → Prop)
    (labels : List String) (s : RunState Session Sinks) : Prop where
  scopes : s.scopes = labels
  placed : ∀ f ∈ Failure.allParts s.failures, f.Placed S labels

namespace RunState.Stands

variable {Session Sinks : Type} {S : List String → Failure → Prop} {labels : List String}
  {s t : RunState Session Sinks}

/-- Without failures only the scopes count. -/
theorem of_clean (hscopes : s.scopes = labels) (hclean : s.failures = []) : s.Stands S labels := by
  refine ⟨hscopes, fun f hf => ?_⟩
  rw [hclean] at hf
  exact absurd hf List.not_mem_nil

/-- The failures may be replaced by others that are in their places. -/
theorem withFailures (hs : s.Stands S labels) {fs : List Failure}
    (hfs : ∀ f ∈ Failure.allParts fs, f.Placed S labels) : (s.withFailures fs).Stands S labels :=
  ⟨hs.scopes, hfs⟩

/-- Failures may be added that are in their places. -/
theorem addFailures (hs : s.Stands S labels) {fs : List Failure}
    (hfs : ∀ f ∈ Failure.allParts fs, f.Placed S labels) :
    (s.addFailures fs).Stands S labels := by
  refine ⟨hs.scopes, fun f hf => ?_⟩
  rw [failures_addFailures, Failure.allParts_append] at hf
  rcases List.mem_append.mp hf with hold | hnew
  · exact hs.placed f hold
  · exact hfs f hnew

/-- Leaving a scope takes its label from the open ones and puts it in front of every path. -/
theorem leave {label : String} (hs : s.scopes = labels) (ht : t.Stands S (labels ++ [label])) :
    (s.leave label t).Stands S labels := by
  refine ⟨hs, fun f hf => ?_⟩
  have hparts : Failure.allParts (s.leave label t).failures =
      (Failure.allParts t.failures).map (Failure.within label) := by
    rw [← Failure.allParts_allWithin, Failure.allWithin_eq_map]
    rfl
  rw [hparts] at hf
  obtain ⟨g, hg, rfl⟩ := List.mem_map.mp hf
  exact (ht.placed g hg).within

end RunState.Stands

/-! ## How a step ends -/

namespace Program

/-- What the program throws in the end, if it throws. -/
def thrown? {α : Type} (d : Driver H) : Program H α → Option Thrown
  | finish _ _ => none
  | raise e _ => some e
  | run c env s w next =>
    let inner := history d (c env s w) s
    thrown? d (next inner.outcome inner.world)
  | effect e w next => thrown? d (next (H.perform e w).1 (H.perform e w).2)
  | sleep t w next => thrown? d (next (d.sleep t w).1 (d.sleep t w).2)
  | await code w next => thrown? d (next (d.await code w).1 (d.await code w).2)
  | unsupported shown _ => some (.fault (.unsupportedRequest shown))

/-- Changing the value of a program does not change what it throws. -/
theorem thrown?_map (d : Driver H) (f : α → β) (p : Program H α) :
    (p.map f).thrown? d = p.thrown? d := by
  induction p with
  | finish o w => rfl
  | raise e w => rfl
  | run c env s w next _ ih => exact ih _ _ f
  | effect e w next ih => exact ih _ _ f
  | sleep t w next ih => exact ih _ _ f
  | await code w next ih => exact ih _ _ f
  | unsupported shown w => rfl

end Program

/-- The body as it stands when its flow ends: behind the last flow that it handed out with
success. -/
def Body.last (d : Driver H) (env : H.Env) : Body H α → H.State → Body H α
  | .handsOut c w close resume, s =>
    match ((c env s w).history d s).outcome with
    | .success b t _ => last d env (resume b ((c env s w).history d s).world) t
    | .faulted .. => .handsOut c w close resume
  | .returned a w, _ => .returned a w
  | .threw e w, _ => .threw e w
  | .strays shown w close, _ => .strays shown w close

namespace Flow

/-- The step records the failure itself: it is none that comes out of a step that it runs. The path
of the failure is the one that it carries when it is recorded. -/
inductive Records (d : Driver H) :
    {α : Type} → Flow H α → H.Env → H.State → H.World → Failure → Prop where
  /-- A flow that fails records what it is given. -/
  | failed {α : Type} {f : Failure} {fs : List Failure} {env : H.Env} {s : H.State} {w : H.World}
      {g : Failure} (hg : g ∈ Failure.allParts (f :: fs)) :
      Records d (failure f fs : Flow H α) env s w g
  /-- What is thrown out of a step is recorded by that step. -/
  | thrown {α : Type} {c : Flow H α} {env : H.Env} {s : H.State} {w : H.World} {e : Thrown}
      {g : Failure} (he : (c env s w).thrown? d = some e)
      (hg : g ∈ (Failure.ofThrown e none).parts) :
      Records d c env s w g
  | sessionless {env : H.Env} {s : H.State} {w : H.World} (hs : s.session = none) :
      Records d session env s w
        (.ofMessage .configuration "session hasn't been selected yet")
  /-- A resource cannot be released after what was done with it. -/
  | unreleased {α β : Type} {resource : β} {release : β → Act H.World (Reply H.World Unit)}
      {f : β → Act H.World (Flow H α)} {env : H.Env} {s : H.State} {w : H.World} {e : Thrown}
      (he : (d.answer (release resource) ((madeOrFailed (f resource w).1 env s
        (f resource w).2).history d s).world).1 = .error e) :
      Records d (use resource release f) env s w
        (.single .capability "Failed to release resource" [] (some e.toFault))
  /-- The code of a list of steps throws between two of them. -/
  | broke {α : Type} {code : Act H.World (Recipe H α)} {b : H.World → Body H α} {env : H.Env}
      {s : H.State} {w w' w'' : H.World} {e : Thrown} {g : Failure}
      (hcode : code w = (.ok (.body b), w')) (hlast : (b w').last d env s = .threw e w'')
      (hg : g ∈ (Failure.ofThrown e none).parts) : Records d (ofRecipe code) env s w g
  /-- A list of steps hands out something that is none. -/
  | strayed {α : Type} {code : Act H.World (Recipe H α)} {b : H.World → Body H α} {env : H.Env}
      {s : H.State} {w w' w'' : H.World} {shown : String} {close : Act H.World Unit}
      (hcode : code w = (.ok (.body b), w')) (hlast : (b w').last d env s = .strays shown w'' close)
      (hclose : (close w'').1 = .ok ()) :
      Records d (ofRecipe code) env s w
        (.ofMessage .capability ("flow yielded " ++ shown ++ ", expected a computation"))
  /-- Failures are mapped to other ones. -/
  | mapped {α β : Type} {c : Flow H α} {onSuccess : α → Act H.World β}
      {onFailure : List Failure → Act H.World (List Failure)} {env : H.Env} {s : H.State}
      {w : H.World} {fs : List Failure} {g : Failure}
      (hfaulted : ((c env s w).history d s).outcome.isFaulted = true)
      (hfs : (onFailure ((c env s w).history d s).outcome.failures
        ((c env s w).history d s).world).1 = .ok fs)
      (hg : g ∈ Failure.allParts fs) : Records d (c.bimap onSuccess onFailure) env s w g
  /-- The failures of a batch are folded into a new one. Its members have been recorded before. -/
  | folded {α : Type} {items : List (Flow H α)} {env : H.Env} {s : H.State} {w : H.World}
      {fs : List Failure} (hfs : ((collect items env s w).history d s).outcome.failures =
        [Failure.collected fs]) :
      Records d (collect items) env s w (Failure.collected fs)
  /-- A failure that is the value of a flow is recorded when it is settled. -/
  | settled {α : Type} {c : Flow H (Except Failure α)} {env : H.Env} {s : H.State} {w : H.World}
      {f g : Failure} (hfine : ((c env s w).history d s).outcome.isFaulted = false)
      (hvalue : ((c env s w).history d s).outcome.value? = some (.error f))
      (hg : g ∈ f.parts) : Records d (settle c) env s w g
  /-- Changing the values of a flow changes nothing in what it records. -/
  | retyped {α β : Type} {c : Flow H α} {f : α → β} {env : H.Env} {s : H.State} {w : H.World}
      {g : Failure} (hc : Records d c env s w g) : Records d (c.retype f) env s w g

end Flow

/-! ## Along a program -/

/-- No step of the program is started in a faulted state, and `S` holds of what its steps record and
of what it throws itself, each in the scopes that are open there. -/
structure Program.Covered (d : Driver H) (S : List String → Failure → Prop) (p : Program H α)
    (start : H.State) : Prop where
  clean : ∀ t, Event.started t ∈ (p.history d start).events → t.failures = []
  launches : ∀ x ∈ p.launches d, ∀ g, x.flow.Records d x.env x.state x.world g →
    S x.state.scopes g
  thrown : ∀ e, p.thrown? d = some e → ∀ g ∈ (Failure.ofThrown e none).parts, S start.scopes g

/-- The program ends in the scopes that its step was started in, and its failures have been
recorded. -/
def Program.Traces (d : Driver H) (S : List String → Failure → Prop) (p : Program H α)
    (start : H.State) : Prop :=
  p.Covered d S start → (p.history d start).outcome.state.Stands S start.scopes

/-- The failures that the flow ends with, when it is run from a state without any, have been
recorded by its step or a step in it. -/
def Flow.Traces (d : Driver H) (c : Flow H α) : Prop :=
  ∀ S env s w, s.failures = [] → (∀ g, c.Records d env s w g → S s.scopes g) →
    (c env s w).Traces d S s

namespace Program.Traces

variable {d : Driver H} {S : List String → Failure → Prop} {start s : H.State}

/-- An outcome traces when its state stands. -/
theorem finish {o : Outcome H α} (w : H.World) (h : o.state.Stands S start.scopes) :
    (Program.finish o w).Traces d S start :=
  fun _ => h

/-- The same for an outcome whose state is changed at the end. -/
theorem update {o : Outcome H α} {f : H.State → H.State}
    {hf : ∀ s, (f s).failures = [] ↔ s.failures = []} (w : H.World)
    (h : (f o.state).Stands S start.scopes) :
    (Program.finish (o.update f hf) w).Traces d S start := by
  refine finish w ?_
  rwa [Outcome.state_update]

/-- A value leaves the state as it stands. -/
theorem value {a : α} (w : H.World) (h : s.Stands S start.scopes) :
    (Program.finish (.of a s) w).Traces d S start := by
  refine finish w ?_
  rwa [Outcome.state_of]

/-- What is thrown becomes the only failure of the state that the step was started from. -/
theorem raise {e : Thrown} (w : H.World) (hstart : start.failures = []) :
    (Program.raise e w : Program H α).Traces d S start := by
  intro covered
  have hclean : start.Stands S start.scopes := .of_clean rfl hstart
  refine hclean.addFailures fun g hg => ?_
  rw [Failure.allParts_singleton] at hg
  exact .here (covered.thrown e rfl g hg)

/-- The step that is run has no failures to start with, and ends in the scopes it was started in. -/
theorem run {c : Flow H β} {env : H.Env} {w : H.World}
    {next : Outcome H β → H.World → Program H α} (hc : c.Traces d)
    (hnext : s.failures = [] → ((c env s w).history d s).outcome.state.Stands S s.scopes →
      (next ((c env s w).history d s).outcome ((c env s w).history d s).world).Traces d S start) :
    (Program.run c env s w next).Traces d S start := by
  intro covered
  -- the start of the step is an event of the run, and the step itself is one of its steps
  have hclean : s.failures = [] := covered.clean s List.mem_cons_self
  have hown : ∀ g, c.Records d env s w g → S s.scopes g :=
    covered.launches ⟨c, env, s, w⟩ List.mem_cons_self
  have hinner : (c env s w).Covered d S s := by
    refine ⟨fun t ht => covered.clean t ?_, fun x hx => covered.launches x ?_,
      fun e he g hg => hown g (.thrown he hg)⟩
    · exact List.mem_append_left _ (List.mem_append_left _ (List.mem_cons_of_mem _ ht))
    · exact List.mem_cons_of_mem _ (List.mem_append_left _ hx)
  have hends := hc S env s w hclean hown hinner
  refine hnext hclean hends ⟨fun t ht => covered.clean t ?_, fun x hx => covered.launches x ?_,
    covered.thrown⟩
  · exact List.mem_append_right _ ht
  · exact List.mem_cons_of_mem _ (List.mem_append_right _ hx)

/-- A step that is run in the scopes of the step that runs it. -/
theorem step {c : Flow H β} {env : H.Env} {w : H.World}
    {next : Outcome H β → H.World → Program H α} (hs : s.scopes = start.scopes) (hc : c.Traces d)
    (hnext : ∀ o w', o.state.Stands S start.scopes → (next o w').Traces d S start) :
    (Program.run c env s w next).Traces d S start :=
  run hc fun _ h => hnext _ _ (hs ▸ h)

/-- An effect records nothing itself. -/
theorem effect {e : Effect H β} {w : H.World} {next : Except Thrown β → H.World → Program H α}
    (hnext : ∀ r w', (next r w').Traces d S start) :
    (Program.effect e w next).Traces d S start := by
  intro covered
  exact hnext _ _ ⟨fun t ht => covered.clean t (List.mem_cons_of_mem _ ht), covered.launches,
    covered.thrown⟩

/-- A pause records nothing. -/
theorem sleep {t : Rat} {w : H.World} {next : Except Thrown Unit → H.World → Program H α}
    (hnext : ∀ r w', (next r w').Traces d S start) :
    (Program.sleep t w next).Traces d S start := by
  intro covered
  exact hnext _ _ ⟨fun t ht => covered.clean t (List.mem_cons_of_mem _ ht), covered.launches,
    covered.thrown⟩

/-- Something awaited records nothing itself. -/
theorem await {code : Act H.World β} {w : H.World}
    {next : Except Thrown β → H.World → Program H α}
    (hnext : ∀ r w', d.await code w = (r, w') → (next r w').Traces d S start) :
    (Program.await code w next).Traces d S start := by
  intro covered
  exact hnext _ _ rfl ⟨fun t ht => covered.clean t (List.mem_cons_of_mem _ ht), covered.launches,
    covered.thrown⟩

/-- A reply records nothing, whether it is there or awaited. -/
theorem resolve {r : Except Thrown (Reply H.World β)} {w : H.World}
    {next : Except Thrown β → H.World → Program H α}
    (hnext : ∀ r' w', d.settle r w = (r', w') → (next r' w').Traces d S start) :
    (Program.resolve r w next).Traces d S start := by
  rcases r with thrown | reply
  · exact hnext _ _ rfl
  · cases reply with
    | value b => exact hnext _ _ rfl
    | awaitable code => exact await hnext

/-- After a call that leaves it a program goes on from the settled answer. -/
theorem outside {e : Effect H (Reply H.World β)} {w : H.World}
    {next : Except Thrown β → H.World → Program H α}
    (hnext : ∀ r w', d.answer (H.perform e) w = (r, w') → (next r w').Traces d S start) :
    (Program.outside e w next).Traces d S start := by
  intro covered
  refine resolve hnext ⟨fun t ht => covered.clean t (List.mem_cons_of_mem _ ht),
    covered.launches, covered.thrown⟩

/-- What a sink throws is recorded in the scopes that the step was started in. -/
theorem announce (hstart : start.failures = []) {node : Log} {w : H.World}
    {next : H.World → Program H α} (hnext : ∀ w', (next w').Traces d S start) :
    (Flow.announce s node w next).Traces d S start := by
  unfold Flow.announce
  split
  · exact hnext w
  · refine effect fun r w' => ?_
    cases r with
    | error e => exact raise w' hstart
    | ok u =>
      refine effect fun r w'' => ?_
      cases r with
      | error e => exact raise w'' hstart
      | ok u => exact hnext w''

/-- The step that takes the place of another one is started in its scopes. -/
theorem endWith {c : Flow H α} {env : H.Env} {w : H.World} (hs : s.scopes = start.scopes)
    (hc : c.Traces d) : (c.endWith env s w).Traces d S start :=
  step hs hc fun _ w' ho => finish w' ho

/-- What code throws in the place of making a flow is recorded in the scopes of the step. -/
theorem endWithMade {made : Except Thrown (Flow H α) × H.World} {env : H.Env}
    (hstart : start.failures = []) (hs : s.scopes = start.scopes)
    (hmade : ∀ c w, made = (.ok c, w) → c.Traces d) :
    (Flow.endWithMade made env s).Traces d S start := by
  obtain ⟨e | c, w⟩ := made
  · exact raise w hstart
  · exact endWith hs (hmade c w rfl)

/-- What code throws in the place of giving a value is recorded in the scopes of the step. -/
theorem endWithValue (given : Except Thrown α × H.World) (hstart : start.failures = [])
    (hs : s.Stands S start.scopes) : (Flow.endWithValue given s).Traces d S start := by
  obtain ⟨e | a, w⟩ := given
  · exact raise w hstart
  · exact value w hs

/-- What closing code throws is recorded in the scopes of the step, and its outcome counts
otherwise. -/
theorem closeWith {close : Act H.World Unit} {o : Outcome H α} {w : H.World}
    (hstart : start.failures = [])
    (h : (close w).1 = .ok () → o.state.Stands S start.scopes) :
    (Flow.closeWith close o w).Traces d S start := by
  unfold Flow.closeWith
  split
  next u w' hclosed => exact finish _ (h (congrArg Prod.fst hclosed))
  next e w' hclosed => exact raise _ hstart

/-- Changing the value of a program changes nothing of its steps and failures. -/
theorem map {p : Program H α} (f : α → β) (h : p.Traces d S start) :
    (p.map f).Traces d S start := by
  intro covered
  have hends := h ⟨?clean, ?launches, ?thrown⟩
  · rw [history_map]
    show ((p.history d start).outcome.map f).state.Stands S start.scopes
    rwa [Outcome.state_map]
  case clean =>
    have hclean := covered.clean
    rw [history_map] at hclean
    exact hclean
  case launches =>
    have hlaunches := covered.launches
    rw [launches_map] at hlaunches
    exact hlaunches
  case thrown =>
    have hthrown := covered.thrown
    rw [thrown?_map] at hthrown
    exact hthrown

end Program.Traces

end Walkthrough
