import Walkthrough.Proofs.Run.Ends
import Walkthrough.Proofs.Waiting.Nested
import Walkthrough.Proofs.Waiting.Success
import Walkthrough.Selector

/-!
# Selectors that do not start with a query

A step other than a query needs one before it. When the first step of a selector is such a step, the
flow of the selector fails whatever the later steps are, and never asks the session for anything.
Queries, filters and picks hand the failure of the first step on, so without a wait among the later
steps the selector fails at once and with that very failure. A wait step takes the steps before it
for a query and tries them again until its time is up, and the failure that is left is that of the
wait (`Selector.findAll_unqueried_delayed`).

Two things are carried along the steps. A flow may fail idly (`Flow.FailsIdly`), whatever its
failure is: this needs nothing of the clock. Or it may fail with one known failure
(`Flow.FailsOutright`); that the time of a wait is ever up depends on the clock. Headline:
`Selector.findAll_unqueried`.
-/

namespace Walkthrough

variable {H : Host} {α β : Type}

namespace Flow

variable {d : Driver H}

/-! ## Flows that fail idly -/

/-- Started without failures, the flow is idle and fails. -/
def FailsIdly (d : Driver H) (patient : Prop) (c : Flow H α) : Prop :=
  ∀ env s w, s.failures = [] →
    (c env s w).Keeps d (Event.Idle patient) s fun o => o.isFaulted = true

namespace FailsIdly

variable {patient : Prop} {c : Flow H α}

theorem fail (quiet : H.Quiet) (f : Failure) : (Flow.fail f : Flow H α).FailsIdly d patient := by
  intro env s w hs
  obtain ⟨hevents, houtcome⟩ := keeps_fail (α := α) (d := d) quiet patient f env hs w
  exact ⟨hevents, congrArg Outcome.isFaulted houtcome⟩

/-- What a failed flow is bound to is never called. -/
theorem bind (hc : c.FailsIdly d patient) (g : α → Act H.World (Flow H β)) :
    (c.bind g).FailsIdly d patient := by
  intro env s w hs
  refine .run trivial (hc env s w hs) (fun _ _ => trivial) fun o w' ho => ?_
  cases o with
  | success a t h => cases ho
  | faulted a t h => exact .finish w' rfl

theorem map (hc : c.FailsIdly d patient) (g : α → Act H.World β) :
    (c.map g).FailsIdly d patient := by
  intro env s w hs
  refine .run trivial (hc env s w hs) (fun _ _ => trivial) fun o w' ho => ?_
  cases o with
  | success a t h => cases ho
  | faulted a t h => exact .finish w' rfl

/-- An attempt gives a failure as its value, in the state that it was started from. -/
theorem attempt (hc : c.FailsIdly d patient) (env : H.Env) {s : H.State} (hs : s.failures = [])
    (w : H.World) :
    (Flow.attempt c env s w).Keeps d (Event.Idle patient) s fun o =>
      ∃ f, o = .success (.error f) s hs := by
  refine .run trivial (hc.map _ env s w hs) (fun _ _ => trivial) fun left w' hleft => ?_
  cases left with
  | success a t h => cases hleft
  | faulted a t h =>
    refine .run trivial (R := fun o => ∃ f, o = .success (.error f) s hs)
      (.finish w' ⟨_, Outcome.of_eq_success hs⟩) (fun _ _ => trivial) fun right w'' hright => ?_
    obtain ⟨f, rfl⟩ := hright
    exact .finish w'' ⟨f, rfl⟩

/-- A wait for such a flow fails: with a timeout when its time is up, and otherwise when it is
cut. -/
theorem look (quiet : H.Quiet) (steady : d.Steady) (hpatient : patient)
    (hc : c.FailsIdly d patient) (label : String) (interval timeout began : Rat) (env : H.Env)
    {s : H.State} (hs : s.failures = []) (left done : Nat) (w : H.World) :
    (Flow.look (Flow.attempt c) (succeedsWatch label) interval timeout began env s left done
      w).Keeps d (Event.Idle patient) s fun o => o.isFaulted = true := by
  induction left using Nat.strongRecOn generalizing done w with
  | ind left ih =>
    unfold Flow.look
    refine .run trivial (hc.attempt env hs w) (fun _ _ => trivial) fun o w' ho => ?_
    obtain ⟨f, rfl⟩ := ho
    dsimp only [succeedsWatch, Act.ok]
    split
    · refine .effect id ?_
      exact .run trivial (FailsIdly.fail quiet _ env s _ hs) (fun _ _ => trivial) fun o w'' ho =>
        .finish w'' ho
    · cases left with
      | zero => exact .raise _ rfl
      | succ left =>
        exact .sleep_steady steady hpatient fun w'' =>
          ih left (Nat.lt_succ_self left) (done + 1) w''

theorem waitUntilSucceeds (quiet : H.Quiet) (steady : d.Steady) (hpatient : patient)
    (hc : c.FailsIdly d patient) (interval wait : Option Span) (label : String) :
    (c.waitUntilSucceeds interval wait label).FailsIdly d patient := by
  intro env s w hs
  refine .run trivial (hc.look quiet steady hpatient label _ _ _ env hs _ 0 w) (fun _ _ => trivial)
    fun o w' ho => ?_
  cases o with
  | success a t h => cases ho
  | faulted a t h => exact .finish w' rfl

end FailsIdly

/-! ## Flows that fail with a known failure -/

/-- Started in the state, the flow ends with the failure, whose line is the only change to the log.
Where only pauses take time, and take what they should, there is a limit to the time that it
takes. -/
structure FailsOutright (d : Driver H) (c : Flow H α) (s : H.State) (f : Failure) : Prop where
  outcome : ∀ env w, (c.history d env s w).outcome = .fault (s.withLine .error f.message) f []
  takes : H.Punctual → d.Pauses → H.Instant d → ∃ T, c.Takes d T s

namespace FailsOutright

variable {c : Flow H α} {s : H.State} {f : Failure}

theorem fail (quiet : H.Quiet) (f : Failure) (hs : s.failures = []) :
    (Flow.fail f : Flow H α).FailsOutright d s f where
  outcome env w := by
    rw [history_eq]
    exact (keeps_fail quiet True f env hs w).outcome
  takes _ _ instant := ⟨0, Instant.fail instant f s⟩

theorem bind (hc : c.FailsOutright d s f) (g : α → Act H.World (Flow H β)) :
    (c.bind g).FailsOutright d s f where
  outcome env w := outcome_of_leads (leads_bind_of_faulted g ⟨hc.outcome env w, rfl⟩)
  takes punctual pauses instant := by
    obtain ⟨T, hT⟩ := hc.takes punctual pauses instant
    refine ⟨T, fun env w start => ?_⟩
    rw [(leads_bind_of_faulted g ⟨hc.outcome env w, rfl⟩).world start]
    exact hT.history env w

/-- A wait for such a flow runs out of time, unless it is cut, which needs a clock that stands
still. -/
theorem waitUntilSucceeds (quiet : H.Quiet) (punctual : H.Punctual) (pauses : d.Pauses)
    (instant : H.Instant d) (hs : s.failures = []) (hc : c.FailsOutright d s f)
    (interval wait : Option Span) (label : String) :
    (c.waitUntilSucceeds interval wait label).FailsOutright d s
      (timedOut (Span.toSecondsOr H.precision s.settings.wait wait) label f) := by
  obtain ⟨T, hT⟩ := hc.takes punctual pauses instant
  refine ⟨fun env w => ?_, fun _ _ _ =>
    ⟨_, hT.waitUntilSucceeds punctual pauses instant interval wait label⟩⟩
  obtain ⟨ws, last, q, hretried, -, hends, hinner⟩ :=
    leads_waitUntil pauses.steady (attempt c) (succeedsWatch label) interval wait env s w
  have hlast := hc.outcome env last
  refine (outcome_waitUntilSucceeds hinner).trans ?_
  rcases settled_of_ends quiet c label interval wait env hs w hends with
    ⟨hsound, -, -⟩ | ⟨v, t, unsound, ho, -, -, hsettled⟩ | ⟨⟨v, hjudged⟩, early, spent, -, -⟩
  · rw [hlast] at hsound
    cases hsound
  · cases hlast.symm.trans ho
    have hf : ((s.withLine .error f.message).addFailures [f]).failures.getLast unsound = f := by
      simp
    rw [hf] at hsettled
    exact hsettled
  · have forward := Wait.now_le_judged_of_takes
      (x := Wait.begun (attempt c) (succeedsWatch label) interval wait env s w) hT.attempt
      (.succeeds label)
    exact absurd ⟨hretried, spent, hjudged, early⟩
      (Wait.advances punctual pauses forward rfl).not_overruns

end FailsOutright

end Flow

/-! ## Steps -/

namespace Step

/-- What a step does that needs a query before it; a query needs none. -/
def needsQuery : Step H → Option String
  | query _ => none
  | filter .. => some "filtering"
  | waitFor .. => some "\x60wait_for\x60"
  | pick _ => some "index selection"

/-- The failure of a step that needs a query before it and has none. -/
def unqueried (action : String) : Failure :=
  Condition.unusable
    (action ++ " must follow something that queries elements.  It can't run alone")

/-- Whether the step tries the steps before it again. -/
def isWait : Step H → Bool
  | waitFor .. => true
  | _ => false

/-- What becomes of the failure of the steps before a step: a wait ends with a timeout, every other
step hands the failure on. -/
def handOn (settings : Settings H.Sinks) (f : Failure) : Step H → Failure
  | waitFor _ description _ wait =>
    Flow.timedOut (Span.toSecondsOr H.precision settings.wait wait) description f
  | _ => f

variable {d : Driver H}

theorem handOn_of_not_isWait {step : Step H} (h : step.isWait = false) (settings : Settings H.Sinks)
    (f : Failure) : step.handOn settings f = f := by
  cases step with
  | waitFor => cases h
  | _ => rfl

/-- A flow made of steps, started in the state, fails idly. It fails with the failure when that is
`certain`, as it is for those who need not wait. -/
structure Fails (d : Driver H) (patient certain : Prop) (c : Flow H (List H.Element)) (s : H.State)
    (f : Failure) : Prop where
  idly : c.FailsIdly d patient
  outright : certain → c.FailsOutright d s f

variable {patient certain : Prop} {s : H.State}

theorem fails_compile_none (quiet : H.Quiet) (hs : s.failures = []) {step : Step H}
    {action : String} (h : step.needsQuery = some action) :
    Fails d patient certain (step.compile none) s (unqueried action) := by
  have hfail : Fails d patient certain (Flow.fail (unqueried action)) s (unqueried action) :=
    ⟨.fail quiet _, fun _ => .fail quiet _ hs⟩
  cases step with
  | query criterion => cases h
  | filter condition description => cases h; exact hfail
  | waitFor condition description interval wait => cases h; exact hfail
  | pick index => cases h; exact hfail

/-- What a step makes of steps that fail. -/
theorem fails_compile (quiet : H.Quiet) (steady : d.Steady) (hs : s.failures = [])
    {before : Flow H (List H.Element)} {f : Failure} (hbefore : Fails d patient certain before s f)
    {step : Step H} (hpatient : step.isWait = true → patient)
    (hcertain : certain → patient → H.Punctual ∧ d.Pauses ∧ H.Instant d) :
    Fails d patient certain (step.compile (some before)) s (step.handOn s.settings f) := by
  have hbind : ∀ g : List H.Element → Act H.World (Flow H (List H.Element)),
      Fails d patient certain (before.bind g) s f :=
    fun g => ⟨hbefore.idly.bind g, fun h => (hbefore.outright h).bind g⟩
  cases step with
  | query criterion => exact hbind _
  | filter condition description => exact hbind _
  | pick index => exact hbind _
  | waitFor condition description interval wait =>
    refine ⟨(hbind _).idly.waitUntilSucceeds quiet steady (hpatient rfl) interval wait description,
      fun h => ?_⟩
    obtain ⟨punctual, pauses, instant⟩ := hcertain h (hpatient rfl)
    exact .waitUntilSucceeds quiet punctual pauses instant hs ((hbind _).outright h) interval wait
      description

end Step

namespace Selector

variable {d : Driver H} {patient certain : Prop} {s : H.State}

theorem fails_compileSteps (quiet : H.Quiet) (steady : d.Steady) (hs : s.failures = [])
    {before : Flow H (List H.Element)} {f : Failure}
    (hbefore : Step.Fails d patient certain before s f) {steps : List (Step H)}
    (hpatient : ∀ step ∈ steps, step.isWait = true → patient)
    (hcertain : certain → patient → H.Punctual ∧ d.Pauses ∧ H.Instant d) :
    ∃ c, compileSteps (some before) steps = some c ∧
      Step.Fails d patient certain c s
        (steps.foldl (fun f step => step.handOn s.settings f) f) := by
  induction steps generalizing before f with
  | nil => exact ⟨before, rfl, hbefore⟩
  | cons step steps ih =>
    obtain ⟨hstep, hsteps⟩ := List.forall_mem_cons.mp hpatient
    exact ih (Step.fails_compile quiet steady hs hbefore hstep hcertain) hsteps

/-- A selector whose first step needs a query before it fails, and never asks the session for
anything. Without a wait among the later steps it fails with the failure of the first step, found
without a pause, whose line is all that is added to the log. With one it fails, on a punctual host
where only pauses take time, with the timeout of the last wait, whose message ends with the text of
the failure before it. -/
theorem findAll_unqueried (quiet : H.Quiet) (steady : d.Steady) {a : Selector H} {first : Step H}
    {rest : List (Step H)} {action : String} (ha : a.steps = first :: rest)
    (hfirst : first.needsQuery = some action) (env : H.Env) {s : H.State} (hs : s.failures = [])
    (w : H.World) :
    let run := a.findAll.history d env s w
    let f := rest.foldl (fun f step => step.handOn s.settings f) (Step.unqueried action)
    run.outcome.isFaulted = true ∧ (∀ e ∈ run.events, ¬ e.AsksSession) ∧
      ((∀ step ∈ rest, step.isWait = false) → f = Step.unqueried action ∧ run.pauses = [] ∧
        run.outcome = .fault (s.withLine .error f.message) f []) ∧
      (H.Punctual → d.Pauses → H.Instant d →
        run.outcome = .fault (s.withLine .error f.message) f []) := by
  intro run f
  -- only a wait among the later steps pauses, and only then the clock matters
  let patient := ∃ step ∈ rest, step.isWait = true
  let certain := patient → H.Punctual ∧ d.Pauses ∧ H.Instant d
  have hnone : Step.Fails d patient certain (first.compile none) s (Step.unqueried action) :=
    Step.fails_compile_none quiet hs hfirst
  obtain ⟨c, hcompiled, hc⟩ := fails_compileSteps quiet steady hs hnone
    (fun step hstep hwait => ⟨step, hstep, hwait⟩) id
  have hfind : a.findAll = c := by
    have hsteps : compileSteps none a.steps = some c := by
      rw [ha]
      exact hcompiled
    unfold findAll compile
    rw [hsteps]
    rfl
  have hrun : (c env s w).history d s = run := by
    rw [← hfind, ← Flow.history_eq]
  obtain ⟨hevents, hfaulted⟩ := hc.idly env s w hs
  rw [hrun] at hevents hfaulted
  have houtcome : certain → run.outcome = .fault (s.withLine .error f.message) f [] := fun h => by
    rw [← hrun, ← Flow.history_eq]
    exact (hc.outright h).outcome env w
  refine ⟨hfaulted, fun e he => (hevents e he).not_asksSession, fun hrest => ?_,
    fun punctual pauses instant => houtcome fun _ => ⟨punctual, pauses, instant⟩⟩
  have impatient : ¬ patient := by
    rintro ⟨step, hstep, hwait⟩
    exact absurd ((hrest step hstep).symm.trans hwait) Bool.false_ne_true
  refine ⟨?_, ?_, houtcome fun h => absurd h impatient⟩
  · exact List.foldlRecOn rest _ (motive := fun g => g = Step.unqueried action) rfl
      fun g hg step hstep => by rw [Step.handOn_of_not_isWait (hrest step hstep), hg]
  · exact List.filterMap_eq_nil_iff.mpr fun e he => (hevents e he).pause?_eq_none impatient

/-- A host like `Host.timekeeping` whose sessions refuse at once. -/
abbrev resting : Host :=
  { Host.timekeeping with call := fun _ _ w => (.error (.fault ⟨"SessionError", "refused"⟩), w) }

/-- A filter that has no query before it, with a query, a wait and a pick behind it; and the same
without the wait. -/
theorem findAll_unqueried_filter :
    let start : resting.State := resting.initialState (some ()) { sinks := () }
    let hasty : Selector resting :=
      ⟨[.filter .single "when single", .query ⟨.css, "li"⟩, .pick 1]⟩
    let patient : Selector resting :=
      ⟨[.filter .single "when single", .query ⟨.css, "li"⟩,
        .waitFor .present "wait until exists" none none, .pick 1]⟩
    let f := Step.unqueried "filtering"
    let late := Flow.timedOut (start.settings.wait.seconds .exact) "wait until exists" f
    let run := hasty.findAll.history .blocking () start (0 : Nat)
    let run' := patient.findAll.history .blocking () start (0 : Nat)
    resting.Punctual ∧ resting.Instant Driver.blocking ∧
      run.outcome = .fault (start.withLine .error f.message) f [] ∧
      (∀ e ∈ run.events, ¬ e.AsksSession) ∧ run.pauses = [] ∧
      run'.outcome = .fault (start.withLine .error late.message) late [] ∧
      (∀ e ∈ run'.events, ¬ e.AsksSession) := by
  intro start hasty patient f late run run'
  have punctual : resting.Punctual := ⟨rfl, Host.punctual_timekeeping.sleep⟩
  have instant : resting.Instant Driver.blocking :=
    ⟨fun _ _ _ => rfl, fun _ _ _ _ => rfl, fun _ _ _ => rfl, fun _ _ _ => rfl⟩
  have quiet : resting.Quiet := ⟨fun _ _ _ w => ⟨w, rfl⟩, fun _ _ w => ⟨w, rfl⟩⟩
  obtain ⟨-, hasked, hhasty, -⟩ := findAll_unqueried quiet Driver.steady_blocking (a := hasty) rfl
    rfl () (s := start) rfl (0 : Nat)
  obtain ⟨-, hasked', -, hpatient⟩ := findAll_unqueried quiet Driver.steady_blocking (a := patient)
    rfl rfl () (s := start) rfl (0 : Nat)
  obtain ⟨-, hpauses, houtcome⟩ := hhasty (by simp [Step.isWait])
  exact ⟨punctual, instant, houtcome, hasked, hpauses,
    hpatient punctual Driver.pauses_blocking instant, hasked'⟩

/-- A host like `Host.refusing` whose world is the time in seconds. -/
abbrev ticking : Host :=
  { Host.refusing with now := fun w => (w : Rat), sleep := fun _ w => w + 1 }

/-- A pick that has no query before it is tried three times when a wait comes behind it, with two
pauses, and the failure that is left is a timeout. -/
theorem findAll_unqueried_delayed :
    let a : Selector ticking :=
      ⟨[.pick 0, .waitFor .present "wait until exists" (some (.seconds 1)) (some (.seconds 2))]⟩
    let s : ticking.State := (ticking.initialState none { sinks := () }).withMuted true
    let run := a.findAll.history .blocking () s (0 : Nat)
    (Step.pick 0 : Step ticking).needsQuery = some "index selection" ∧ s.failures = [] ∧
      run.outcome.failures.map Failure.kindName = ["FlowTimeoutError"] ∧
      run.outcome.failures ≠ [Step.unqueried "index selection"] ∧ run.pauses = [1, 1] := by
  intro a s run
  have hrun : run = (a.findAll () s (0 : Nat)).history .blocking s := Flow.history_eq ..
  have hkind : run.outcome.failures.map Failure.kindName = ["FlowTimeoutError"] := by
    rw [hrun]
    decide +kernel
  have hpauses : run.pauses = [1, 1] := by
    rw [hrun]
    decide +kernel
  refine ⟨rfl, rfl, hkind, fun h => ?_, hpauses⟩
  rw [h] at hkind
  exact absurd hkind (by decide)

end Selector

end Walkthrough
