import Walkthrough.Proofs.Composed.Basic
import Walkthrough.Proofs.Run.Keeps
import Walkthrough.Proofs.Run.Trace

/-!
# Laws of the states of a run

A `Host.Law` says two things of a run: what holds of every state that it goes through, and how the
state that a step leaves is related to the state that the step was started from, given the records
that were published in between. Its clauses say that everything a step can do to a state keeps to
the law: write a line, open a scope and close it again, put other failures in place, lend a session.
What a step may do to its state is said here once; that whole runs keep to a law follows from it
(`Walkthrough.Proofs.Run.Upholds`).

Two more things can be asked of a run. A law says which settings and configurations steps may put in
place of others (`permits`): that is a condition on the steps of the run, and a run is held to the
law only when its steps keep to it. A `strict` law says of every step that is started that its state
holds no failures.

Some steps go back to the state that they were started from: a step that throws, an alternative, a
new try. All that was done since then is undone, but what was published stays published. A law that
allows this is `Forgiving`.

`Program.Upholds law d told p start` is the statement along a program: `p` is what is left of a step
that was started from `start`, and `told` has been published since then. There is one rule for each
kind of request.

What a statement needs beyond this is not a law: which flow recorded a failure
(`Walkthrough.Proofs.Faults.Recording`) is known only from the trace of the run at hand.
-/

namespace Walkthrough

variable {H : Host} {k : Kit} {α β : Type}

/-! ## States and records of a run -/

/-- The states that an event shows. -/
def Event.states : Event H → List H.State
  | started s => [s]
  | ended o => [o.state]
  | _ => []

/-- The record that an effect hands to the log stream. -/
def Effect.published : {β : Type} → Effect H β → List LogRecord
  | _, .publish _ record => [record]
  | _, _ => []

/-- The record that is handed to the log stream in an event. -/
def Event.published : Event H → List LogRecord
  | did e _ => e.published
  | _ => []

namespace History

/-- The states that a run goes through, with the one that it ends in as the last. -/
def states (h : History H α) : List H.State := h.events.flatMap Event.states ++ [h.outcome.state]

/-- The records that are handed to the log stream in a run, in their order. -/
def published (h : History H α) : List LogRecord := h.events.flatMap Event.published

/-- Records of earlier events come first. -/
@[simp] theorem published_after (h : History H α) (es : List (Event H)) :
    (h.after es).published = es.flatMap Event.published ++ h.published := by
  simp [published]

end History

/-- There is more than one reply, so no effect with a reply is one that gives nothing. -/
theorem Reply.ne_unit {World β : Type} (w : World) : Reply World β ≠ Unit := by
  intro h
  have hone : ∀ r r' : Reply World β, r = r' := by
    rw [h]
    exact fun _ _ => rfl
  have hcode := Reply.awaitable.inj
    (hone (.awaitable (.throw (.fault ⟨"", ""⟩))) (.awaitable (.throw (.fault ⟨"", "again"⟩))))
  exact absurd (congrFun hcode w) (by simp [Act.throw])

/-- What is asked for a reply is asked of a session or of outside code. -/
theorem Effect.of_reply {P : {γ : Type} → Effect H γ → Prop}
    (hcall : ∀ {γ : Type} (session : H.Session) (command : Command H.Element H.Datum γ),
      P (.call session command))
    (hcode : ∀ {γ : Type} (code : Act H.World (Reply H.World γ)), P (.code code))
    (e : Effect H (Reply H.World β)) (w : H.World) : P e := by
  have hunit : ∀ {γ : Type} (e : Effect H γ), γ ≠ Unit → P e := by
    intro γ e hγ
    cases e with
    | call session command => exact hcall session command
    | code code => exact hcode code
    | logLine sinks message indent => exact absurd rfl hγ
    | publish sinks record => exact absurd rfl hγ
    | complain severity message => exact absurd rfl hγ
  exact hunit e (Reply.ne_unit w)

/-- What is asked for a reply is no record. -/
theorem Effect.published_reply {e : Effect H (Reply H.World β)} (w : H.World) :
    e.published = [] :=
  e.of_reply (P := fun e => e.published = []) (fun _ _ => rfl) (fun _ => rfl) w

/-! ## Laws -/

/-- What can be put in place of a part of the state for good. -/
inductive Replacement (Sinks : Type) where
  | settings (settings : Settings Sinks)
  | configuration (configuration : List (String × String))

/-- The flow that puts it in place. -/
def Replacement.flow : Replacement H.Sinks → Flow H Unit
  | settings new => Flow.initSettings new
  | configuration new => Flow.initConfig new

/-- What a step puts in place of parts of its state, other than by writing a line or opening a
scope: other failures, and the settings and configurations in `I`. -/
inductive RunState.Changes {Session Sinks : Type} (I : Replacement Sinks → Prop) :
    RunState Session Sinks → RunState Session Sinks → Prop where
  | failures (s : RunState Session Sinks) (fs : List Failure) : Changes I s (s.withFailures fs)
  | settings (s : RunState Session Sinks) {settings : Settings Sinks} (h : I (.settings settings)) :
      Changes I s (s.withSettings settings)
  | configuration (s : RunState Session Sinks) {configuration : List (String × String)}
      (h : I (.configuration configuration)) : Changes I s (s.withConfiguration configuration)

/-- The records that are published when a node of the log is announced. -/
def RunState.announced {Session Sinks : Type} (s : RunState Session Sinks) (node : Log) :
    List LogRecord :=
  if s.muted || node.isBlank then [] else [node.record]

/-- What holds of every state of a run, and how a state that a step leaves is related to the one it
was started from and to the records that were published since. -/
structure Host.Law (H : Host) (k : Kit) where
  holds : H.State → Prop
  relates : H.State → List LogRecord → H.State → Prop
  /-- The settings and configurations that steps may put in place of others. -/
  permits : Replacement H.Sinks → Prop := fun _ => True
  /-- Steps are started from states without failures only. -/
  strict : Prop := False
  refl : ∀ s, relates s [] s
  trans : ∀ {s t u told more}, relates s told t → relates t more u → relates s (told ++ more) u
  change : ∀ {s t}, s.Changes permits t → holds s → holds t ∧ relates s [] t
  line : ∀ {s} kind message, holds s →
    holds (s.withLine kind message) ∧
      relates s (s.announced (s.line kind message)) (s.withLine kind message)
  enter : ∀ {s} label, holds s → holds (s.enter label)
  leave : ∀ {s t told} label, holds s → holds t → relates (s.enter label) told t →
    holds (s.leave label t) ∧
      relates s (s.announced (s.line .context label) ++ told) (s.leave label t)
  mute : k.muting = true → ∀ {s}, holds s → holds (s.withMuted true)
  unmute : k.muting = true → ∀ {s t told}, holds s → holds t → relates (s.withMuted true) told t →
    holds (t.withMuted s.muted) ∧ relates s told (t.withMuted s.muted)
  lend : ∀ {s} handle, holds s → holds (s.withSession (some handle))
  giveBack : ∀ {s t told} handle, holds s → holds t →
    relates (s.withSession (some handle)) told t →
    holds (t.withSession s.session) ∧ relates s told (t.withSession s.session)

/-- A step may go back to the state that it was started from, whatever was published since. -/
def Host.Law.Forgiving (law : H.Law k) : Prop := ∀ s told, law.relates s told s

/-- What the flow puts in place of others itself is permitted. -/
def Host.Law.Permits (law : H.Law k) (c : Flow H α) : Prop :=
  ∀ new : Replacement H.Sinks, new.flow.Retyped c → law.permits new

/-- A step may be started from the state. -/
structure Host.Law.Starts (law : H.Law k) (s : H.State) : Prop where
  holds : law.holds s
  clean : law.strict → s.failures = []

/-- A step that was started from `start` may stand at `s` when `told` has been published. -/
structure Host.Law.Allows (law : H.Law k) (start : H.State) (told : List LogRecord)
    (s : H.State) : Prop where
  holds : law.holds s
  relates : law.relates start told s

/-- The law allows every state everywhere, so that a step may put any state in place of its own. -/
def Host.Law.Free (law : H.Law k) : Prop := ∀ s told t, law.Allows s told t

namespace Host.Law.Allows

variable {law : H.Law k} {start s t : H.State} {told more : List LogRecord}

/-- A state that the law holds of is allowed from itself, with nothing told. -/
theorem here (hs : law.holds s) : law.Allows s [] s := ⟨hs, law.refl s⟩

/-- What is told on the way from one state to the next is told on the whole way. -/
theorem trans (hs : law.Allows start told s) (ht : law.Allows s more t) :
    law.Allows start (told ++ more) t :=
  ⟨ht.holds, law.trans hs.relates ht.relates⟩

/-- A change that the law permits tells nothing. -/
theorem change (hs : law.Allows start told s) (h : s.Changes law.permits t) :
    law.Allows start told t := by
  obtain ⟨hholds, hrelates⟩ := law.change h hs.holds
  have ht := hs.trans ⟨hholds, hrelates⟩
  rwa [List.append_nil] at ht

/-- Failures may change freely. -/
theorem failures (hs : law.Allows start told s) (fs : List Failure) :
    law.Allows start told (s.withFailures fs) :=
  hs.change (.failures s fs)

/-- Where the law forgives, a run may be back at its start, whatever has been told. -/
theorem back (forgiving : law.Forgiving) (hstart : law.holds start) :
    law.Allows start told start :=
  ⟨hstart, forgiving start told⟩

end Host.Law.Allows

/-- The code never throws. -/
def Act.Calm {World : Type} {α : Type _} (a : Act World α) : Prop := ∀ w, ∃ x w', a w = (.ok x, w')

/-- Code that gives a value does not throw. -/
theorem Act.calm_ok {World : Type} {γ : Type _} (x : γ) : (Act.ok x : Act World γ).Calm :=
  fun w => ⟨x, w, rfl⟩

/-- Nor does calm code whose value is changed. -/
theorem Act.Calm.map {World : Type} {γ δ : Type _} {a : Act World γ} (ha : a.Calm) (f : γ → δ) :
    (a.map f).Calm := by
  intro w
  obtain ⟨x, w', hx⟩ := ha w
  refine ⟨f x, w', ?_⟩
  unfold Act.map Act.andThen
  rw [hx]
  rfl

/-- Pauses never throw. -/
def Driver.Steady (d : Driver H) : Prop := ∀ t w, ∃ w', d.sleep t w = (.ok (), w')

/-- Both drivers of the library are steady; this is the one that blocks. -/
theorem Driver.steady_blocking : (blocking : Driver H).Steady := fun t w => ⟨H.pause t w, rfl⟩

/-- The other one. -/
theorem Driver.steady_suspending : (suspending : Driver H).Steady := fun t w => ⟨H.pause t w, rfl⟩

/-- Whenever the body is closed early, its closing code does not throw. -/
def Body.ClosesCalmly : Body H α → Prop
  | .returned _ _ => True
  | .threw _ _ => True
  | .handsOut _ _ close resume => close.Calm ∧ ∀ b w, (resume b w).ClosesCalmly
  | .strays _ _ close => close.Calm

/-- Changing the state of an outcome changes just that. -/
theorem Outcome.state_update (o : Outcome H α) (f : H.State → H.State)
    (hf : ∀ s, (f s).failures = [] ↔ s.failures = []) : (o.update f hf).state = f o.state := by
  cases o <;> rfl

/-- Changing the value of an outcome does not change its state. -/
theorem Outcome.state_map (o : Outcome H α) (f : α → β) : (o.map f).state = o.state := by
  cases o <;> rfl

/-! ## Along a program -/

/-- Every state that the program goes through keeps to the law, when `told` has been published
since its step was started. -/
structure Program.Lawful (law : H.Law k) (d : Driver H) (told : List LogRecord)
    (p : Program H α) (start : H.State) : Prop where
  states : ∀ e ∈ (p.history d start).events, ∀ s ∈ e.states, law.holds s
  starts : law.strict → ∀ s, Event.started s ∈ (p.history d start).events → s.failures = []
  ends : law.Allows start (told ++ (p.history d start).published) (p.history d start).outcome.state

/-- The program keeps to the law when its steps put in place only what is permitted. -/
def Program.Upholds (law : H.Law k) (d : Driver H) (told : List LogRecord) (p : Program H α)
    (start : H.State) : Prop :=
  (∀ x ∈ p.launches d, law.Permits x.flow) → p.Lawful law d told start

/-- From a state that it may be started from, every run of the flow keeps to the law. -/
def Flow.Upholds (law : H.Law k) (d : Driver H) (c : Flow H α) : Prop :=
  ∀ env s w, law.Starts s → law.Permits c → (c env s w).Upholds law d [] s

namespace Program.Upholds

variable {law : H.Law k} {d : Driver H} {start s : H.State} {told : List LogRecord}

/-- A program that ends leaves a state that the law allows. -/
theorem finish {o : Outcome H α} (w : H.World) (h : law.Allows start told o.state) :
    (Program.finish o w).Upholds law d told start := by
  refine fun _ => ⟨fun e he => absurd he List.not_mem_nil,
    fun _ s hs => absurd hs List.not_mem_nil, ?_⟩
  show law.Allows start (told ++ []) o.state
  rwa [List.append_nil]

theorem update {o : Outcome H α} {f : H.State → H.State}
    {hf : ∀ s, (f s).failures = [] ↔ s.failures = []} (w : H.World)
    (h : law.Allows start told (f o.state)) :
    (Program.finish (o.update f hf) w).Upholds law d told start := by
  refine finish w ?_
  rwa [Outcome.state_update]

theorem value {a : α} (w : H.World) (h : law.Allows start told s) :
    (Program.finish (.of a s) w).Upholds law d told start := by
  refine finish w ?_
  rwa [Outcome.state_of]

/-- A step that throws goes back to where it was started. -/
theorem raise {e : Thrown} (w : H.World) (h : law.Allows start told start) :
    (Program.raise e w : Program H α).Upholds law d told start := by
  refine fun _ => ⟨fun e he => absurd he List.not_mem_nil,
    fun _ s hs => absurd hs List.not_mem_nil, ?_⟩
  show law.Allows start (told ++ []) (start.addFailures [Failure.ofThrown e none])
  rw [List.append_nil]
  exact h.failures _

/-- A nested step may be started from any state that the law starts steps from. What is known of the
state that it leaves is how that is related to the state that it was started from, and what is known
of this one run of it. -/
theorem runWith {c : Flow H β} {env : H.Env} {w : H.World}
    {next : Outcome H β → H.World → Program H α} {R : Outcome H β → Prop} (hs : law.Starts s)
    (hc : c.Upholds law d) (hR : R ((c env s w).history d s).outcome)
    (hnext : ∀ o w' more, R o → law.Allows s more o.state →
      (next o w').Upholds law d (told ++ more) start) :
    (Program.run c env s w next).Upholds law d told start := by
  intro permitted
  -- the step is the first of the program, and what it runs comes before all that follows it
  have hstep := hc env s w hs (permitted ⟨c, env, s, w⟩ List.mem_cons_self) fun x hx =>
    permitted x (List.mem_cons_of_mem _ (List.mem_append_left _ hx))
  have hrest := hnext _ ((c env s w).history d s).world _ hR hstep.ends fun x hx =>
    permitted x (List.mem_cons_of_mem _ (List.mem_append_right _ hx))
  refine ⟨?states, ?starts, ?ends⟩
  case states =>
    intro e he t ht
    simp only [history, History.events_after, List.mem_append, List.mem_cons, List.not_mem_nil,
      or_false] at he
    rcases he with ((rfl | he) | rfl) | he
    · obtain rfl := List.mem_singleton.mp ht
      exact hs.holds
    · exact hstep.states e he t ht
    · obtain rfl := List.mem_singleton.mp ht
      exact hstep.ends.holds
    · exact hrest.states e he t ht
  case starts =>
    intro strict t ht
    simp only [history, History.events_after, List.mem_append, List.mem_cons, List.not_mem_nil,
      or_false, Event.started.injEq, reduceCtorEq] at ht
    rcases ht with (rfl | ht) | ht
    · exact hs.clean strict
    · exact hstep.starts strict t ht
    · exact hrest.starts strict t ht
  case ends =>
    -- the start and the end of the step publish nothing
    have hpublished : ((Program.run c env s w next).history d start).published =
        ((c env s w).history d s).published ++
          ((next ((c env s w).history d s).outcome
            ((c env s w).history d s).world).history d start).published := by
      simp only [history, History.published_after]
      simp [Event.published, History.published]
    have hends := hrest.ends
    rw [List.nil_append, List.append_assoc] at hends
    rw [hpublished]
    exact hends

/-- A nested step of which nothing is known but that it keeps to the law. -/
theorem run {c : Flow H β} {env : H.Env} {w : H.World}
    {next : Outcome H β → H.World → Program H α} (hs : law.Starts s) (hc : c.Upholds law d)
    (hnext : ∀ o w' more, law.Allows s more o.state →
      (next o w').Upholds law d (told ++ more) start) :
    (Program.run c env s w next).Upholds law d told start :=
  runWith (R := fun _ => True) hs hc trivial fun o w' more _ => hnext o w' more

/-- A step goes on with another one from a state that it may stand at. -/
theorem step {c : Flow H β} {env : H.Env} {w : H.World}
    {next : Outcome H β → H.World → Program H α} (h : law.Allows start told s)
    (hclean : law.strict → s.failures = []) (hc : c.Upholds law d)
    (hnext : ∀ o w' told', law.Allows start told' o.state →
      (next o w').Upholds law d told' start) :
    (Program.run c env s w next).Upholds law d told start :=
  run ⟨h.holds, hclean⟩ hc fun o w' _ ho => hnext o w' _ (h.trans ho)

/-- What happens between two states publishes at most what is added to `told`. -/
theorem of_after {p q : Program H α} {e : Event H} (he : e.states = [])
    (hafter : p.history d start = (q.history d start).after [e])
    (hlaunches : p.launches d = q.launches d)
    (h : q.Upholds law d (told ++ e.published) start) : p.Upholds law d told start := by
  intro permitted
  rw [hlaunches] at permitted
  obtain ⟨hstates, hstarts, hends⟩ := h permitted
  refine ⟨?states, ?starts, ?ends⟩
  case states =>
    intro e' he' s hs
    rw [hafter] at he'
    rcases List.mem_cons.mp he' with rfl | he'
    · rw [he] at hs
      exact absurd hs List.not_mem_nil
    · exact hstates e' he' s hs
  case starts =>
    intro strict s hs
    rw [hafter] at hs
    rcases List.mem_cons.mp hs with rfl | hs
    · exact absurd he (List.cons_ne_nil _ _)
    · exact hstarts strict s hs
  case ends =>
    rw [List.append_assoc] at hends
    rw [hafter, History.published_after]
    simpa using hends

/-- The records of an effect are told before what follows it. -/
theorem effect {e : Effect H β} {w : H.World} {next : Except Thrown β → H.World → Program H α}
    (hnext : ∀ r w', (next r w').Upholds law d (told ++ e.published) start) :
    (Program.effect e w next).Upholds law d told start :=
  of_after rfl rfl rfl (hnext _ _)

/-- A complaint of the library is no record. -/
theorem complain {severity : Severity} {message : String} {w : H.World}
    {next : Except Thrown Unit → H.World → Program H α}
    (hnext : ∀ r w', (next r w').Upholds law d told start) :
    (Program.effect (.complain severity message) w next).Upholds law d told start := by
  refine effect fun r w' => ?_
  show (next r w').Upholds law d (told ++ []) start
  rw [List.append_nil]
  exact hnext r w'

/-- A pause tells nothing. -/
theorem sleep {t : Rat} {w : H.World} {next : Except Thrown Unit → H.World → Program H α}
    (hnext : (next (d.sleep t w).1 (d.sleep t w).2).Upholds law d told start) :
    (Program.sleep t w next).Upholds law d told start := by
  refine of_after rfl rfl rfl ?_
  show Upholds law d (told ++ []) _ start
  rwa [List.append_nil]

/-- Something awaited tells nothing. -/
theorem await {code : Act H.World β} {w : H.World}
    {next : Except Thrown β → H.World → Program H α}
    (hnext : ∀ r w', (next r w').Upholds law d told start) :
    (Program.await code w next).Upholds law d told start := by
  refine of_after rfl rfl rfl ?_
  show Upholds law d (told ++ []) _ start
  rw [List.append_nil]
  exact hnext _ _

/-- An outside call tells nothing of its own. -/
theorem outside {e : Effect H (Reply H.World β)} {w : H.World}
    {next : Except Thrown β → H.World → Program H α}
    (hnext : ∀ r w', (next r w').Upholds law d told start) :
    (Program.outside e w next).Upholds law d told start := by
  refine effect fun r w' => ?_
  rw [Effect.published_reply w, List.append_nil]
  rcases r with thrown | reply
  · exact hnext _ _
  · cases reply with
    | value b => exact hnext _ _
    | awaitable code => exact await hnext

/-- A node of the log is announced. Sinks that throw make the step go back to where it was started,
although a record may have been published. -/
theorem announce (hsinks : law.Forgiving ∨ H.Quiet) (hstart : law.holds start) {node : Log}
    {w : H.World} {next : H.World → Program H α}
    (hnext : ∀ w', (next w').Upholds law d (told ++ s.announced node) start) :
    (Flow.announce s node w next).Upholds law d told start := by
  unfold Flow.announce
  unfold RunState.announced at hnext
  split
  next hsilent =>
    rw [if_pos hsilent, List.append_nil] at hnext
    exact hnext w
  next hloud =>
    rw [if_neg hloud] at hnext
    rcases hsinks with forgiving | quiet
    · refine effect fun r w' => ?_
      cases r with
      | error e => exact raise w' (.back forgiving hstart)
      | ok u =>
        refine effect fun r w'' => ?_
        show Upholds law d (told ++ [] ++ [node.record]) _ start
        rw [List.append_nil]
        cases r with
        | error e => exact raise w'' (.back forgiving hstart)
        | ok u => exact hnext w''
    · obtain ⟨w₁, hlogged⟩ := quiet.logLine s.settings.sinks node.message node.indent w
      obtain ⟨w₂, hpublished⟩ := quiet.publish s.settings.sinks node.record w₁
      refine of_after rfl rfl rfl ?_
      rw [Host.perform, hlogged]
      refine of_after rfl rfl rfl ?_
      rw [Host.perform, hpublished]
      show Upholds law d (told ++ [] ++ [node.record]) (next w₂) start
      rw [List.append_nil]
      exact hnext w₂

/-- The step that takes the place of another one starts behind the records told so far. -/
theorem endWith {c : Flow H α} {env : H.Env} {w : H.World} (h : law.Allows start told s)
    (hclean : law.strict → s.failures = []) (hc : c.Upholds law d) :
    (c.endWith env s w).Upholds law d told start :=
  step h hclean hc fun _ w' _ ho => finish w' ho

/-- What a function throws is thrown by the step that called it. A function that never throws needs
no way back. -/
theorem thrown {γ : Type _} {a : Act H.World γ} {e : Thrown} {w w' : H.World}
    (hthrow : law.Forgiving ∨ a.Calm) (ha : a w = (.error e, w')) (hstart : law.holds start) :
    (Program.raise e w' : Program H α).Upholds law d told start := by
  rcases hthrow with forgiving | calm
  · exact raise w' (.back forgiving hstart)
  · obtain ⟨x, v, hx⟩ := calm w
    rw [hx] at ha
    cases ha

/-- Making a flow may throw, and then the step is back at its start. -/
theorem endWithMade {f : Act H.World (Flow H α)} {env : H.Env} {w : H.World}
    (hthrow : law.Forgiving ∨ f.Calm) (hstart : law.holds start) (h : law.Allows start told s)
    (hclean : law.strict → s.failures = []) (hf : ∀ c w', f w = (.ok c, w') → c.Upholds law d) :
    (Flow.endWithMade (f w) env s).Upholds law d told start := by
  rcases hmade : f w with ⟨e | c, w'⟩
  · exact thrown hthrow hmade hstart
  · exact endWith h hclean (hf c w' hmade)

/-- So may giving a value. -/
theorem endWithValue {f : Act H.World α} {w : H.World} (hthrow : law.Forgiving ∨ f.Calm)
    (hstart : law.holds start) (h : law.Allows start told s) :
    (Flow.endWithValue (f w) s).Upholds law d told start := by
  rcases hgiven : f w with ⟨e | a, w'⟩
  · exact thrown hthrow hgiven hstart
  · exact value w' h

/-- A step that has done nothing yet may throw. -/
theorem endWithFirst (given : Except Thrown α × H.World) (hs : law.holds s) :
    (Flow.endWithValue given s).Upholds law d [] s := by
  obtain ⟨e | a, w⟩ := given
  · exact raise w (.here hs)
  · exact value w (.here hs)

/-- So may closing code. -/
theorem closeWith {close : Act H.World Unit} {o : Outcome H α} {w : H.World}
    (hthrow : law.Forgiving ∨ close.Calm) (hstart : law.holds start)
    (h : law.Allows start told o.state) : (Flow.closeWith close o w).Upholds law d told start := by
  unfold Flow.closeWith
  split
  next hclosed => exact finish _ h
  next hclosed => exact thrown hthrow hclosed hstart

/-- Changing the value of a program changes no step, no state and no event. -/
theorem map {p : Program H α} (f : α → β) (h : p.Upholds law d told start) :
    (p.map f).Upholds law d told start := by
  intro permitted
  rw [launches_map] at permitted
  obtain ⟨hstates, hstarts, hends⟩ := h permitted
  refine ⟨?_, ?_, ?_⟩
  · rw [history_map]
    exact hstates
  · rw [history_map]
    exact hstarts
  · rw [history_map]
    show law.Allows start _ ((p.history d start).outcome.map f).state
    rw [Outcome.state_map]
    exact hends

end Program.Upholds

end Walkthrough
