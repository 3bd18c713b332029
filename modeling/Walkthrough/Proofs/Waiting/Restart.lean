import Walkthrough.Proofs.Run.Idle
import Walkthrough.Proofs.Waiting.Advance

/-!
# Waits restart from where they began

Every attempt of a wait is run from the state that the wait was started from, and the first one that
decides anything is the last: one that fails, or whose value is what is waited for. Its outcome is
the outcome of the wait. When the time is up before that, what is left is the state that the wait
was started from, with the line and the failure of a timeout and nothing of any attempt
(`Flow.waitUntil_restarts`). There is no other end, except that a wait is cut for which the clock
stands still.

The failure is only there when the wait was started without failures. A step that fails writes its
line first, and what follows a line in a state with failures is not run, so a wait that was started
with failures ends with these (`Flow.waitUntil_restarts_faulted`).
-/

namespace Walkthrough

variable {H : Host} {α : Type} {d : Driver H}

/-! ## The end of a wait whose time is up -/

namespace Flow

/-- The code that words the timeout does not throw. -/
def Watch.DescribesCalmly (watch : Watch H α) : Prop :=
  ∀ describe ∈ watch.describe, ∀ a, (describe a).Calm

theorem Watch.DescribesCalmly.timeoutMessage {watch : Watch H α} (h : watch.DescribesCalmly)
    (timeout : Rat) (a : α) : (timeoutMessage watch timeout a).Calm := by
  unfold Flow.timeoutMessage
  cases hdescribe : watch.describe with
  | none => exact Act.calm_ok _
  | some describe => exact (h describe hdescribe a).map _

/-- The state that is left when a step fails in the state `s`: there is one line more, and one
failure more unless there were failures before. -/
def failedState (s : H.State) (f : Failure) : H.State :=
  (s.withLine .error f.message).addFailures (if s.faulted then [] else [f])

theorem outcome_fail (quiet : H.Quiet) (f : Failure) (env : H.Env) (s : H.State) (w : H.World) :
    let o := ((fail f : Flow H α).history d env s w).outcome
    o.value? = none ∧ o.state = failedState s f := by
  intro o
  have ho : o = (((fail f : Flow H α) env s w).history d s).outcome :=
    congrArg History.outcome (history_eq ..)
  rw [ho]
  cases hs : s.faulted with
  | false =>
    have hfail := keeps_fail (α := α) (d := d) quiet True f env
      (RunState.faulted_eq_false_iff.mp hs) w
    rw [hfail.outcome]
    simp [failedState, hs, Outcome.fault, Outcome.value?, Outcome.state]
  | true =>
    have hline : (errorLine f.message env s w).Keeps d (fun _ => True) s fun o =>
        o = .of () (s.withLine .error f.message) :=
      .announce_quiet quiet (fun _ _ _ _ => trivial) (fun _ _ _ => trivial) fun w' => .finish w' rfl
    have hstate : (s.withLine .error f.message).failures ≠ [] := by
      simpa [RunState.faulted] using hs
    -- the line is written to a state with failures, in which nothing more is run
    refine (Program.Keeps.run (Q := fun o => o.value? = none ∧ o.state = failedState s f) trivial
      hline (fun _ _ => trivial) fun o w' ho => ?_).outcome
    subst ho
    rw [Outcome.of, dif_neg hstate]
    refine .finish w' ⟨rfl, ?_⟩
    simp [failedState, hs, Outcome.state, RunState.addFailures_nil]

/-- A wait that gives up fails in the state that it was started from. -/
theorem outcome_giveUp (quiet : H.Quiet) {watch : Watch H α} {timeout elapsed : Rat}
    {attempts : Nat} {a : α} (env : H.Env) (s start : H.State) {w v : H.World} {message : String}
    (hmessage : timeoutMessage watch timeout a
      (H.complain .warning (timeoutWarning watch attempts elapsed) w) = (.ok message, v)) :
    let o := ((giveUp watch timeout elapsed attempts a env s w).history d start).outcome
    o.value? = none ∧ o.state = failedState s (.ofMessage .timeout message) := by
  intro o
  have ho : o = ((fail (.ofMessage .timeout message)).history d env s v).outcome :=
    ((leads_giveUp env s hmessage).trans (.endWith _ env s v)).outcome start
  rw [ho]
  exact outcome_fail quiet _ env s v

end Flow

/-! ## What decides a wait -/

namespace Wait

variable {x : Wait H α}

/-- An attempt is the last one whatever the time: it has failed, or its value is what is waited
for. -/
def Decides (x : Wait H α) (d : Driver H) (w : H.World) : Prop :=
  ∀ a t sound, (x.attempt d w).outcome = .success a t sound →
    (x.watch.continueIf a (x.attempt d w).world).1 = .ok false

theorem decides_iff {w : H.World} : x.Decides d w ↔ (x.judged d w).1 = .ok false := by
  rcases ho : (x.attempt d w).outcome with ⟨a, t, sound⟩ | ⟨u, t, unsound⟩
  · rw [judged_of_success ho]
    constructor
    · exact fun h => h a t sound ho
    · intro h a' t' sound' ho'
      cases ho.symm.trans ho'
      exact h
  · rw [judged_of_faulted ho]
    exact iff_of_true (fun a t sound ho' => nomatch ho.symm.trans ho') rfl

/-- What is tried again has not decided anything. -/
theorem Retried.not_decides {w last : H.World} {ws : List H.World} (h : x.Retried d w ws last) :
    ∀ v ∈ ws, ¬ x.Decides d v := by
  induction h with
  | here w => simp
  | again first rest ih =>
    obtain ⟨hjudged, -, -⟩ := first
    refine List.forall_mem_cons.mpr ⟨fun hdecides => ?_, ih⟩
    have hfalse := decides_iff.mp hdecides
    rw [hjudged] at hfalse
    cases hfalse

end Wait

namespace Flow

/-- A wait runs its attempts from the state that it was started from. Those that are repeated have
decided nothing, so none of them has failed. The last attempt either decides, and its outcome is the
outcome of the wait; or its value asks for more when no time is left, and the wait fails in the
state that it was started from. A wait that comes to neither end is cut, and has no outcome of its
own; under a clock that advances this does not happen. -/
theorem waitUntil_restarts (steady : d.Steady) (c : Flow H α) {watch : Watch H α}
    (calm : ∀ a, (watch.continueIf a).Calm) (interval wait : Option Span) (env : H.Env)
    (s : H.State) (w : H.World) :
    let flow := c.waitUntil watch interval wait
    let run := flow.history d env s w
    let x := Wait.begun c watch interval wait env s w
    ∃ ws last told, x.Retried d w ws last ∧
      flow.trace d env s w = .entered ⟨flow, env, s, w⟩ ::
        (ws.flatMap (x.round d) ++ c.trace d env s last ++ told ++ [.left run.outcome]) ∧
      (∀ v ∈ ws, ¬ x.Decides d v) ∧
      (x.Decides d last ∧ told = [] ∧ run.outcome = (c.history d env s last).outcome ∨
        (¬ x.Decides d last ∧ ∃ a t sound v,
          (c.history d env s last).outcome = .success a t sound ∧ x.timeout ≤ x.elapsed d last ∧
          told = (giveUp watch x.timeout (x.elapsed d last) (ws.length + 1) a env s v).moments d ∧
          (H.Quiet → watch.DescribesCalmly → ∃ message,
            (timeoutMessage watch x.timeout a (H.complain .warning
              (timeoutWarning watch (ws.length + 1) (x.elapsed d last)) v)).1 = .ok message ∧
            run.outcome.value? = none ∧
            run.outcome.state = failedState s (.ofMessage .timeout message))) ∨
        x.Overruns d w ∧ told = [] ∧ run.outcome = .raised s (.fault .endless)) ∧
      (x.Advances d w → ¬ x.Overruns d w) := by
  intro flow run x
  obtain ⟨ws, last, q, hretried, -, hends, hflow⟩ :=
    leads_waitUntil steady c watch interval wait env s w
  have houtcome : run.outcome = (q.history d s).outcome := outcome_of_leads hflow
  refine ⟨ws, last, q.moments d, hretried, trace_of_leads hflow, hretried.not_decides, ?_,
    fun hadvances => hadvances.not_overruns⟩
  cases hends with
  | settled hjudged =>
    exact .inl ⟨Wait.decides_iff.mpr (congrArg Prod.fst hjudged), rfl, houtcome⟩
  | threw hjudged =>
    -- nothing was thrown: the code that asks for more does not throw
    obtain ⟨a, t, sound, ho⟩ := Wait.success_of_judged hjudged (by simp)
    obtain ⟨again, v', hasked⟩ := calm a (x.attempt d last).world
    rw [Wait.judged_of_success ho] at hjudged
    cases hasked.symm.trans hjudged
  | @late a t sound v ho hjudged up =>
    refine .inr (.inl ⟨?_, a, t, sound, v, ho, up, rfl, fun quiet describes => ?_⟩)
    · rw [Wait.decides_iff, hjudged]
      simp
    · obtain ⟨message, v', hmessage⟩ := describes.timeoutMessage x.timeout a (H.complain .warning
        (timeoutWarning watch (ws.length + 1) (x.elapsed d last)) v)
      refine ⟨message, congrArg Prod.fst hmessage, ?_⟩
      rw [houtcome]
      exact outcome_giveUp quiet env s s hmessage
  | cut hjudged early spent =>
    exact .inr (.inr ⟨⟨hretried, spent, hjudged, early⟩, rfl, houtcome⟩)

/-- A flow that gives the time is run until five microseconds are over. A wait with enough time ends
with the value of an attempt; one that has three microseconds fails. -/
theorem waitUntil_restarts_timed :
    let c : Flow Host.timekeeping Nat := lift fun w => (.ok (.value w), w)
    let watch : Watch Host.timekeeping Nat := ⟨fun a => .ok (decide (a < 5)), "the hour", none⟩
    let interval : Option Span := some (.seconds (2 / 1000000))
    let short : Option Span := some (.seconds (3 / 1000000))
    let s := Host.timekeepingStart.withMuted true
    let patient := Wait.begun c watch interval none () s (0 : Nat)
    let hasty := Wait.begun c watch interval short () s (0 : Nat)
    let f := Failure.ofMessage .timeout
      ("Timed out after " ++ Number.general hasty.timeout ++ "s waiting for " ++ watch.label)
    (Driver.blocking : Driver Host.timekeeping).Steady ∧ (∀ a, (watch.continueIf a).Calm) ∧
      Host.timekeeping.Quiet ∧ watch.DescribesCalmly ∧
      ((c.waitUntil watch interval none).history .blocking () s (0 : Nat)).outcome.value? = some 6 ∧
      (∃ ws last, patient.Retried .blocking (0 : Nat) ws last ∧
        (∀ v ∈ ws, ¬ patient.Decides .blocking v) ∧ patient.Decides .blocking last ∧
        ((c.waitUntil watch interval none).history .blocking () s (0 : Nat)).outcome =
          (patient.attempt .blocking last).outcome) ∧
      (∃ ws last, hasty.Retried .blocking (0 : Nat) ws last ∧
        (∀ v ∈ ws, ¬ hasty.Decides .blocking v) ∧ ¬ hasty.Decides .blocking last ∧
        ((c.waitUntil watch interval short).history .blocking () s (0 : Nat)).outcome.state =
          failedState s f) := by
  intro c watch interval short s patient hasty f
  have steady : (Driver.blocking : Driver Host.timekeeping).Steady := Driver.steady_blocking
  have calm : ∀ a, (watch.continueIf a).Calm := fun a => Act.calm_ok _
  have describes : watch.DescribesCalmly := fun _ hdescribe => nomatch hdescribe
  have hvalue : ((c.waitUntil watch interval none).history .blocking () s
      (0 : Nat)).outcome.value? = some 6 := by
    rw [history_eq]
    decide +kernel
  have hnone : ((c.waitUntil watch interval short).history .blocking () s
      (0 : Nat)).outcome.value? = none := by
    rw [history_eq]
    decide +kernel
  have hkinds : ((c.waitUntil watch interval short).history .blocking () s
      (0 : Nat)).outcome.failures.map Failure.kindName = ["FlowTimeoutError"] := by
    rw [history_eq]
    decide +kernel
  refine ⟨steady, calm, Host.quiet_timekeeping, describes, hvalue, ?_, ?_⟩
  · obtain ⟨ws, last, told, hretried, -, hws, hlast, -⟩ :=
      waitUntil_restarts steady c calm interval none () s (0 : Nat)
    rcases hlast with
      ⟨hdecides, -, houtcome⟩ | ⟨-, a, t, sound, v, -, -, -, hfailed⟩ | ⟨-, -, hcut⟩
    · exact ⟨ws, last, hretried, hws, hdecides, houtcome⟩
    · obtain ⟨message, -, hlost, -⟩ := hfailed Host.quiet_timekeeping describes
      cases hvalue.symm.trans hlost
    · cases hvalue.symm.trans (congrArg Outcome.value? hcut)
  · obtain ⟨ws, last, told, hretried, -, hws, hlast, -⟩ :=
      waitUntil_restarts steady c calm interval short () s (0 : Nat)
    rcases hlast with
      ⟨-, -, houtcome⟩ | ⟨hundecided, a, t, sound, v, -, -, -, hfailed⟩ | ⟨-, -, hcut⟩
    · -- an attempt always has a value
      have hsome : (c.history .blocking () s last).outcome.value? = some last := by
        rw [history_eq]
        rfl
      rw [houtcome, hsome] at hnone
      cases hnone
    · obtain ⟨message, hmessage, -, hstate⟩ := hfailed Host.quiet_timekeeping describes
      cases hmessage
      exact ⟨ws, last, hretried, hws, hundecided, hstate⟩
    · -- a wait that is cut leaves no timeout
      rw [hcut] at hkinds
      exact absurd hkinds (by decide)

/-- A wait that is started with a failure, around a flow that clears the failures of its own run:
the attempt succeeds, its value is rejected and no time is left, but no timeout is added to the
failure. -/
theorem waitUntil_restarts_faulted :
    let early : Failure := .single .assertion "early" [] none
    let s : Host.timekeeping.State := Host.timekeepingStart.addFailures [early]
    let c : Flow Host.timekeeping Unit := modifyState fun s => .ok (s.withFailures [])
    let watch : Watch Host.timekeeping Unit := ⟨fun _ => .ok true, "condition", none⟩
    let now : Option Span := some (.seconds 0)
    let x := Wait.begun c watch now now () s (0 : Nat)
    let run := (c.waitUntil watch now now).history .blocking () s (0 : Nat)
    (∀ a, (watch.continueIf a).Calm) ∧ Host.timekeeping.Quiet ∧ watch.DescribesCalmly ∧
      (x.attempt .blocking (0 : Nat)).outcome.isFaulted = false ∧
      x.timeout ≤ x.elapsed .blocking (0 : Nat) ∧
      run.outcome.failures.map Failure.text = ["early"] ∧
      ∀ f, run.outcome.failures ≠ s.failures ++ [f] := by
  intro early s c watch now x run
  have hrun : run = ((c.waitUntil watch now now) () s (0 : Nat)).history .blocking s :=
    history_eq ..
  have hattempt : x.attempt .blocking (0 : Nat) = (c () s (0 : Nat)).history .blocking s :=
    history_eq ..
  have htexts : run.outcome.failures.map Failure.text = ["early"] := by
    rw [hrun]
    decide +kernel
  have describes : watch.DescribesCalmly := fun _ hdescribe => nomatch hdescribe
  refine ⟨fun _ => Act.calm_ok _, Host.quiet_timekeeping, describes, ?_, ?_, htexts, fun f hf => ?_⟩
  · rw [hattempt]
    decide +kernel
  · unfold Wait.elapsed Wait.judged
    rw [hattempt]
    decide +kernel
  · rw [hf] at htexts
    have htwo : ["early", f.text] = ["early"] := htexts
    simp at htwo

end Flow

end Walkthrough
