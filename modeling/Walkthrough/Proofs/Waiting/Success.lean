import Walkthrough.Proofs.Waiting.Restart

/-!
# Waiting for a success

A flow that is waited for succeeds in the end or its time is up. The first attempt that succeeds
ends the wait, with its value and its state. Without one the wait fails in the state that it was
started from, with a single timeout that ends with the text of the last failure of the last attempt
(`Flow.waitUntilSucceeds_settles`). Under a clock that advances these are its only ends.

`Flow.attempt` turns a failure into a value, so that the wait below never sees a failed attempt: it
asks for more exactly when the flow has failed (`Wait.judged_attempt`).
-/

namespace Walkthrough

variable {H : Host} {α β : Type} {d : Driver H}

/-! ## Outcomes -/

namespace Outcome

theorem eq_fault {o : Outcome H α} {s : H.State} {f : Failure} {fs : List Failure}
    (hvalue : o.value? = none) (hstate : o.state = s.addFailures (f :: fs)) :
    o = .fault s f fs := by
  cases o with
  | success a t sound => cases hvalue
  | faulted v t unsound =>
    cases hvalue
    cases hstate
    rfl

/-- The outcome once a failure that is a value is a failure again. -/
def settled : Outcome H (Except Failure α) → Outcome H α
  | success (.ok a) t h => success a t h
  | success (.error f) t _ => fault t f []
  | faulted _ t h => faulted none t h

theorem eq_success_of_settled {o : Outcome H (Except Failure α)} {a : α} {t : H.State}
    {sound : t.failures = []} (h : o.settled = .success a t sound) :
    o = .success (.ok a) t sound := by
  rcases o with ⟨f | b, u, hu⟩ | ⟨v, u, hu⟩
  · cases h
  · cases h
    rfl
  · cases h

end Outcome

/-! ## One attempt -/

namespace Flow

variable {c : Flow H α} {env : H.Env} {s t : H.State} {w : H.World}

theorem leads_map_of_success {a : α} {sound : t.failures = []}
    (ho : (c.history d env s w).outcome = .success a t sound) (g : α → β) :
    ((c.map fun a => .ok (g a)) env s w).Leads d (c.trace d env s w)
      (.finish (.success (g a) t sound) (c.history d env s w).world) := by
  refine .run ?_
  rw [ho]
  exact congrArg (Program.finish · _) (Outcome.of_eq_success sound)

theorem leads_map_of_faulted {v : Option α} {unsound : t.failures ≠ []}
    (ho : (c.history d env s w).outcome = .faulted v t unsound) (g : α → Act H.World β) :
    ((c.map g) env s w).Leads d (c.trace d env s w)
      (.finish (.faulted none t unsound) (c.history d env s w).world) := by
  refine .run ?_
  rw [ho]

/-- The flow of an attempt, whose failure is not yet a value. -/
abbrev tagged (c : Flow H α) : Flow H (Except Failure α) := c.map fun a => .ok (.ok a)

theorem leads_attempt_of_success {a : α} {sound : t.failures = []}
    (ho : (c.history d env s w).outcome = .success a t sound) :
    (attempt c env s w).Leads d ((tagged c).trace d env s w)
      (.finish (.success (.ok a) t sound) (c.history d env s w).world) := by
  have htagged := leads_map_of_success ho fun a => (.ok a : Except Failure α)
  refine .run ?_
  rw [outcome_of_leads htagged, world_of_leads htagged]
  rfl

theorem leads_attempt_of_faulted (hs : s.failures = []) {v : Option α} {unsound : t.failures ≠ []}
    (ho : (c.history d env s w).outcome = .faulted v t unsound) :
    let failed : Flow H (Except Failure α) := pure (.error (t.failures.getLast unsound))
    (attempt c env s w).Leads d
      ((tagged c).trace d env s w ++ failed.trace d env s (c.history d env s w).world)
      (.finish (.success (.error (t.failures.getLast unsound)) s hs)
        (c.history d env s w).world) := by
  intro failed
  have htagged := leads_map_of_faulted ho fun a => .ok (.ok a : Except Failure α)
  have hlast : t.failures.getLast?.getD default = t.failures.getLast unsound := by
    rw [List.getLast?_eq_some_getLast unsound, Option.getD_some]
  have hfailed : (failed.history d env s (c.history d env s w).world).outcome =
      .success (.error (t.failures.getLast unsound)) s hs := by
    rw [history_eq]
    exact Outcome.of_eq_success hs
  have hworld : (failed.history d env s (c.history d env s w).world).world =
      (c.history d env s w).world := by
    rw [history_eq]
    rfl
  refine .run_trans ?_
  rw [outcome_of_leads htagged, world_of_leads htagged]
  dsimp only [Program.history]
  rw [hlast]
  refine .run ?_
  rw [hfailed, hworld]

/-- An attempt whose flow has failed leaves the state that it was started from. -/
theorem outcome_attempt_of_faulted (hs : s.failures = []) {v : Option α}
    {unsound : t.failures ≠ []} (ho : (c.history d env s w).outcome = .faulted v t unsound) :
    ((attempt c).history d env s w).outcome =
      .success (.error (t.failures.getLast unsound)) s hs :=
  outcome_of_leads (leads_attempt_of_faulted hs ho)

/-- An attempt with a value that is not a failure is the flow itself. -/
theorem success_of_attempt {a : α} {sound : t.failures = []}
    (h : ((attempt c).history d env s w).outcome = .success (.ok a) t sound) :
    (c.history d env s w).outcome = .success a t sound := by
  rcases ho : (c.history d env s w).outcome with ⟨b, u, hu⟩ | ⟨v, u, hu⟩
  · cases h.symm.trans (outcome_of_leads (leads_attempt_of_success ho))
    rfl
  · -- what is left of a failure is the failure as a value, or a failure again
    have hfailed : (attempt c env s w).Keeps d (fun _ => True) s fun o =>
        ∀ a t sound, o ≠ .success (.ok a) t sound := by
      refine .run (R := (· = .faulted none u hu)) trivial ⟨fun _ _ => trivial, ?_⟩
        (fun _ _ => trivial) fun left w' hleft => ?_
      · rw [← history_eq]
        exact outcome_of_leads (leads_map_of_faulted ho _)
      · subst hleft
        refine .run (R := (· = .of (.error (u.failures.getLast?.getD default)) s)) trivial
          (.finish w' rfl) (fun _ _ => trivial) fun right w'' hright => ?_
        subst hright
        by_cases hs : s.failures = []
        · rw [Outcome.of_eq_success hs]
          refine .finish w'' fun a t sound h => ?_
          cases h
        · rw [Outcome.of, dif_neg hs]
          refine .finish w'' fun a t sound h => ?_
          cases h
    rw [history_eq] at h
    exact absurd h (hfailed.outcome a t sound)

end Flow

/-- The wait asks for more exactly when the flow has failed. -/
theorem Wait.judged_attempt (c : Flow H α) (label : String) (interval wait : Option Span)
    (env : H.Env) {s : H.State} (hs : s.failures = []) (w v : H.World) :
    (Wait.begun (Flow.attempt c) (Flow.succeedsWatch label) interval wait env s w).judged d v =
      (.ok (c.history d env s v).outcome.isFaulted, (c.history d env s v).world) := by
  rcases ho : (c.history d env s v).outcome with ⟨a, t, sound⟩ | ⟨u, t, unsound⟩
  · have hattempt := Flow.leads_attempt_of_success ho
    refine (Wait.judged_of_success (Flow.outcome_of_leads hattempt)).trans ?_
    exact congrArg (Prod.mk _) (Flow.world_of_leads hattempt)
  · have hattempt := Flow.leads_attempt_of_faulted hs ho
    refine (Wait.judged_of_success (Flow.outcome_of_leads hattempt)).trans ?_
    exact congrArg (Prod.mk _) (Flow.world_of_leads hattempt)

/-! ## All attempts -/

namespace Flow

/-- Settling shows what it settles and nothing else. -/
theorem leads_settle (c : Flow H (Except Failure α)) (env : H.Env) (s : H.State) (w : H.World) :
    (settle c env s w).Leads d (c.trace d env s w)
      (.finish (c.history d env s w).outcome.settled (c.history d env s w).world) := by
  refine .run ?_
  rcases (c.history d env s w).outcome with ⟨f | a, t, sound⟩ | ⟨v, t, unsound⟩
  · rfl
  · exact congrArg (Program.finish · _) (Outcome.of_eq_success sound)
  · rfl

theorem outcome_settle (c : Flow H (Except Failure α)) (env : H.Env) (s : H.State) (w : H.World) :
    ((settle c).history d env s w).outcome = (c.history d env s w).outcome.settled :=
  outcome_of_leads (leads_settle c env s w)

/-- A wait for a success ends as the wait below goes on, once that is settled. -/
theorem outcome_waitUntilSucceeds {c : Flow H α} {interval wait : Option Span} {label : String}
    {env : H.Env} {s : H.State} {w : H.World} {ms : List (Moment H)}
    {q : Program H (Except Failure α)}
    (h : ((attempt c).waitUntil (succeedsWatch label) interval wait env s w).Leads d ms q) :
    ((c.waitUntilSucceeds interval wait label).history d env s w).outcome =
      (q.history d s).outcome.settled :=
  (outcome_settle ..).trans (congrArg Outcome.settled (outcome_of_leads h))

/-- What a wait for a success shows is what the wait below shows. -/
theorem trace_waitUntilSucceeds {c : Flow H α} {interval wait : Option Span} {label : String}
    {env : H.Env} {s : H.State} {w : H.World} {ms : List (Moment H)}
    {q : Program H (Except Failure α)}
    (h : ((attempt c).waitUntil (succeedsWatch label) interval wait env s w).Leads d ms q) :
    let flow := c.waitUntilSucceeds interval wait label
    let inner := (attempt c).waitUntil (succeedsWatch label) interval wait
    flow.trace d env s w = .entered ⟨flow, env, s, w⟩ :: .entered ⟨inner, env, s, w⟩ ::
      (ms ++ q.moments d ++
        [.left (inner.history d env s w).outcome, .left (flow.history d env s w).outcome]) := by
  intro flow inner
  have hsettle : (flow env s w).Leads d _ _ := leads_settle inner env s w
  rw [trace_of_leads hsettle, trace_of_leads h]
  simp only [List.cons_append, List.append_assoc, List.nil_append]
  rfl

/-- When the time is up after a failed attempt, the failure that is left names that of the
attempt. -/
theorem outcome_giveUp_attempt (quiet : H.Quiet) (label : String) (timeout elapsed : Rat)
    (attempts : Nat) (last : Failure) (env : H.Env) {s : H.State} (hs : s.failures = [])
    (start : H.State) (w : H.World) :
    let watch : Watch H (Except Failure α) := succeedsWatch label
    let f := timedOut timeout label last
    ((giveUp watch timeout elapsed attempts (.error last) env s w).history d start).outcome =
      .fault (s.withLine .error f.message) f [] := by
  intro watch f
  let v := H.complain .warning (timeoutWarning watch attempts elapsed) w
  have hmessage : timeoutMessage watch timeout (.error last) v = (.ok f.message, v) := rfl
  obtain ⟨hnone, hstate⟩ := outcome_giveUp (d := d) quiet env s start hmessage
  rw [failedState, RunState.faulted_eq_false_iff.mpr hs] at hstate
  exact Outcome.eq_fault hnone hstate

/-- How a wait for a success ends that was started without failures: with a success of the flow,
late after a failure, or cut after one. -/
theorem settled_of_ends (quiet : H.Quiet) (c : Flow H α) (label : String)
    (interval wait : Option Span) (env : H.Env) {s : H.State} (hs : s.failures = []) (w : H.World)
    {limit tried : Nat} {last : H.World} {q : Program H (Except Failure α)} :
    let x := Wait.begun (attempt c) (succeedsWatch label) interval wait env s w
    x.Ends d limit tried last q →
      (c.history d env s last).outcome.isFaulted = false ∧ q.moments d = [] ∧
          (q.history d s).outcome.settled = (c.history d env s last).outcome ∨
        (∃ v t unsound, (c.history d env s last).outcome = .faulted v t unsound ∧
          x.timeout ≤ x.elapsed d last ∧
          let f := timedOut x.timeout label (t.failures.getLast unsound)
          q.moments d = (giveUp x.watch x.timeout (x.elapsed d last) (tried + 1)
            (.error (t.failures.getLast unsound)) env s (c.history d env s last).world).moments d ∧
          (q.history d s).outcome.settled = .fault (s.withLine .error f.message) f []) ∨
        (∃ v, x.judged d last = (.ok true, v)) ∧ x.elapsed d last < x.timeout ∧ tried = limit ∧
          q.moments d = [] ∧ (q.history d s).outcome.settled = .raised s (.fault .endless) := by
  intro x hends
  have hjudged : x.judged d last =
      (.ok (c.history d env s last).outcome.isFaulted, (c.history d env s last).world) :=
    Wait.judged_attempt c label interval wait env hs w last
  rcases ho : (c.history d env s last).outcome with ⟨a, t, sound⟩ | ⟨u, t, unsound⟩
  · rw [ho] at hjudged
    cases hends with
    | settled hsettled =>
      have hattempt : (x.attempt d last).outcome = .success (.ok a) t sound :=
        outcome_of_leads (leads_attempt_of_success ho)
      exact .inl ⟨rfl, rfl, congrArg Outcome.settled hattempt⟩
    | threw hthrew => cases hjudged.symm.trans hthrew
    | late hvalue hlate up => cases hjudged.symm.trans hlate
    | cut hcut early spent => cases hjudged.symm.trans hcut
  · rw [ho] at hjudged
    cases hends with
    | settled hsettled => cases hjudged.symm.trans hsettled
    | threw hthrew => cases hjudged.symm.trans hthrew
    | late hvalue hlate up =>
      cases hjudged.symm.trans hlate
      cases hvalue.symm.trans (outcome_attempt_of_faulted hs ho)
      exact .inr (.inl ⟨u, t, unsound, rfl, up, rfl,
        congrArg Outcome.settled (outcome_giveUp_attempt quiet label x.timeout _ _ _ env hs s _)⟩)
    | cut hcut early spent => exact .inr (.inr ⟨⟨_, hcut⟩, early, spent, rfl, rfl⟩)

/-- A wait for a success ends with the outcome of the first attempt that succeeds, run from the
state that the wait was started from. When the time is up before that, it ends in that state with
one line more and a single failure, the timeout that names the last failure of the last attempt. A
wait that comes to neither end is cut; under a clock that advances this does not happen. -/
theorem waitUntilSucceeds_settles (quiet : H.Quiet) (steady : d.Steady) (c : Flow H α)
    (interval wait : Option Span) (label : String) (env : H.Env) {s : H.State}
    (hs : s.failures = []) (w : H.World) :
    let flow := c.waitUntilSucceeds interval wait label
    let inner := (attempt c).waitUntil (succeedsWatch label) interval wait
    let run := flow.history d env s w
    let x := Wait.begun (attempt c) (succeedsWatch label) interval wait env s w
    ∃ ws last told, x.Retried d w ws last ∧
      flow.trace d env s w = .entered ⟨flow, env, s, w⟩ :: .entered ⟨inner, env, s, w⟩ ::
        (ws.flatMap (x.round d) ++ (attempt c).trace d env s last ++ told ++
          [.left (inner.history d env s w).outcome, .left run.outcome]) ∧
      (∀ v ∈ ws, (c.history d env s v).outcome.isFaulted = true) ∧
      ((c.history d env s last).outcome.isFaulted = false ∧ told = [] ∧
          run.outcome = (c.history d env s last).outcome ∨
        (∃ v t unsound, (c.history d env s last).outcome = .faulted v t unsound ∧
          x.timeout ≤ x.elapsed d last ∧
          let f := timedOut x.timeout label (t.failures.getLast unsound)
          told = (giveUp x.watch x.timeout (x.elapsed d last) (ws.length + 1)
            (.error (t.failures.getLast unsound)) env s (c.history d env s last).world).moments d ∧
          run.outcome = .fault (s.withLine .error f.message) f []) ∨
        x.Overruns d w ∧ told = [] ∧ run.outcome = .raised s (.fault .endless)) ∧
      (x.Advances d w → ¬ x.Overruns d w) := by
  intro flow inner run x
  obtain ⟨ws, last, q, hretried, -, hends, hinner⟩ :=
    leads_waitUntil steady (attempt c) (succeedsWatch label) interval wait env s w
  have houtcome : run.outcome = (q.history d s).outcome.settled := outcome_waitUntilSucceeds hinner
  refine ⟨ws, last, q.moments d, hretried, ?_, fun v hv => ?_, ?_,
    fun hadvances => hadvances.not_overruns⟩
  · exact trace_waitUntilSucceeds hinner
  · have hundecided := hretried.not_decides v hv
    rw [Wait.decides_iff, Wait.judged_attempt c label interval wait env hs] at hundecided
    simpa using hundecided
  · rcases settled_of_ends quiet c label interval wait env hs w hends with
      ⟨hsound, hmoments, hsettled⟩ | ⟨v, t, unsound, ho, up, hmoments, hsettled⟩ |
        ⟨⟨v, hjudged⟩, early, spent, hmoments, hsettled⟩
    · exact .inl ⟨hsound, hmoments, houtcome.trans hsettled⟩
    · exact .inr (.inl ⟨v, t, unsound, ho, up, hmoments, houtcome.trans hsettled⟩)
    · exact .inr (.inr ⟨⟨hretried, spent, hjudged, early⟩, hmoments, houtcome.trans hsettled⟩)

/-! ## Waits that succeed -/

theorem isFaulted_fail (f : Failure) (env : H.Env) (s : H.State) (w : H.World) :
    ((fail f : Flow H α).history d env s w).outcome.isFaulted = true := by
  have hfail : ((fail f : Flow H α) env s w).Keeps d (fun _ => True) s
      fun o => o.isFaulted = true := by
    refine .run (R := fun _ => True) trivial ⟨fun _ _ => trivial, trivial⟩ (fun _ _ => trivial)
      fun o w' _ => ?_
    cases o with
    | faulted v t h => exact .finish w' rfl
    | success u t h =>
      exact .run (R := fun o => o.isFaulted = true) trivial (.finish w' rfl) (fun _ _ => trivial)
        fun o w'' ho => .finish w'' ho
  rw [history_eq]
  exact hfail.outcome

/-- A wait that gives up fails, also when the code that words the timeout throws. -/
theorem isFaulted_giveUp (watch : Watch H α) (timeout elapsed : Rat) (attempts : Nat) (a : α)
    (env : H.Env) (s start : H.State) (w : H.World) :
    ((giveUp watch timeout elapsed attempts a env s w).history d start).outcome.isFaulted =
      true := by
  unfold giveUp
  rw [Program.history, History.outcome_after]
  split
  · rfl
  · exact (congrArg Outcome.isFaulted ((Program.Leads.endWith ..).outcome start)).trans
      (isFaulted_fail ..)

/-- A wait that succeeds succeeds as its last attempt did, whatever the sinks do and from whatever
state it was started. -/
theorem success_of_waitUntilSucceeds (steady : d.Steady) {c : Flow H α}
    {interval wait : Option Span} {label : String} {env : H.Env} {s t : H.State} {w : H.World}
    {a : α} {sound : t.failures = []}
    (h : ((c.waitUntilSucceeds interval wait label).history d env s w).outcome =
      .success a t sound) :
    let flow := c.waitUntilSucceeds interval wait label
    let inner := (attempt c).waitUntil (succeedsWatch label) interval wait
    let x := Wait.begun (attempt c) (succeedsWatch label) interval wait env s w
    ∃ ws last, x.Retried d w ws last ∧
      flow.trace d env s w = .entered ⟨flow, env, s, w⟩ :: .entered ⟨inner, env, s, w⟩ ::
        (ws.flatMap (x.round d) ++ (attempt c).trace d env s last ++
          [.left (inner.history d env s w).outcome, .left (flow.history d env s w).outcome]) ∧
      (c.history d env s last).outcome = .success a t sound := by
  intro flow inner x
  obtain ⟨ws, last, q, hretried, -, hends, hinner⟩ :=
    leads_waitUntil steady (attempt c) (succeedsWatch label) interval wait env s w
  have htrace := trace_waitUntilSucceeds hinner
  have hsettled : (q.history d s).outcome.settled = .success a t sound :=
    (outcome_waitUntilSucceeds hinner).symm.trans h
  cases hends with
  | settled hjudged =>
    refine ⟨ws, last, hretried, ?_, success_of_attempt ?_⟩
    · rwa [Program.moments, List.append_nil] at htrace
    · exact Outcome.eq_success_of_settled hsettled
  | threw hjudged => cases hsettled
  | cut hjudged early spent => cases hsettled
  | late hvalue hjudged up =>
    cases (isFaulted_giveUp ..).symm.trans
      (congrArg Outcome.isFaulted (Outcome.eq_success_of_settled hsettled))

/-- A flow that fails until five microseconds are over. A wait with enough time ends as the first
attempt that succeeds; one that has three microseconds fails. -/
theorem waitUntilSucceeds_settles_timed :
    let c : Flow Host.timekeeping Nat := (lift fun w => (.ok (.value w), w)).bind fun a =>
      .ok (if a < 5 then failWith "early" else pure a)
    let interval : Option Span := some (.seconds (2 / 1000000))
    let short : Option Span := some (.seconds (3 / 1000000))
    let s := Host.timekeepingStart.withMuted true
    let patient := (c.waitUntilSucceeds interval none "the hour").history .blocking () s (0 : Nat)
    let hasty := (c.waitUntilSucceeds interval short "the hour").history .blocking () s (0 : Nat)
    let x := Wait.begun (attempt c) (succeedsWatch "the hour") interval none () s (0 : Nat)
    let y := Wait.begun (attempt c) (succeedsWatch "the hour") interval short () s (0 : Nat)
    Host.timekeeping.Quiet ∧ (Driver.blocking : Driver Host.timekeeping).Steady ∧
      s.failures = [] ∧ patient.outcome.value? = some 6 ∧
      (∃ ws last, x.Retried .blocking (0 : Nat) ws last ∧
        (∀ v ∈ ws, (c.history .blocking () s v).outcome.isFaulted = true) ∧
        patient.outcome = (c.history .blocking () s last).outcome) ∧
      (∃ ws last, ∃ v t unsound, y.Retried .blocking (0 : Nat) ws last ∧
        (c.history .blocking () s last).outcome = .faulted v t unsound ∧
        let f := timedOut y.timeout "the hour" (t.failures.getLast unsound)
        hasty.outcome = .fault (s.withLine .error f.message) f []) := by
  intro c interval short s patient hasty x y
  have steady : (Driver.blocking : Driver Host.timekeeping).Steady := Driver.steady_blocking
  have hvalue : patient.outcome.value? = some 6 := by
    have hrun : patient = ((c.waitUntilSucceeds interval none "the hour") () s
        (0 : Nat)).history .blocking s := history_eq ..
    rw [hrun]
    decide +kernel
  have hkinds : hasty.outcome.failures.map Failure.kindName = ["FlowTimeoutError"] := by
    have hrun : hasty = ((c.waitUntilSucceeds interval short "the hour") () s
        (0 : Nat)).history .blocking s := history_eq ..
    rw [hrun]
    decide +kernel
  refine ⟨Host.quiet_timekeeping, steady, rfl, hvalue, ?_, ?_⟩
  · obtain ⟨ws, last, told, hretried, -, hws, hlast, -⟩ := waitUntilSucceeds_settles
      Host.quiet_timekeeping steady c interval none "the hour" () (s := s) rfl (0 : Nat)
    rcases hlast with
      ⟨-, -, houtcome⟩ | ⟨v, t, unsound, -, -, -, houtcome⟩ | ⟨-, -, houtcome⟩
    · exact ⟨ws, last, hretried, hws, houtcome⟩
    -- the wait has a value, so its time was not up, and it was not cut
    · cases hvalue.symm.trans (congrArg Outcome.value? houtcome)
    · cases hvalue.symm.trans (congrArg Outcome.value? houtcome)
  · obtain ⟨ws, last, told, hretried, -, -, hlast, -⟩ := waitUntilSucceeds_settles
      Host.quiet_timekeeping steady c interval short "the hour" () (s := s) rfl (0 : Nat)
    rcases hlast with
      ⟨hsound, -, houtcome⟩ | ⟨v, t, unsound, ho, -, -, houtcome⟩ | ⟨-, -, houtcome⟩
    · have hnone : hasty.outcome.failures = [] := by
        rw [show hasty.outcome = _ from houtcome]
        exact Outcome.failures_of_unfaulted hsound
      rw [hnone] at hkinds
      cases hkinds
    · exact ⟨ws, last, v, t, unsound, hretried, ho, houtcome⟩
    · rw [show hasty.outcome = _ from houtcome] at hkinds
      exact absurd hkinds (by decide)

end Flow

end Walkthrough
