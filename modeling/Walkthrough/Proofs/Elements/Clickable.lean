import Walkthrough.Proofs.Elements.Uniqueness

/-!
# Waiting until an element is clickable

A wait until an element is clickable looks for the only element that matches and asks whether it is
displayed and enabled, again and again. The page may change between any two calls. Still the element
that is given was seen ready in one look: it was the only one that matched, and was displayed and
enabled right after that (`Action.seenReady_of_look`). Of the looks before it only their calls are
left.

A wait that gives no element fails with the timeout alone, whatever the failures of its looks were.
Headline: `Action.waitUntilClickable_sees_ready`.
-/

namespace Walkthrough

variable {H : Host} {d : Driver H}

namespace Action

open Walkthrough.Flow

/-- Between two worlds a session says of an element that it is displayed, and right after that that
it is enabled. -/
inductive SeenReady (d : Driver H) (handle : H.Session) (e : H.Element) (w v : H.World) : Prop where
  | intro {u : H.World} (displayed : d.answer (H.call handle (.isDisplayed e)) w = (.ok true, u))
      (enabled : d.answer (H.call handle (.isEnabled e)) u = (.ok true, v))

/-- What is asked about an element before it is clicked. -/
def readyCalls (a : Selector H) (e : H.Element) : List (String × Command H.Element H.Datum Bool) :=
  [("Failed to read visibility of " ++ a.describe, .isDisplayed e),
    ("Failed to read enabled state of " ++ a.describe, .isEnabled e)]

/-- Whether all of it is so. -/
def probeReady (a : Selector H) (e : H.Element) : Flow H Bool :=
  (Flow.sequence ((readyCalls a e).map fun (label, command) => callSession label command)).map
    fun answers => .ok (answers.all id)

/-- What is made of the answer. -/
def readyOr (a : Selector H) (e : H.Element) (isReady : Bool) : Flow H H.Element :=
  if isReady then .pure e
  else .failure (.ofMessage .assertion (a.describe ++ " is not clickable")) []

theorem ready_eq (a : Selector H) (e : H.Element) :
    ready a e = (probeReady a e).bind fun isReady => .ok (readyOr a e isReady) := by
  rfl

section

variable {a : Selector H} {env : H.Env} {s t : H.State} {w v : H.World} {e e' : H.Element}
  {isReady : Bool} {sound : t.failures = []}

/-- Only an element that is ready is given. -/
theorem success_of_readyOr
    (h : ((readyOr a e isReady).history d env s w).outcome = .success e' t sound) :
    isReady = true ∧ e' = e ∧ t = s := by
  rw [history_eq] at h
  cases isReady with
  | false => cases h
  | true =>
    have hs : s.failures = [] := by
      by_contra hs
      have hfaulted : (Outcome.of e s : Outcome H H.Element).isFaulted = true := by
        rw [Outcome.of, dif_neg hs]
        rfl
      rw [show Outcome.of e s = _ from h] at hfaulted
      cases hfaulted
    cases (Outcome.of_eq_success hs).symm.trans h
    exact ⟨rfl, rfl, rfl⟩

/-- When all is so, the session has said so, and was asked for that and nothing else. -/
theorem seenReady_of_probe (hs : s.failures = [])
    (h : (probeReady a e).Ends d env s w (.success true t sound) v) :
    t = s ∧ ∃ handle, s.session = some handle ∧ SeenReady d handle e w v ∧
      ((probeReady a e).history d env s w).asked =
        [.asked handle (.isDisplayed e), .asked handle (.isEnabled e)] := by
  obtain ⟨answers, hanswers, hall⟩ := success_of_map_ok h
  have hgiven := givesAll_of_sequence hs hanswers
  obtain - | ⟨hdisplayed, - | ⟨henabled, hnone⟩⟩ := id hgiven
  cases hnone
  obtain ⟨rfl, handle, hsession, displayed⟩ := success_of_callSession hs hdisplayed
  obtain ⟨rfl, handle', hsession', enabled⟩ := success_of_callSession hs henabled
  -- no call changes the state, so both go to one session
  cases hsession.symm.trans hsession'
  have hasked : ((probeReady a e).history d env t w).asked = _ :=
    (asked_map ..).trans (asked_sequence_of_calls hs hsession hgiven)
  obtain ⟨rfl, rfl⟩ : _ ∧ _ := by simpa using hall
  exact ⟨rfl, handle, hsession, ⟨displayed, enabled⟩, hasked⟩

/-- An element that passes the check is ready, and was asked about twice. -/
theorem seenReady_of_ready (hs : s.failures = [])
    (h : ((ready a e).history d env s w).outcome = .success e' t sound) :
    e' = e ∧ t = s ∧ ∃ handle v, s.session = some handle ∧ SeenReady d handle e w v ∧
      ((ready a e).history d env s w).asked =
        [.asked handle (.isDisplayed e), .asked handle (.isEnabled e)] := by
  rw [ready_eq] at h ⊢
  obtain ⟨isReady, u, hu, c, v, hprobe, hmade, hverdict, -⟩ := success_of_bind h
  cases hmade
  obtain ⟨rfl, rfl, rfl⟩ := success_of_readyOr hverdict
  obtain ⟨rfl, handle, hsession, hseen, hprobed⟩ := seenReady_of_probe hs ⟨hprobe, rfl⟩
  obtain ⟨-, -, hasked⟩ := history_bind_of_success (f := readyOr a _) hprobe
  refine ⟨rfl, rfl, handle, _, hsession, hseen, hasked.trans ?_⟩
  rw [hprobed, history_eq]
  rfl

/-- One look for an element that is ready. -/
def lookReady (a : Selector H) : Flow H H.Element := a.findOne.bind fun e => .ok (ready a e)

/-- A look that gives an element has found it alone, and has then seen that it is ready. Nothing is
asked after that. -/
theorem seenReady_of_look
    (h : ((lookReady a).history d env s w).outcome = .success e t sound) :
    let search := a.findAll.history d env s w
    search.outcome = .success [e] t sound ∧
      ∃ handle v, t.session = some handle ∧ SeenReady d handle e search.world v ∧
        ((lookReady a).history d env s w).asked =
          search.asked ++ [.asked handle (.isDisplayed e), .asked handle (.isEnabled e)] := by
  intro search
  obtain ⟨e', u, hu, c, v, hfound, hmade, hready, -⟩ := success_of_bind h
  cases hmade
  obtain ⟨rfl, rfl, handle, v, hsession, hseen, hprobed⟩ := seenReady_of_ready hu hready
  have hsingle := Selector.single_of_findOne hfound
  obtain ⟨-, hworld, hsearched⟩ := Selector.history_findOne_of_single hsingle
  obtain ⟨-, -, hasked⟩ := history_bind_of_success (f := ready a) hfound
  rw [hprobed, hsearched] at hasked
  rw [hworld] at hseen
  exact ⟨hsingle, handle, v, hsession, hseen, hasked⟩

/-! ## The wait -/

variable {interval wait : Option Span} {label : String}

/-- An element that a wait gives was seen ready in the last look. -/
theorem seenReady_of_wait (steady : d.Steady)
    (h : (((lookReady a).waitUntilSucceeds interval wait label).history d env s w).outcome =
      .success e t sound) :
    let x := Wait.begun (attempt (lookReady a)) (succeedsWatch label) interval wait env s w
    ∃ ws last handle v, x.Retried d w ws last ∧
      let search := a.findAll.history d env s last
      search.outcome = .success [e] t sound ∧ t.session = some handle ∧
        SeenReady d handle e search.world v ∧
        (((lookReady a).waitUntilSucceeds interval wait label).history d env s w).asked =
          (ws.flatMap fun v => ((lookReady a).history d env s v).asked) ++
            (search.asked ++ [.asked handle (.isDisplayed e), .asked handle (.isEnabled e)]) := by
  intro x
  obtain ⟨ws, last, hretried, hlook, hasked⟩ := asked_waitUntilSucceeds steady h
  obtain ⟨hsingle, handle, v, hsession, hseen, hlooked⟩ := seenReady_of_look hlook
  rw [hlooked] at hasked
  exact ⟨ws, last, handle, v, hretried, hsingle, hsession, hseen, hasked⟩

/-- A wait that gives no element fails with its timeout, unless it is cut. -/
theorem timedOut_of_wait (quiet : H.Quiet) (steady : d.Steady) (hs : s.failures = [])
    (h : (((lookReady a).waitUntilSucceeds interval wait label).history d env s
      w).outcome.isFaulted = true) :
    let x := Wait.begun (attempt (lookReady a)) (succeedsWatch label) interval wait env s w
    let run := ((lookReady a).waitUntilSucceeds interval wait label).history d env s w
    x.Overruns d w ∧ run.outcome = .raised s (.fault .endless) ∨
      ∃ ws last value? u unsound, x.Retried d w ws last ∧
        ((lookReady a).history d env s last).outcome = .faulted value? u unsound ∧
          x.timeout ≤ x.elapsed d last ∧
            let f := timedOut x.timeout label (u.failures.getLast unsound)
            run.outcome = .fault (s.withLine .error f.message) f [] := by
  intro x run
  obtain ⟨ws, last, q, hretried, -, hends, hwait⟩ :=
    leads_waitUntil steady (attempt (lookReady a)) (succeedsWatch label) interval wait env s w
  have houtcome : run.outcome = (q.history d s).outcome.settled := outcome_waitUntilSucceeds hwait
  rcases settled_of_ends quiet (lookReady a) label interval wait env hs w hends with
    ⟨hsound, -, hended⟩ | ⟨value?, u, unsound, hlast, up, -, hended⟩ |
      ⟨⟨v, hjudged⟩, early, spent, -, hended⟩
  · -- a wait that ends as a look that gives an element has not failed
    rw [show (((lookReady a).waitUntilSucceeds interval wait label).history d env s w).outcome = _
      from houtcome.trans hended, hsound] at h
    cases h
  · exact .inr ⟨ws, last, value?, u, unsound, hretried, hlast, up, houtcome.trans hended⟩
  · exact .inl ⟨⟨hretried, spent, hjudged, early⟩, houtcome.trans hended⟩

end

theorem waitUntilClickable_eq (a : Selector H) (interval wait : Option Span) :
    waitUntilClickable a interval wait =
      (info ("Wait until " ++ a.describe ++ " is clickable")).bind fun _ =>
        .ok ((lookReady a).waitUntilSucceeds interval wait (a.describe ++ " to be clickable")) := by
  rfl

/-- A wait until an element is clickable is run from a state without failures. An element that it
gives was seen ready in the last of its looks: it was the only one that matched, and right after
that the session has said that it is displayed and that it is enabled. The state that is left is the
one that this search has left, and nothing is asked after these two calls. With sinks that take
every line the only other end of the wait is its timeout, which names the last failure of the last
look, except that the wait may be cut; under a clock that advances it is not. -/
theorem waitUntilClickable_sees_ready (steady : d.Steady) (a : Selector H)
    (interval wait : Option Span) (env : H.Env) {s : H.State} (hs : s.failures = []) (w : H.World) :
    let label := a.describe ++ " to be clickable"
    let start := begun (some ("Wait until " ++ a.describe ++ " is clickable")) s w
    let x := Wait.begun (attempt (lookReady a)) (succeedsWatch label) interval wait env start.1
      start.2
    let run := (waitUntilClickable a interval wait).history d env s w
    (∀ e t sound, run.outcome = .success e t sound →
      ∃ ws last handle v, x.Retried d start.2 ws last ∧
        let search := a.findAll.history d env start.1 last
        search.outcome = .success [e] t sound ∧ t.session = some handle ∧
          SeenReady d handle e search.world v ∧
          run.asked = (ws.flatMap fun v => ((lookReady a).history d env start.1 v).asked) ++
            (search.asked ++ [.asked handle (.isDisplayed e), .asked handle (.isEnabled e)])) ∧
    (H.Quiet → run.outcome.isFaulted = true →
      x.Overruns d start.2 ∧ run.outcome = .raised start.1 (.fault .endless) ∨
        ∃ ws last value? u unsound, x.Retried d start.2 ws last ∧
          ((lookReady a).history d env start.1 last).outcome = .faulted value? u unsound ∧
            x.timeout ≤ x.elapsed d last ∧
              let f := timedOut x.timeout label (u.failures.getLast unsound)
              f.kindName = "FlowTimeoutError" ∧ run.outcome.failures = [f] ∧
                run.outcome = .fault (start.1.withLine .error f.message) f []) ∧
    (x.Advances d start.2 → ¬ x.Overruns d start.2) := by
  rw [waitUntilClickable_eq]
  intro label start x run
  let line := "Wait until " ++ a.describe ++ " is clickable"
  let waiting := (lookReady a).waitUntilSucceeds interval wait label
  have hnothing : ((info line).history d env s w).asked = [] := asked_write ..
  refine ⟨fun e t sound hrun => ?_, fun quiet hfaulted => ?_, fun h => h.not_overruns⟩
  · -- the line was written, since the wait has come to an element
    obtain ⟨⟨⟩, u, hu, c, v, hline, hmade, hwait, -⟩ := success_of_bind hrun
    cases hmade
    obtain ⟨rfl, hworld⟩ := success_of_info hline
    rw [hworld] at hwait
    obtain ⟨ws, last, handle, v, hretried, hsingle, hsession, hseen, hwaited⟩ :=
      seenReady_of_wait steady hwait
    obtain ⟨-, -, hasked⟩ := history_bind_of_success (f := fun _ => waiting) hline
    rw [hnothing, hworld] at hasked
    exact ⟨ws, last, handle, v, hretried, hsingle, hsession, hseen, hasked.trans hwaited⟩
  · obtain ⟨hline, hworld, -⟩ := history_info_of_quiet (d := d) quiet line env hs w
    obtain ⟨houtcome, -, -⟩ := history_bind_of_success (f := fun _ => waiting) hline
    rw [hworld] at houtcome
    have hfailed := (congrArg Outcome.isFaulted houtcome).symm.trans hfaulted
    rcases timedOut_of_wait (s := start.1) quiet steady hs hfailed with
      ⟨hoverruns, hended⟩ | ⟨ws, last, value?, u, unsound, hretried, hlast, up, hended⟩
    · exact .inl ⟨hoverruns, houtcome.trans hended⟩
    · have hrun := houtcome.trans hended
      refine .inr ⟨ws, last, value?, u, unsound, hretried, hlast, up, rfl, ?_, hrun⟩
      refine (congrArg Outcome.failures hrun).trans ?_
      exact congrArg (· ++ [_]) hs

/-- A host like `Host.timekeeping` with a page whose only element is displayed, and enabled once
five microseconds are over. A call takes one. -/
abbrev waking : Host :=
  { Host.timekeeping with
    call := fun session command w =>
      match command with
      | .findElements _ _ => (.ok (.value [()]), w + 1)
      | .isDisplayed _ => (.ok (.value true), w + 1)
      | .isEnabled _ => (.ok (.value (decide (5 ≤ w))), w + 1)
      | command => Host.timekeeping.call session command w }

/-- The second look gives the element, when there is time for one. -/
theorem waitUntilClickable_sees_ready_waking :
    let s : waking.State := waking.initialState (some ()) { sinks := () }
    let a : Selector waking := .css "button"
    let interval : Option Span := some (.seconds (2 / 1000000))
    let short : Option Span := some (.seconds (1 / 1000000))
    let start := begun (some ("Wait until " ++ a.describe ++ " is clickable")) s (0 : Nat)
    let patient := (waitUntilClickable a interval none).history .blocking () s (0 : Nat)
    let hasty := (waitUntilClickable a interval short).history .blocking () (s.withMuted true)
      (0 : Nat)
    (Driver.blocking : Driver waking).Steady ∧ waking.Quiet ∧ s.failures = [] ∧
      (∃ last handle v asked,
        (a.findAll.history .blocking () start.1 last).outcome.value? = some [()] ∧
        SeenReady .blocking handle () (a.findAll.history .blocking () start.1 last).world v ∧
        patient.asked = asked ++ [.asked handle (.isDisplayed ()), .asked handle (.isEnabled ())]) ∧
      patient.asked.length = 6 ∧
      hasty.outcome.failures.map Failure.kindName = ["FlowTimeoutError"] := by
  intro s a interval short start patient hasty
  have steady : (Driver.blocking : Driver waking).Steady := Driver.steady_blocking
  have quiet : waking.Quiet := ⟨fun _ _ _ w => ⟨w, rfl⟩, fun _ _ w => ⟨w, rfl⟩⟩
  have hpatient : patient.outcome.isFaulted = false ∧ patient.asked.length = 6 := by
    have hrun : patient = ((waitUntilClickable a interval none) () s
        (0 : Nat)).history .blocking s := history_eq ..
    rw [hrun]
    decide +kernel
  have hhasty : hasty.outcome.isFaulted = true ∧
      hasty.outcome.failures.map Failure.kindName ≠ ["CapabilityFailure"] := by
    have hrun : hasty = ((waitUntilClickable a interval short) () (s.withMuted true)
        (0 : Nat)).history .blocking (s.withMuted true) := history_eq ..
    rw [hrun]
    decide +kernel
  refine ⟨steady, quiet, rfl, ?_, hpatient.2, ?_⟩
  · obtain ⟨hgiven, -⟩ :=
      waitUntilClickable_sees_ready steady a interval none () (s := s) rfl (0 : Nat)
    rcases ho : patient.outcome with ⟨e, t, sound⟩ | ⟨e, t, unsound⟩
    · obtain ⟨ws, last, handle, v, -, hsearch, -, hseen, hasked⟩ := hgiven e t sound ho
      rw [← List.append_assoc] at hasked
      exact ⟨last, handle, v, _, congrArg Outcome.value? hsearch, hseen, hasked⟩
    · rw [ho] at hpatient
      cases hpatient.1
  · obtain ⟨-, hlate, -⟩ :=
      waitUntilClickable_sees_ready steady a interval short () (s := s.withMuted true) rfl (0 : Nat)
    rcases hlate quiet hhasty.1 with
      ⟨-, hcut⟩ | ⟨ws, last, value?, u, unsound, -, -, -, hkind, hfailures, -⟩
    · -- a wait that is cut leaves a failure of another kind
      exact absurd (congrArg (·.failures.map Failure.kindName) hcut) hhasty.2
    · rw [show hasty.outcome.failures = _ from hfailures]
      exact congrArg (fun kind => [kind]) hkind

end Action

end Walkthrough
