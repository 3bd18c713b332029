import Walkthrough.Action
import Walkthrough.Proofs.Elements.Snapshots
import Walkthrough.Proofs.Selection.Fresh

/-!
# What a run asks of its session

A session is asked in one place only, by a flow that calls it (`Flow.asked_callSession`). Lines and
failures ask nothing, whatever the sinks do about them (`Flow.asked_write`, `Flow.asked_fail`), and
what a flow asks that is built from others is what these ask, one after the other. A wait that
succeeds asks what its attempts ask (`Flow.asked_waitUntilSucceeds`): its pauses ask nothing.

The only element that matches is found by the search for all of them: when exactly one is found it
is given, and otherwise the search is followed by a failure; neither asks anything more
(`Selector.history_findOne_of_single`, `Selector.history_findOne_of_other`).
-/

namespace Walkthrough

variable {H : Host} {α β : Type} {d : Driver H}

/-! ## Lines and failures -/

namespace Program

variable {start s : H.State} {w : H.World}

/-- What a sink is handed is no question to a session. -/
theorem asked_sink {e : Effect H Unit} (he : ∀ r, (e.sightings r).filter Sighting.isAsked = [])
    (w : H.World) (next : Except Thrown Unit → H.World → Program H α) :
    ((effect e w next).history d start).asked =
      ((next (H.perform e w).1 (H.perform e w).2).history d start).asked := by
  have hasked := History.asked_after
    ((next (H.perform e w).1 (H.perform e w).2).history d start) [.did e (H.perform e w).1]
  refine hasked.trans ?_
  rw [Event.allAsked, List.flatMap_singleton, Event.sightings, he, List.nil_append]

theorem asked_announce {node : Log} {next : H.World → Program H α}
    (hnext : ∀ v, ((next v).history d start).asked = []) :
    ((Flow.announce s node w next).history d start).asked = [] := by
  unfold Flow.announce
  split
  · exact hnext w
  · rw [asked_sink fun _ => rfl]
    split
    · rfl
    · rw [asked_sink fun _ => rfl]
      split
      · rfl
      · exact hnext _

end Program

/-- Sinks that take every line and every record are told without throwing. -/
theorem Host.Quiet.tell (quiet : H.Quiet) (s : H.State) (node : Log) (w : H.World) :
    (H.tell s node w).1 = .ok () := by
  unfold Host.tell
  split
  · rfl
  · obtain ⟨v, hline⟩ := quiet.logLine s.settings.sinks node.message node.indent w
    obtain ⟨u, hrecord⟩ := quiet.publish s.settings.sinks node.record v
    unfold Act.andThen
    rw [hline]
    dsimp only
    rw [hrecord]

namespace Flow

variable {env : H.Env} {s t : H.State} {w v : H.World}

theorem asked_write (kind : LogKind) (message : String) (env : H.Env) (s : H.State)
    (w : H.World) : ((write kind message).history d env s w).asked = [] := by
  rw [history_eq]
  exact Program.asked_announce fun _ => rfl

/-- A line that was written is in the log, and the sinks have been told it. -/
theorem success_of_info {message : String} {sound : t.failures = []}
    (h : ((info message).history d env s w).outcome = .success () t sound) :
    t = s.withLine .info message ∧
      ((info message).history d env s w).world = (H.tell s (s.line .info message) w).2 := by
  obtain ⟨houtcome, hworld⟩ := outcome_write (d := d) .info message env s w
  refine ⟨?_, hworld⟩
  have hwritten : Outcome.written s .info message (H.tell s (s.line .info message) w).1 =
      .success () t sound := houtcome.symm.trans h
  rcases htold : (H.tell s (s.line .info message) w).1 with e | u
  · rw [htold] at hwritten
    cases hwritten
  · rw [htold] at hwritten
    have hstate := congrArg Outcome.state hwritten
    rw [Outcome.written, Outcome.state_of] at hstate
    exact hstate.symm

/-- Sinks that take every line let a flow write one. -/
theorem history_info_of_quiet (quiet : H.Quiet) (message : String) (env : H.Env)
    (hs : s.failures = []) (w : H.World) :
    let run := (info message).history d env s w
    run.outcome = .success () (s.withLine .info message) hs ∧
      run.world = (H.tell s (s.line .info message) w).2 ∧ run.asked = [] := by
  intro run
  obtain ⟨houtcome, hworld⟩ := outcome_write (d := d) .info message env s w
  refine ⟨houtcome.trans ?_, hworld, asked_write ..⟩
  rw [quiet.tell]
  exact Outcome.of_eq_success (s := s.withLine .info message) hs

theorem asked_fail (f : Failure) (env : H.Env) (s : H.State) (w : H.World) :
    ((fail f : Flow H α).history d env s w).asked = [] := by
  have hline : ((errorLine f.message).history d env s w).asked = [] := asked_write ..
  rcases ho : ((errorLine f.message).history d env s w).outcome with ⟨u, t, sound⟩ | ⟨u, t, unsound⟩
  · obtain ⟨-, -, hasked⟩ := history_bind_of_success (f := fun _ => (failure f [] : Flow H α)) ho
    refine hasked.trans ?_
    rw [hline, history_eq]
    rfl
  · obtain ⟨-, -, hasked⟩ := history_bind_of_faulted
      (f := fun _ => .ok (failure f [] : Flow H α)) ho
    exact hasked.trans hline

/-- What a flow asks is seen in its trace. -/
theorem asked_trace (c : Flow H α) (env : H.Env) (s : H.State) (w : H.World) :
    Event.allAsked ((c.trace d env s w).map Moment.event) = (c.history d env s w).asked := by
  rw [event_trace]
  simp [Event.allAsked, History.asked, History.sightings, Event.sightings]

theorem asked_map (c : Flow H α) (f : α → Act H.World β) (env : H.Env) (s : H.State)
    (w : H.World) : ((c.map f).history d env s w).asked = (c.history d env s w).asked := by
  rw [history_eq, history_eq]
  show ((Program.run c env s w _).history d s).asked = _
  rw [Program.asked_run]
  refine (congrArg _ ?_).trans (List.append_nil _)
  cases ((c env s w).history d s).outcome with
  | faulted a t unsound => rfl
  | success a t sound =>
    dsimp only
    unfold endWithValue
    split <;> rfl

/-- A flow that fails still fails when its value is to be changed. -/
theorem isFaulted_map {c : Flow H α} (h : (c.history d env s w).outcome.isFaulted = true)
    (f : α → Act H.World β) : ((c.map f).history d env s w).outcome.isFaulted = true := by
  rcases ho : (c.history d env s w).outcome with ⟨a, t, sound⟩ | ⟨a, t, unsound⟩
  · rw [ho] at h
    cases h
  · exact congrArg Outcome.isFaulted (outcome_of_leads (leads_map_of_faulted ho f))

/-! ## Steps -/

theorem mem_steps_bind {c : Flow H α} {x : Launch H} (h : x ∈ c.steps d env s w)
    (f : α → Act H.World (Flow H β)) : x ∈ (c.bind f).steps d env s w :=
  List.mem_cons_of_mem _ (List.mem_append_left _ h)

theorem mem_steps_map {c : Flow H α} {x : Launch H} (h : x ∈ c.steps d env s w)
    (f : α → Act H.World β) : x ∈ (c.map f).steps d env s w :=
  List.mem_cons_of_mem _ (List.mem_append_left _ h)

/-- After a value the steps of the flow that is made from it are steps of the whole. -/
theorem mem_steps_bind_of_success {c : Flow H α} {f : α → Flow H β} {a : α} {x : Launch H}
    {sound : t.failures = []} (hc : c.Ends d env s w (.success a t sound) v)
    (h : x ∈ (f a).steps d env t v) : x ∈ (c.bind fun a => .ok (f a)).steps d env s w := by
  obtain ⟨houtcome, hworld⟩ := hc
  rw [history_eq] at houtcome hworld
  refine List.mem_cons_of_mem _ (List.mem_cons_of_mem _ (List.mem_append_right _ ?_))
  rw [houtcome, hworld]
  exact List.mem_append_left _ h

/-! ## Calls to a session -/

section

variable {handle : H.Session} (command : Command H.Element H.Datum α)

/-- A session is asked once, whether it answers or throws. -/
theorem asked_callSession (env : H.Env) (hs : s.failures = []) (hsession : s.session = some handle)
    (label : String) (w : H.World) :
    ((callSession label command).history d env s w).asked = [.asked handle command] := by
  have hasked : ((callSession label command).behaviour d env s w).asked = _ :=
    (behaviour_callSession env hs hsession d label w).2.2
  rw [← History.asked_outward]
  refine hasked.trans (congrArg _ ?_)
  rcases d.answer (H.call handle command) w with ⟨e | a, v⟩
  · show ((fail (.ofThrown e (some label)) : Flow H α).behaviour d env s v).asked = []
    exact (History.asked_outward _).trans (asked_fail ..)
  · rfl

/-- Without a session nothing is asked. -/
theorem history_callSession_of_none (env : H.Env) (hsession : s.session = none) (label : String)
    (w : H.World) :
    let run := (callSession label command).history d env s w
    run.outcome.isFaulted = true ∧ run.asked = [] := by
  intro run
  let f : Failure := .ofMessage .configuration "session hasn't been selected yet"
  have hprogram : (session : Flow H H.Session) env s w = .finish (.fault s f []) w := by
    unfold session
    rw [hsession]
  have hfirst : (session : Flow H H.Session).history d env s w = ⟨[], .fault s f [], w⟩ := by
    rw [history_eq, hprogram]
    rfl
  obtain ⟨houtcome, -, hasked⟩ := history_bind_of_faulted
    (f := fun handle => .ok (tryEffect (.call handle command) fun _ => .ok label))
    (congrArg History.outcome hfirst)
  rw [hfirst] at hasked
  exact ⟨congrArg Outcome.isFaulted houtcome, hasked⟩

variable {command}

/-- A call that succeeds gives the answer of the session and leaves the state as it was. -/
theorem success_of_callSession (hs : s.failures = []) {label : String} {a : α}
    {sound : t.failures = []}
    (h : (callSession label command).Ends d env s w (.success a t sound) v) :
    t = s ∧ ∃ handle, s.session = some handle ∧
      d.answer (H.call handle command) w = (.ok a, v) := by
  obtain ⟨houtcome, hworld⟩ := h
  cases hsession : s.session with
  | none =>
    have hfaulted := (history_callSession_of_none (d := d) command env hsession label w).1
    rw [houtcome] at hfaulted
    cases hfaulted
  | some handle =>
    rcases hanswer : d.answer (H.call handle command) w with ⟨e | b, u⟩
    · have hreported : ((callSession label command).behaviour d env s w).outcome = _ :=
        (behaviour_callSession env hs hsession d label w).1
      rw [hanswer] at hreported
      have hfaulted := (reports_fail (α := α) (d := d) (.ofThrown e (some label)) env hs u).faulted
      cases (congrArg Outcome.isFaulted (houtcome.symm.trans hreported)).trans hfaulted
    · obtain ⟨hvalue, hleft, -⟩ := behaviour_callSession_of_ok env hs hsession label hanswer
      cases houtcome.symm.trans hvalue
      refine ⟨rfl, handle, rfl, ?_⟩
      rw [← hworld]
      exact hanswer.trans (congrArg (Prod.mk _) hleft.symm)

end

end Flow

/-! ## Waits -/

theorem Event.allAsked_append (es fs : List (Event H)) :
    allAsked (es ++ fs) = allAsked es ++ allAsked fs := by
  simp [allAsked]

namespace Flow

/-- An attempt asks what the flow asks that is attempted. -/
theorem asked_attempt (c : Flow H α) (env : H.Env) (s : H.State) (w : H.World) :
    ((attempt c).history d env s w).asked = (c.history d env s w).asked := by
  refine Eq.trans ?_ (asked_map c (fun a => .ok (.ok a : Except Failure α)) env s w)
  rw [history_eq]
  show ((Program.run (tagged c) env s w _).history d s).asked = _
  rw [Program.asked_run, ← history_eq]
  refine (congrArg _ ?_).trans (List.append_nil _)
  cases ((tagged c).history d env s w).outcome with
  | success a t sound => rfl
  | faulted a t unsound =>
    -- what is made of the failures asks nothing, whether it is a value of a clean state or not
    show ((Program.run (pure _) env s _ _).history d s).asked = []
    rw [Program.asked_run]
    split <;> rfl

end Flow

namespace Wait

variable (x : Wait H α)

/-- Pauses ask nothing. -/
theorem asked_rounds (ws : List H.World) :
    Event.allAsked ((ws.flatMap (x.round d)).map Moment.event) =
      ws.flatMap fun v => (x.attempt d v).asked := by
  induction ws with
  | nil => rfl
  | cons w ws ih =>
    have hround : Event.allAsked ((x.round d w).map Moment.event) = (x.attempt d w).asked := by
      rw [round, List.map_append, Event.allAsked_append, Flow.asked_trace]
      exact List.append_nil _
    rw [List.flatMap_cons, List.map_append, Event.allAsked_append, hround, ih, List.flatMap_cons]

end Wait

namespace Flow

/-- A wait that succeeds asks what its attempts ask, one after the other. -/
theorem asked_waitUntilSucceeds (steady : d.Steady) {c : Flow H α} {interval wait : Option Span}
    {label : String} {env : H.Env} {s t : H.State} {w : H.World} {a : α} {sound : t.failures = []}
    (h : ((c.waitUntilSucceeds interval wait label).history d env s w).outcome =
      .success a t sound) :
    let x := Wait.begun (attempt c) (succeedsWatch label) interval wait env s w
    ∃ ws last, x.Retried d w ws last ∧ (c.history d env s last).outcome = .success a t sound ∧
      ((c.waitUntilSucceeds interval wait label).history d env s w).asked =
        (ws.flatMap fun v => (c.history d env s v).asked) ++ (c.history d env s last).asked := by
  intro x
  obtain ⟨ws, last, hretried, htrace, hlast⟩ := success_of_waitUntilSucceeds steady h
  refine ⟨ws, last, hretried, hlast, ?_⟩
  have hattempts : (fun v => (x.attempt d v).asked) = fun v => (c.history d env s v).asked :=
    funext fun v => asked_attempt c env s v
  rw [← asked_trace, htrace]
  show Event.allAsked (List.map Moment.event (_ ++ _ ++ _)) = _
  rw [List.map_append, List.map_append, Event.allAsked_append, Event.allAsked_append, asked_trace,
    Wait.asked_rounds, asked_attempt, hattempts]
  exact List.append_nil _

end Flow

/-! ## Sequences of calls -/

namespace Flow

variable {handle : H.Session} {env : H.Env} {s t : H.State} {v w : H.World} {values : List α}

/-- By induction on the calls, whatever is gathered before them. -/
theorem asked_sequenceFrom_of_calls (hs : s.failures = []) (hsession : s.session = some handle)
    {calls : List (String × Command H.Element H.Datum α)}
    (h : GivesAll d env (calls.map fun (label, command) => callSession label command) s w values t
      v) (gathered : List α) (start : H.State) :
    ((sequenceFrom env gathered (calls.map fun (label, command) => callSession label command) s
      w).history d start).asked = calls.map fun (_, command) => .asked handle command := by
  induction calls generalizing w values gathered with
  | nil => rfl
  | cons call calls ih =>
    obtain ⟨label, command⟩ := call
    obtain - | ⟨hfirst, hrest⟩ := h
    obtain ⟨rfl, -⟩ := success_of_callSession hs hfirst
    obtain ⟨houtcome, hworld⟩ := hfirst
    show ((Program.run (callSession label command) env _ w _).history d start).asked = _
    rw [Program.asked_run, ← history_eq, houtcome, hworld,
      asked_callSession command env hs hsession]
    exact congrArg (.asked handle command :: ·) (ih hrest _)

/-- A sequence of calls that succeeds makes them all, in their order. -/
theorem asked_sequence_of_calls (hs : s.failures = []) (hsession : s.session = some handle)
    {calls : List (String × Command H.Element H.Datum α)}
    (h : GivesAll d env (calls.map fun (label, command) => callSession label command) s w values t
      v) :
    ((sequence (calls.map fun (label, command) => callSession label command)).history d env s
      w).asked = calls.map fun (_, command) => .asked handle command := by
  rw [history_eq]
  exact asked_sequenceFrom_of_calls hs hsession h [] s

end Flow

/-! ## The only element that matches -/

namespace Selector

open Walkthrough.Flow

variable {env : H.Env} {s t : H.State} {w : H.World} {a : Selector H}

/-- What is made of the elements that were found, when only one is wanted. -/
def only (a : Selector H) : List H.Element → Flow H H.Element
  | [] => .fail a.notFound
  | [element] => .pure element
  | _ =>
    .fail (Condition.unusable
      ("More than one element found that matches the selector: " ++ a.describe))

theorem findOne_eq (a : Selector H) :
    a.findOne = a.findAll.bind fun found => .ok (a.only found) := by
  rfl

/-- When one element is found it is given, and nothing else is asked. -/
theorem history_findOne_of_single {e : H.Element} {sound : t.failures = []}
    (h : (a.findAll.history d env s w).outcome = .success [e] t sound) :
    let search := a.findAll.history d env s w
    let run := a.findOne.history d env s w
    run.outcome = .success e t sound ∧ run.world = search.world ∧ run.asked = search.asked := by
  rw [findOne_eq]
  intro search run
  obtain ⟨houtcome, hworld, hasked⟩ := history_bind_of_success (f := a.only) h
  obtain ⟨hvalue, hleft⟩ : (pure e).Ends d env t search.world _ _ := ends_pure e sound
  have hnothing : ((a.only [e]).history d env t search.world).asked = [] := by
    rw [history_eq]
    rfl
  refine ⟨houtcome.trans hvalue, hworld.trans hleft, hasked.trans ?_⟩
  rw [hnothing, List.append_nil]

/-- When none or several are found, this is a failure that asks nothing. -/
theorem history_only_of_other {found : List H.Element} (env : H.Env) (h : ∀ e, found ≠ [e])
    (t : H.State) (v : H.World) :
    let run := (a.only found).history d env t v
    run.outcome.isFaulted = true ∧ run.asked = [] := by
  match found with
  | [] => exact ⟨isFaulted_fail .., asked_fail ..⟩
  | [e] => exact absurd rfl (h e)
  | _ :: _ :: _ => exact ⟨isFaulted_fail .., asked_fail ..⟩

/-- Whatever else comes of the search, finding the only element fails and asks nothing more. -/
theorem history_findOne_of_other
    (h : ∀ e t sound, (a.findAll.history d env s w).outcome ≠ .success [e] t sound) :
    let search := a.findAll.history d env s w
    let run := a.findOne.history d env s w
    run.outcome.isFaulted = true ∧ run.asked = search.asked := by
  rw [findOne_eq]
  intro search run
  rcases ho : search.outcome with ⟨found, t, sound⟩ | ⟨found, t, unsound⟩
  · have hfound : ∀ e, found ≠ [e] := by
      intro e hfound
      rw [hfound] at ho
      exact h e t sound ho
    obtain ⟨houtcome, -, hasked⟩ := history_bind_of_success (f := a.only) ho
    obtain ⟨hfaulted, hnothing⟩ :=
      history_only_of_other (a := a) (d := d) env hfound t search.world
    refine ⟨(congrArg Outcome.isFaulted houtcome).trans hfaulted, hasked.trans ?_⟩
    rw [hnothing, List.append_nil]
  · obtain ⟨houtcome, -, hasked⟩ := history_bind_of_faulted
      (f := fun found => .ok (a.only found)) ho
    exact ⟨congrArg Outcome.isFaulted houtcome, hasked⟩

/-- An element that is given was the only one that was found. -/
theorem single_of_findOne {e : H.Element} {sound : t.failures = []}
    (h : (a.findOne.history d env s w).outcome = .success e t sound) :
    (a.findAll.history d env s w).outcome = .success [e] t sound := by
  by_contra hother
  have hfaulted : (a.findOne.history d env s w).outcome.isFaulted = true := by
    refine (history_findOne_of_other ?_).1
    intro e' t' sound' hsingle
    have hgiven := (history_findOne_of_single hsingle).1
    cases h.symm.trans hgiven
    exact hother hsingle
  rw [h] at hfaulted
  cases hfaulted

end Selector

end Walkthrough
