import Walkthrough.Flow.Basic
import Walkthrough.Proofs.Run.Sighting

/-!
# Traces of runs

The events of a history say from which state a step is started, but not which step it is. A trace
says that as well: it is the list of the moments of a run, in their order, where a step that is
entered shows as a `Launch`, with its flow and all that it is started with. Without the flows the
trace is the history (`Flow.event_trace`), and the steps that are entered in it are the steps of the
run (`Flow.mem_steps_iff`).

A step that is entered in a run is left in it, and what happens in between is the trace of the step
alone (`Flow.closed_trace`). So a statement about the trace of a flow is a statement about each time
that it is entered anywhere. What a step asks for itself, and not through the steps that it runs, is
told apart by depth (`Moment.requests`).
-/

namespace Walkthrough

variable {H : Host} {α β γ : Type}

/-! ## Steps of a run -/

/-- A step that is run: which flow, and what it is started with. -/
structure Launch (H : Host) : Type 1 where
  {Value : Type}
  flow : Flow H Value
  env : H.Env
  state : H.State
  world : H.World

namespace Program

/-- The steps that are run in a program, at any depth, in the order in which they are started. -/
def launches {α : Type} (d : Driver H) : Program H α → List (Launch H)
  | finish _ _ => []
  | raise _ _ => []
  | run c env s w next =>
    let inner := history d (c env s w) s
    ⟨c, env, s, w⟩ :: (launches d (c env s w) ++ launches d (next inner.outcome inner.world))
  | effect e w next => launches d (next (H.perform e w).1 (H.perform e w).2)
  | sleep t w next => launches d (next (d.sleep t w).1 (d.sleep t w).2)
  | await code w next => launches d (next (d.await code w).1 (d.await code w).2)
  | unsupported _ _ => []

/-- Changing the value of a program launches nothing. -/
theorem launches_map (d : Driver H) (f : α → β) (p : Program H α) :
    (p.map f).launches d = p.launches d := by
  induction p with
  | finish o w => rfl
  | raise e w => rfl
  | run c env s w next _ ih => simp only [map, launches, ih]
  | effect e w next ih => exact ih _ _ f
  | sleep t w next ih => exact ih _ _ f
  | await code w next ih => exact ih _ _ f
  | unsupported shown w => rfl

end Program

namespace Flow

/-- The step and all that are run in it. -/
def steps (d : Driver H) (c : Flow H α) (env : H.Env) (s : H.State) (w : H.World) :
    List (Launch H) :=
  ⟨c, env, s, w⟩ :: (c env s w).launches d

/-- The second flow is the first one with its value changed, any number of times. -/
inductive Retyped {α : Type} (c : Flow H α) : {β : Type} → Flow H β → Prop where
  | here : Retyped c c
  | again {β γ : Type} {c' : Flow H β} (f : β → γ) (h : Retyped c c') : Retyped c (c'.retype f)

end Flow

/-! ## Moments -/

/-- One moment of a run. -/
inductive Moment (H : Host) : Type 1 where
  /-- A step is entered. -/
  | entered (x : Launch H)
  /-- The step that is under way is left with an outcome. -/
  | left {α : Type} (o : Outcome H α)
  /-- The step that is under way has asked for something. -/
  | request (e : Event H)

namespace Moment

/-- What the history of a run says of a moment. -/
def event : Moment H → Event H
  | entered x => .started x.state
  | left o => .ended o
  | request e => e

/-- What the step under way asks for itself until it is left, when `depth` steps that it runs are to
be left before. -/
def requests : (depth : Nat) → List (Moment H) → List (Event H)
  | _, [] => []
  | depth, entered _ :: ms => requests (depth + 1) ms
  | 0, left _ :: _ => []
  | depth + 1, left _ :: ms => requests depth ms
  | 0, request e :: ms => e :: requests 0 ms
  | depth + 1, request _ :: ms => requests (depth + 1) ms

/-- Requests that are asked for at the outermost level are all of the step itself. -/
theorem requests_own (es : List (Event H)) (o : Outcome H α) (ms : List (Moment H)) :
    requests 0 (es.map request ++ left o :: ms) = es := by
  induction es with
  | nil => rfl
  | cons e es ih => exact congrArg (e :: ·) ih

end Moment

namespace Driver

/-- The wait for a reply, if it is needed. -/
def waited (d : Driver H) : Except Thrown (Reply H.World β) → H.World → List (Event H)
  | .error _, _ => []
  | .ok (.value _), _ => []
  | .ok (.awaitable code), w => [.awaited code (d.await code w).1]

/-- What happens when outside code is called: the call, and the wait for its reply. -/
def called (d : Driver H) (e : Effect H (Reply H.World β)) (w : H.World) : List (Event H) :=
  .did e (H.perform e w).1 :: d.waited (H.perform e w).1 (H.perform e w).2

end Driver

namespace Program

variable (d : Driver H)

/-- The moments of a program. -/
def moments {α : Type} (d : Driver H) : Program H α → List (Moment H)
  | finish _ _ => []
  | raise _ _ => []
  | run c env s w next =>
    let inner := history d (c env s w) s
    .entered ⟨c, env, s, w⟩ ::
      (moments d (c env s w) ++ .left inner.outcome :: moments d (next inner.outcome inner.world))
  | effect e w next =>
    .request (.did e (H.perform e w).1) :: moments d (next (H.perform e w).1 (H.perform e w).2)
  | sleep t w next => .request (.slept t) :: moments d (next (d.sleep t w).1 (d.sleep t w).2)
  | await code w next =>
    .request (.awaited code (d.await code w).1) ::
      moments d (next (d.await code w).1 (d.await code w).2)
  | unsupported _ _ => []

/-- The moments of a program are the events of its history, with the flows of the steps. -/
theorem event_moments (p : Program H α) (start : H.State) :
    (p.moments d).map Moment.event = (p.history d start).events := by
  induction p generalizing start with
  | finish o w => rfl
  | raise e w => rfl
  | run c env s w next ihStep ihNext =>
    have hstep := ihStep env s w s
    have hnext := ihNext ((c env s w).history d s).outcome ((c env s w).history d s).world start
    simp [moments, history, hstep, hnext, Moment.event]
  | effect e w next ih => exact congrArg (_ :: ·) (ih _ _ start)
  | sleep t w next ih => exact congrArg (_ :: ·) (ih _ _ start)
  | await code w next ih => exact congrArg (_ :: ·) (ih _ _ start)
  | unsupported shown w => rfl

/-- The steps that are run in a program are the ones that are entered in its moments. -/
theorem mem_launches_iff {x : Launch H} {p : Program H α} :
    x ∈ p.launches d ↔ .entered x ∈ p.moments d := by
  induction p with
  | finish o w => simp [launches, moments]
  | raise e w => simp [launches, moments]
  | run c env s w next ihStep ihNext => simp [launches, moments, ihStep, ihNext]
  | effect e w next ih => simp [launches, moments, ih]
  | sleep t w next ih => simp [launches, moments, ih]
  | await code w next ih => simp [launches, moments, ih]
  | unsupported shown w => simp [launches, moments]

/-- Changing the value of a program changes no moment of it. -/
theorem moments_map (f : α → β) (p : Program H α) : (p.map f).moments d = p.moments d := by
  induction p with
  | finish o w => rfl
  | raise e w => rfl
  | run c env s w next _ ih => simp only [map, moments, ih]
  | effect e w next ih => exact congrArg (_ :: ·) (ih _ _ f)
  | sleep t w next ih => exact congrArg (_ :: ·) (ih _ _ f)
  | await code w next ih => exact congrArg (_ :: ·) (ih _ _ f)
  | unsupported shown w => rfl

/-- The moments of a reply: what is awaited, and then what follows. -/
theorem moments_resolve (r : Except Thrown (Reply H.World β)) (w : H.World)
    (next : Except Thrown β → H.World → Program H α) :
    (resolve r w next).moments d =
      (d.waited r w).map .request ++ (next (d.settle r w).1 (d.settle r w).2).moments d := by
  rcases r with e | reply
  · rfl
  · cases reply with
    | value b => rfl
    | awaitable code => rfl

/-- The moments of an outside call: the call, what is awaited of it, and then what follows. -/
theorem moments_outside (e : Effect H (Reply H.World β)) (w : H.World)
    (next : Except Thrown β → H.World → Program H α) :
    (outside e w next).moments d =
      (d.called e w).map .request ++
        (next (d.answer (H.perform e) w).1 (d.answer (H.perform e) w).2).moments d :=
  congrArg (_ :: ·) (moments_resolve d (H.perform e w).1 (H.perform e w).2 next)

/-- The moments of a step are left behind at the depth at which it was entered. -/
theorem requests_moments (p : Program H α) (depth : Nat) (ms : List (Moment H)) :
    Moment.requests (depth + 1) (p.moments d ++ ms) = Moment.requests (depth + 1) ms := by
  induction p generalizing depth ms with
  | finish o w => rfl
  | raise e w => rfl
  | run c env s w next ihStep ihNext =>
    simp only [moments, List.cons_append, List.append_assoc, Moment.requests, ihStep, ihNext]
  | effect e w next ih => exact ih _ _ depth ms
  | sleep t w next ih => exact ih _ _ depth ms
  | await code w next ih => exact ih _ _ depth ms
  | unsupported shown w => rfl

end Program

/-! ## Traces -/

namespace Flow

/-- The moments of a run of the flow, from entering it to leaving it. -/
def trace (c : Flow H α) (d : Driver H) (env : H.Env) (s : H.State) (w : H.World) :
    List (Moment H) :=
  .entered ⟨c, env, s, w⟩ :: ((c env s w).moments d ++ [.left (c.history d env s w).outcome])

/-- Without the flows of the steps the trace of a run is its history. -/
theorem event_trace (c : Flow H α) (d : Driver H) (env : H.Env) (s : H.State) (w : H.World) :
    (c.trace d env s w).map Moment.event =
      .started s :: (c.history d env s w).events ++ [.ended (c.history d env s w).outcome] := by
  simp [trace, Moment.event, Program.event_moments d (c env s w) s, history_eq]

/-- The steps of a run are the flows that are entered in its trace. -/
theorem mem_steps_iff {c : Flow H α} {d : Driver H} {env : H.Env} {s : H.State} {w : H.World}
    {x : Launch H} : x ∈ c.steps d env s w ↔ .entered x ∈ c.trace d env s w := by
  simp [steps, trace, Program.mem_launches_iff]

/-- A step asks for nothing in the steps that it runs. -/
theorem requests_trace (c : Flow H α) (d : Driver H) (env : H.Env) (s : H.State) (w : H.World)
    (depth : Nat) (ms : List (Moment H)) :
    Moment.requests depth (c.trace d env s w ++ ms) = Moment.requests depth ms := by
  simp only [trace, List.cons_append, List.append_assoc, Moment.requests,
    Program.requests_moments, List.nil_append]

end Flow

/-- A program that runs a step shows its trace, and then what follows it. -/
theorem Program.moments_run (d : Driver H) (c : Flow H β) (env : H.Env) (s : H.State) (w : H.World)
    (next : Outcome H β → H.World → Program H α) :
    (Program.run c env s w next).moments d =
      c.trace d env s w ++
        (next (c.history d env s w).outcome (c.history d env s w).world).moments d := by
  simp [moments, Flow.trace, c.history_eq]

/-- Every step that is entered is left again, and the moments up to then are its trace. -/
def Moment.Closed (d : Driver H) (ms : List (Moment H)) : Prop :=
  ∀ before x rest, ms = before ++ .entered x :: rest →
    ∃ after, .entered x :: rest = x.flow.trace d x.env x.state x.world ++ after

namespace Moment.Closed

variable {d : Driver H} {ms ns : List (Moment H)}

/-- No moments leave no step open. -/
theorem nil : Closed d ([] : List (Moment H)) := by
  intro before x rest h
  cases before <;> cases h

/-- A moment at which no step is entered changes nothing. -/
theorem cons {m : Moment H} (hm : ∀ x, m ≠ .entered x) (h : Closed d ms) : Closed d (m :: ms) := by
  intro before x rest heq
  cases before with
  | nil => exact absurd (List.cons.inj heq).1 (hm x)
  | cons m' before => exact h before x rest (List.cons.inj heq).2

/-- Parts of a run that leave no step open may follow one another. -/
theorem append (hm : Closed d ms) (hn : Closed d ns) : Closed d (ms ++ ns) := by
  intro before x rest heq
  -- the step is entered in the second part, or in the first one and then also left there
  rcases List.append_eq_append_iff.mp heq with ⟨as, rfl, hns⟩ | ⟨bs, hms, hrest⟩
  · exact hn as x rest hns
  · cases bs with
    | nil => exact hn [] x rest hrest.symm
    | cons m bs =>
      obtain ⟨rfl, rfl⟩ := List.cons.inj hrest
      obtain ⟨after, hafter⟩ := hm before x bs hms
      refine ⟨after ++ ns, ?_⟩
      rw [← List.append_assoc, ← hafter]
      rfl

/-- The trace of a step ends where the step is left, which is also where the moments in it end. -/
theorem entered {x : Launch H} (h : Closed d ((x.flow x.env x.state x.world).moments d)) :
    Closed d (x.flow.trace d x.env x.state x.world) := by
  intro before y rest heq
  cases before with
  | nil =>
    obtain ⟨hxy, -⟩ := List.cons.inj heq
    cases hxy
    exact ⟨[], heq.symm.trans (List.append_nil _).symm⟩
  | cons m before =>
    have hleft : Closed d [left (x.flow.history d x.env x.state x.world).outcome] :=
      nil.cons fun _ h => nomatch h
    exact h.append hleft before y rest (List.cons.inj heq).2

end Moment.Closed

/-- A step that is entered is left, by induction on the program. -/
theorem Program.closed_moments (d : Driver H) (p : Program H α) :
    Moment.Closed d (p.moments d) := by
  induction p with
  | finish o w => exact .nil
  | raise e w => exact .nil
  | run c env s w next ihStep ihNext =>
    have hstep : Moment.Closed d (Flow.trace c d env s w) :=
      Moment.Closed.entered (x := ⟨c, env, s, w⟩) (ihStep env s w)
    exact (moments_run d c env s w next).symm ▸ hstep.append (ihNext _ _)
  | effect e w next ih => exact (ih _ _).cons fun _ h => nomatch h
  | sleep t w next ih => exact (ih _ _).cons fun _ h => nomatch h
  | await code w next ih => exact (ih _ _).cons fun _ h => nomatch h
  | unsupported shown w => exact .nil

/-- A step that is entered in a run is left in it, and what happens in between is its trace. -/
theorem Flow.closed_trace (c : Flow H α) (d : Driver H) (env : H.Env) (s : H.State) (w : H.World) :
    Moment.Closed d (c.trace d env s w) :=
  Moment.Closed.entered (x := ⟨c, env, s, w⟩) (Program.closed_moments d _)

end Walkthrough
