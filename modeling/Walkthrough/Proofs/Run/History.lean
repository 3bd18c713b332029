import Walkthrough.Proofs.Run.Refinement

/-!
# Histories of runs

A dialogue shows what a run asks of its driver. What happens inside (steps that are started and
ended, effects on the host) is recorded by the history of a run: its events in order, the outcome,
and the world that is left. A `Driver` says what becomes of a pause and of something awaited; the
blocking and the suspending driver are two of them, and a theorem for every driver holds of both.

`Flow.history` records the moves of a run on the stack of frames. `Flow.history_eq` says that this
is the history that the program has by recursion (`Program.history`), where the events of a nested
step stand between its start and its end; statements about all runs are proved along programs and
hold on the stack. `Flow.interpret_eq_history` and `Flow.interpretAsync_eq_history` say that a
history ends as the run does.
-/

namespace Walkthrough

/-- One thing that happens in a run. -/
inductive Event (H : Host) : Type 1 where
  /-- A nested step is started from a state. -/
  | started (state : H.State)
  /-- A nested step has ended with an outcome, which is handed to the step that ran it. -/
  | ended {α : Type} (outcome : Outcome H α)
  /-- The host has answered an effect. -/
  | did {α : Type} (e : Effect H α) (answer : Except Thrown α)
  /-- The run has asked for a pause. -/
  | slept (seconds : Rat)
  /-- The run has asked for something to be awaited. -/
  | awaited {α : Type} (code : Act H.World α) (answer : Except Thrown α)

/-- What happened in a run, and how it ended. -/
structure History (H : Host) (α : Type) : Type 1 where
  events : List (Event H)
  outcome : Outcome H α
  world : H.World

namespace History

variable {H : Host} {α β : Type}

/-- The history with earlier events in front. -/
def after (h : History H α) (es : List (Event H)) : History H α :=
  { h with events := es ++ h.events }

/-- One history, then the one that goes on from its outcome. -/
def andThen (h : History H α) (f : Outcome H α → H.World → History H β) : History H β :=
  (f h.outcome h.world).after h.events

/-- The history that leaves another world. -/
def withWorld (h : History H α) (w : H.World) : History H α := ⟨h.events, h.outcome, w⟩

/-- The history with another value in its outcome. -/
def map (f : α → β) (h : History H α) : History H β := ⟨h.events, h.outcome.map f, h.world⟩

@[simp] theorem events_after (h : History H α) (es : List (Event H)) :
    (h.after es).events = es ++ h.events := rfl

@[simp] theorem outcome_after (h : History H α) (es : List (Event H)) :
    (h.after es).outcome = h.outcome := rfl

@[simp] theorem world_after (h : History H α) (es : List (Event H)) :
    (h.after es).world = h.world := rfl

/-- Events that are put in front twice are put in front once. -/
theorem after_after (h : History H α) (es fs : List (Event H)) :
    (h.after es).after fs = h.after (fs ++ es) := by
  simp [after]

theorem after_withWorld (h : History H α) (es : List (Event H)) (w : H.World) :
    (h.after es).withWorld w = (h.withWorld w).after es := rfl

/-- What goes on from a history does not depend on the events before it. -/
theorem andThen_after (h : History H α) (es : List (Event H))
    (f : Outcome H α → H.World → History H β) :
    (h.after es).andThen f = (h.andThen f).after es := by
  simp [andThen, after]

end History

/-- What becomes of a pause and of something awaited. -/
structure Driver (H : Host) where
  sleep : Rat → H.World → Except Thrown Unit × H.World
  await : {β : Type} → Act H.World β → H.World → Except Thrown β × H.World

namespace Driver

variable {H : Host}

/-- The driver that pauses and refuses whatever is to be awaited. -/
def blocking : Driver H where
  sleep t w := (.ok (), H.pause t w)
  await _ w := (.error (.fault .asyncStep), w)

/-- The driver that pauses and runs whatever is to be awaited. -/
def suspending : Driver H where
  sleep t w := (.ok (), H.pause t w)
  await code w := code w

end Driver

namespace Dialogue

variable {H : Host} {α β : Type}

/-- How a dialogue ends under a driver. -/
def answer (d : Driver H) : Dialogue H α → Outcome H α × H.World
  | finished o w => (o, w)
  | sleep t w next => answer d (next (d.sleep t w).1 (d.sleep t w).2)
  | await code w next => answer d (next (d.await code w).1 (d.await code w).2)

/-- The driver that blocks answers a dialogue as the loop that blocks does. -/
theorem answer_blocking (x : Dialogue H α) : x.answer .blocking = x.block := by
  induction x with
  | finished o w => rfl
  | sleep t w next ih => exact ih _ _
  | await code w next ih => exact ih _ _

/-- The driver that suspends answers a dialogue as the loop that suspends does. -/
theorem answer_suspending (x : Dialogue H α) : x.answer .suspending = x.suspend := by
  induction x with
  | finished o w => rfl
  | sleep t w next ih => exact ih _ _
  | await code w next ih => exact ih _ _

/-- A driver answers the first dialogue to its end, and then the one that goes on from there. -/
theorem answer_andThen (d : Driver H) (x : Dialogue H α)
    (f : Outcome H α → H.World → Dialogue H β) :
    (x.andThen f).answer d = (f (x.answer d).1 (x.answer d).2).answer d := by
  induction x with
  | finished o w => rfl
  | sleep t w next ih => exact ih _ _
  | await code w next ih => exact ih _ _

end Dialogue

/-! ## Along a program -/

namespace Program

variable {H : Host} {α : Type}

/-- The history of a program whose step was started from `start`. -/
def history {α : Type} (d : Driver H) : Program H α → (start : H.State) → History H α
  | finish o w, _ => ⟨[], o, w⟩
  | raise e w, start => ⟨[], .raised start e, w⟩
  | run step env s w next, start =>
    let inner := history d (step env s w) s
    (history d (next inner.outcome inner.world) start).after
      (.started s :: inner.events ++ [.ended inner.outcome])
  | effect e w next, start =>
    (history d (next (H.perform e w).1 (H.perform e w).2) start).after [.did e (H.perform e w).1]
  | sleep t w next, start =>
    (history d (next (d.sleep t w).1 (d.sleep t w).2) start).after [.slept t]
  | await code w next, start =>
    (history d (next (d.await code w).1 (d.await code w).2) start).after
      [.awaited code (d.await code w).1]
  | unsupported shown w, start =>
    ⟨[], .raised start (.fault (.unsupportedRequest shown)), w⟩

/-- The events of a nested step stand between its start and its end, before what follows it. -/
theorem history_run {β : Type} (d : Driver H) (c : Flow H β) (env : H.Env) (s : H.State)
    (w : H.World) (next : Outcome H β → H.World → Program H α) (start : H.State) :
    (run c env s w next).history d start =
      ((next ((c env s w).history d s).outcome ((c env s w).history d s).world).history d
        start).after
          (.started s :: ((c env s w).history d s).events ++
            [.ended ((c env s w).history d s).outcome]) := rfl

/-- A history ends as the dialogue does. -/
theorem answer_meaning (d : Driver H) (p : Program H α) (start : H.State) :
    (p.meaning start).answer d = ((p.history d start).outcome, (p.history d start).world) := by
  induction p generalizing start with
  | finish o w => rfl
  | raise e w => rfl
  | unsupported shown w => rfl
  | run step env s w next ihStep ihNext =>
    have hnext :=
      ihNext ((step env s w).history d s).outcome ((step env s w).history d s).world start
    rw [meaning, Dialogue.answer_andThen, ihStep]
    exact hnext
  | effect e w next ih => exact ih _ _ start
  | sleep t w next ih => exact ih _ _ start
  | await code w next ih => exact ih _ _ start

/-- Changing the value of a program changes the value of its outcome and nothing else. -/
theorem history_map {β : Type} (d : Driver H) (f : α → β) (p : Program H α) (start : H.State) :
    (p.map f).history d start = (p.history d start).map f := by
  induction p generalizing start with
  | finish o w => rfl
  | raise e w => rfl
  | unsupported shown w => rfl
  | run step env s w next ihStep ihNext =>
    exact congrArg (History.after · _) (ihNext _ _ f start)
  | effect e w next ih => exact congrArg (History.after · _) (ih _ _ f start)
  | sleep t w next ih => exact congrArg (History.after · _) (ih _ _ f start)
  | await code w next ih => exact congrArg (History.after · _) (ih _ _ f start)

end Program

/-! ## On the stack of frames -/

variable {H : Host} {ω : Type}

/-- The history that the waiting steps have once they are handed an outcome. -/
def Stack.history {α : Type} (d : Driver H) : Stack H ω α → Outcome H α → H.World → History H ω
  | done, o, w => ⟨[], o, w⟩
  | frame next start rest, o, w =>
    (((next o w).history d start).andThen (rest.history d)).after [.ended o]

/-- The event of handing an outcome to a stack: a nested step has ended, unless the run has. -/
def Stack.notes {α : Type} : Stack H ω α → Outcome H α → List (Event H)
  | done, _ => []
  | frame .., o => [.ended o]

namespace Configuration

/-- What happens in a move that leads on without asking the driver. -/
def notes : Configuration H ω → List (Event H)
  | ⟨.finish o _, _, stack⟩ => stack.notes o
  | ⟨.raise e _, start, stack⟩ => stack.notes (.raised start e)
  | ⟨.unsupported shown _, start, stack⟩ =>
    stack.notes (.raised start (.fault (.unsupportedRequest shown)))
  | ⟨.run _ _ s _ _, _, _⟩ => [.started s]
  | ⟨.effect e w _, _, _⟩ => [.did e (H.perform e w).1]
  | ⟨.sleep .., _, _⟩ => []
  | ⟨.await .., _, _⟩ => []

/-- The history of a run from here on. -/
def history (d : Driver H) (c : Configuration H ω) : History H ω :=
  match _h : c.advance with
  | .ended o w => ⟨[], o, w⟩
  | .goOn c' => (c'.history d).after c.notes
  | .sleep t w next => ((next (d.sleep t w).1 (d.sleep t w).2).history d).after [.slept t]
  | .await code w next =>
    ((next (d.await code w).1 (d.await code w).2).history d).after
      [.awaited code (d.await code w).1]
termination_by c
decreasing_by
  · exact .goOn _h
  · exact .sleep _h _ _
  · exact .await _h _ _

/-- The history that a configuration stands for. -/
def recorded (d : Driver H) (c : Configuration H ω) : History H ω :=
  (c.program.history d c.start).andThen (c.stack.history d)

end Configuration

/-- The history that is left from a move on, where `notes` is what happens in it. -/
def Move.recorded (d : Driver H) (notes : List (Event H)) : Move H ω → History H ω
  | ended o w => ⟨[], o, w⟩
  | goOn c => (c.recorded d).after notes
  | sleep t w next => ((next (d.sleep t w).1 (d.sleep t w).2).recorded d).after [.slept t]
  | await code w next =>
    ((next (d.await code w).1 (d.await code w).2).recorded d).after
      [.awaited code (d.await code w).1]

/-- Handing an outcome to the innermost frame notes the end of the step above it. -/
theorem Stack.recorded_reply {α : Type} (d : Driver H) (stack : Stack H ω α) (o : Outcome H α)
    (w : H.World) : (stack.reply o w).recorded d (stack.notes o) = stack.history d o w := by
  cases stack with
  | done => rfl
  | frame next start rest => rfl

namespace Configuration

/-- One move leaves the history as it is. -/
theorem recorded_eq_advance (d : Driver H) (c : Configuration H ω) :
    c.recorded d = c.advance.recorded d c.notes := by
  obtain ⟨p, start, stack⟩ := c
  cases p with
  | finish o w => exact (stack.recorded_reply d o w).symm
  | raise e w => exact (stack.recorded_reply d (.raised start e) w).symm
  | unsupported shown w =>
    exact (stack.recorded_reply d (.raised start (.fault (.unsupportedRequest shown))) w).symm
  | run step env s w next =>
    -- the events of the inner step, its end, and those of the continuation, in this order
    show (Program.history d (.run step env s w next) start).andThen (stack.history d) = _
    simp only [Program.history, History.andThen_after, Move.recorded, advance, recorded, notes]
    simp [History.andThen, Stack.history, History.after_after]
  | effect e w next => rfl
  | sleep t w next => rfl
  | await code w next => rfl

/-- The history of a run is the one that its configuration stands for. -/
theorem history_eq_recorded (d : Driver H) (c : Configuration H ω) :
    c.history d = c.recorded d := by
  induction c using wellFounded_follows.induction with
  | _ c ih =>
    rw [recorded_eq_advance, history]
    split
    next o w h =>
      rw [h]
      rfl
    next c' h =>
      rw [h, ih c' (.goOn h)]
      rfl
    next t w next h =>
      rw [h, ih _ (.sleep h _ _)]
      rfl
    next β code w next h =>
      rw [h, ih _ (.await h _ _)]
      rfl

end Configuration

namespace Flow

variable {α : Type}

/-- The history of a flow that is run on a stack of frames. -/
def history (c : Flow H α) (d : Driver H) (env : H.Env) (s : H.State) (w : H.World) :
    History H α :=
  Configuration.history d ⟨c env s w, s, .done⟩

/-- The history on the stack is the history along the program. -/
theorem history_eq (c : Flow H α) (d : Driver H) (env : H.Env) (s : H.State) (w : H.World) :
    c.history d env s w = (c env s w).history d s := by
  unfold history
  rw [Configuration.history_eq_recorded]
  simp [Configuration.recorded, History.andThen, Stack.history, History.after]

/-- The blocking driver ends a run as its history says. -/
theorem interpret_eq_history (c : Flow H α) (env : H.Env) (s : H.State) (w : H.World) :
    c.interpret env s w =
      ((c.history .blocking env s w).outcome, (c.history .blocking env s w).world) := by
  rw [history_eq, ← Program.answer_meaning, Dialogue.answer_blocking]
  unfold interpret frames
  rw [Configuration.dialogue_of_done]

/-- The suspending driver ends a run as its history says. -/
theorem interpretAsync_eq_history (c : Flow H α) (env : H.Env) (s : H.State) (w : H.World) :
    c.interpretAsync env s w =
      ((c.history .suspending env s w).outcome, (c.history .suspending env s w).world) := by
  rw [history_eq, ← Program.answer_meaning, Dialogue.answer_suspending]
  unfold interpretAsync frames
  rw [Configuration.dialogue_of_done]

end Flow

end Walkthrough
