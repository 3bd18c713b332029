import Walkthrough.Flow.Frames

/-!
# The stack of frames holds the dialogue of the flow

`Flow.frames` runs a flow on an explicit stack, `Flow.meaning` by recursion on its program. This
file proves that the two hold one and the same dialogue (`Flow.frames_eq_meaning`): they ask for the
same pauses and the same things to be awaited, in the same order, go on alike from every answer
(a value or something thrown), and end with the same outcome in the same world.

A configuration stands for the dialogue of its innermost program followed by what its stack makes of
the outcome (`Configuration.meaning`). One move never changes that dialogue
(`Configuration.meaning_eq_advance`): an outcome goes to the frame right below, something thrown
becomes a fault of the state that the innermost step was started from, and a frame that is pushed is
the very continuation of the step that pushed it. Moves cannot go on forever, so induction along
them carries the step over to whole runs.
-/

namespace Walkthrough

variable {H : Host} {ω : Type}

/-- The dialogue that the waiting steps hold once they are handed an outcome. -/
def Stack.meaning {α : Type} : Stack H ω α → Outcome H α → H.World → Dialogue H ω
  | done, o, w => .finished o w
  | frame next start rest, o, w => ((next o w).meaning start).andThen rest.meaning

/-- The dialogue that a configuration stands for. -/
def Configuration.meaning (c : Configuration H ω) : Dialogue H ω :=
  (c.program.meaning c.start).andThen c.stack.meaning

/-- The dialogue that is left after a move. -/
def Move.meaning : Move H ω → Dialogue H ω
  | ended o w => .finished o w
  | goOn c => c.meaning
  | sleep t w next => .sleep t w fun r w => (next r w).meaning
  | await code w next => .await code w fun r w => (next r w).meaning

/-- Handing an outcome to a stack holds the dialogue of the stack from that outcome on. -/
theorem Stack.meaning_reply {α : Type} (stack : Stack H ω α) (o : Outcome H α) (w : H.World) :
    (stack.reply o w).meaning = stack.meaning o w := by
  cases stack with
  | done => rfl
  | frame next start rest => rfl

namespace Configuration

/-- One move leaves the dialogue as it is. -/
theorem meaning_eq_advance (c : Configuration H ω) : c.meaning = c.advance.meaning := by
  obtain ⟨p, start, stack⟩ := c
  cases p with
  | finish o w => exact (stack.meaning_reply o w).symm
  | raise e w => exact (stack.meaning_reply (.raised start e) w).symm
  | unsupported shown w =>
    exact (stack.meaning_reply (.raised start (.fault (.unsupportedRequest shown))) w).symm
  | run step env s w next =>
    -- the frame that is pushed goes on exactly as the program does after the inner step
    exact Dialogue.andThen_assoc _ _ _
  | effect e w next => rfl
  | sleep t w next => rfl
  | await code w next => rfl

/-- The dialogue of a run is the one that its configuration stands for. -/
theorem dialogue_eq_meaning (c : Configuration H ω) : c.dialogue = c.meaning := by
  induction c using wellFounded_follows.induction with
  | _ c ih =>
    rw [meaning_eq_advance, dialogue]
    split
    next o w h =>
      rw [h]
      rfl
    next c' h =>
      rw [h]
      exact ih c' (.goOn h)
    next t w next h =>
      have hnext : (fun r w' => (next r w').dialogue) = fun r w' => (next r w').meaning := by
        funext r w'
        exact ih _ (.sleep h r w')
      rw [h, hnext]
      rfl
    next β code w next h =>
      have hnext : (fun r w' => (next r w').dialogue) = fun r w' => (next r w').meaning := by
        funext r w'
        exact ih _ (.await h r w')
      rw [h, hnext]
      rfl

/-- With nothing on the stack the dialogue is that of the program. -/
theorem dialogue_of_done (p : Program H ω) (start : H.State) :
    dialogue ⟨p, start, .done⟩ = p.meaning start := by
  rw [dialogue_eq_meaning]
  exact Dialogue.andThen_finished _

end Configuration

/-- Running a flow on a stack of frames holds the dialogue that the flow holds by recursion. The
equality covers every request, every answer to it (a value or something thrown), the outcome, and
the world at each of these points. -/
theorem Flow.frames_eq_meaning {α : Type} (c : Flow H α) (env : H.Env) (s : H.State)
    (w : H.World) : c.frames env s w = c.meaning env s w :=
  Configuration.dialogue_of_done (c env s w) s

end Walkthrough
