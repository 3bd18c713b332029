import Walkthrough.Flow.Program

/-!
# What a run asks its driver

Seen from its driver, a run is a `Dialogue`: it asks for pauses and for things to be awaited, until
it ends with an outcome. All else a step does (running other steps, effects on the host) happens
inside, and an exception that leaves a step becomes a fault of the state that this step was started
from.

`Program.meaning` says which dialogue a program holds, by recursion on the program: a step that
another step runs holds its dialogue first, and the outer step goes on from its outcome. The two
drivers `Dialogue.block` and `Dialogue.suspend` differ in what they do about something awaited: the
blocking driver refuses it without running it.

Mirroring notes:
- `block` and `suspend` are the loops of `interpret` and `interpret_async`; what `Sleep` and `Await`
  hand to them are `sleep` and `await`.
- `Program.meaning` has no counterpart: it is the recursion that the explicit stack stands for
  (`Flow/Frames`), and `Flow.frames_eq_meaning` says that the two agree.
- A coroutine that is refused is closed there before it has begun, which does nothing.
-/

namespace Walkthrough

/-- What a run still asks of its driver, and how it ends. -/
inductive Dialogue (H : Host) (α : Type) : Type 1 where
  | finished (outcome : Outcome H α) (world : H.World)
  | sleep (seconds : Rat) (world : H.World)
      (next : Except Thrown Unit → H.World → Dialogue H α)
  | await {β : Type} (code : Act H.World β) (world : H.World)
      (next : Except Thrown β → H.World → Dialogue H α)

/-- What becomes of an awaited step under the blocking driver. -/
def Fault.asyncStep : Fault := ⟨"AsyncStepError", "asynchronous step requires run_async"⟩

/-- What becomes of a request that no driver knows. -/
def Fault.unsupportedRequest (shown : String) : Fault :=
  ⟨"TypeError", "Unsupported request: " ++ shown⟩

namespace Dialogue

variable {H : Host} {α β : Type}

/-- One dialogue, then the one that goes on from its outcome. -/
def andThen : Dialogue H α → (Outcome H α → H.World → Dialogue H β) → Dialogue H β
  | finished o w, f => f o w
  | sleep t w next, f => sleep t w fun r w => andThen (next r w) f
  | await code w next, f => await code w fun r w => andThen (next r w) f

/-- The blocking driver: it pauses, and refuses whatever is to be awaited without running it. -/
def block : Dialogue H α → Outcome H α × H.World
  | finished o w => (o, w)
  | sleep t w next => block (next (.ok ()) (H.pause t w))
  | await _ w next => block (next (.error (.fault .asyncStep)) w)

/-- The suspending driver: it pauses, and runs whatever is to be awaited. -/
def suspend : Dialogue H α → Outcome H α × H.World
  | finished o w => (o, w)
  | sleep t w next => suspend (next (.ok ()) (H.pause t w))
  | await code w next =>
    let (r, w) := code w
    suspend (next r w)

@[simp] theorem andThen_finished (d : Dialogue H α) : d.andThen finished = d := by
  induction d with
  | finished => rfl
  | sleep t w next ih => simp [andThen, ih]
  | await code w next ih => simp [andThen, ih]

theorem andThen_assoc {γ : Type} (d : Dialogue H α) (f : Outcome H α → H.World → Dialogue H β)
    (g : Outcome H β → H.World → Dialogue H γ) :
    (d.andThen f).andThen g = d.andThen fun o w => (f o w).andThen g := by
  induction d with
  | finished => rfl
  | sleep t w next ih => simp [andThen, ih]
  | await code w next ih => simp [andThen, ih]

end Dialogue

namespace Program

variable {H : Host} {α : Type}

/-- The dialogue that a program holds when its step was started from `start`. -/
def meaning {α : Type} : Program H α → (start : H.State) → Dialogue H α
  | finish o w, _ => .finished o w
  | raise e w, start => .finished (.raised start e) w
  | run step env s w next, start =>
    (meaning (step env s w) s).andThen fun o w => meaning (next o w) start
  | effect e w next, start =>
    meaning (next (H.perform e w).1 (H.perform e w).2) start
  | sleep t w next, start => .sleep t w fun r w => meaning (next r w) start
  | await code w next, start => .await code w fun r w => meaning (next r w) start
  | unsupported shown w, start => .finished (.raised start (.fault (.unsupportedRequest shown))) w

end Program

/-- The dialogue that a flow holds. -/
def Flow.meaning {H : Host} {α : Type} (c : Flow H α) (env : H.Env) (s : H.State) (w : H.World) :
    Dialogue H α :=
  (c env s w).meaning s

end Walkthrough
