import Walkthrough.Host

/-!
# Programs of a flow

A step of a flow is a function from the environment, the state and the world to a `Program`: the
tree of everything it may still ask for. It ends with an outcome or throws; in between it runs
other steps, has effects on the host, pauses, or awaits what a call handed back. Each request
carries the world as it stands then, and the tree goes on from the answer and the world after it.

An `Outcome` is the value of a step together with the state it left behind. An outcome whose state
holds failures is faulted; a faulted outcome may still carry a value (a batch does), and an outcome
without a value is always faulted.

Mirroring notes:
- A `Flow` is a `Computation`: what its program does with an environment and a state. `run`, `sleep`
  and `await` are the requests `Run`, `Sleep` and `Await`, and `unsupported` is whatever else is
  asked for.
- What a step does outside between two requests (calling a function, a session or a sink) is no
  request there. Here it is one, `effect`, so that it can be seen in the history of a run.
- `raise` is an exception that leaves the step. Code that catches what is thrown into it at a
  request goes on from `Except.error`.
- A program is a tree in which every path ends, so a step that goes on forever is none. The loops
  that could are those of waiting, and `Flow/Retry` says where they are cut.
- `Outcome.of` and `Outcome.fault` are the constructor and `fault` of `Outcome`, and `faulted none`
  is what `discard_value` leaves of a faulted one. Whether an outcome is faulted is read off its
  state there; here the constructor says it too, with the proof that the state agrees.
-/

namespace Walkthrough

/-- The value of a step and the state it left behind. -/
inductive Outcome (H : Host) (α : Type) where
  | success (value : α) (state : H.State) (sound : state.failures = [])
  | faulted (value : Option α) (state : H.State) (unsound : state.failures ≠ [])

namespace Outcome

variable {H : Host} {α β : Type}

/-- The state that a step left behind. -/
def state : Outcome H α → H.State
  | success _ s _ => s
  | faulted _ s _ => s

/-- The value of a step, if there is one. -/
def value? : Outcome H α → Option α
  | success a _ _ => some a
  | faulted a _ _ => a

/-- The failures in the state that a step left behind. -/
def failures (o : Outcome H α) : List Failure := o.state.failures

/-- Whether the state that a step left behind holds failures. -/
def isFaulted : Outcome H α → Bool
  | success .. => false
  | faulted .. => true

/-- The outcome with this value and this state. -/
def of (a : α) (s : H.State) : Outcome H α :=
  if h : s.failures = [] then success a s h else faulted (some a) s h

/-- The state with one more failure, or several, and no value. -/
def fault (s : H.State) (f : Failure) (fs : List Failure) : Outcome H α :=
  faulted none (s.addFailures (f :: fs)) (by simp)

/-- The fault that an exception makes of the state that a step was started from. -/
def raised (s : H.State) (e : Thrown) : Outcome H α := fault s (Failure.ofThrown e none) []

/-- Changes the state, but not whether it is faulted. -/
def update (o : Outcome H α) (f : H.State → H.State)
    (hf : ∀ s, (f s).failures = [] ↔ s.failures = []) : Outcome H α :=
  match o with
  | success a s h => success a (f s) ((hf s).2 h)
  | faulted a s h => faulted a (f s) fun h' => h ((hf s).1 h')

/-- Changes the value. -/
def map (f : α → β) : Outcome H α → Outcome H β
  | success a s h => success (f a) s h
  | faulted a s h => faulted (a.map f) s h

theorem isFaulted_iff {o : Outcome H α} : o.isFaulted = true ↔ o.failures ≠ [] := by
  cases o <;> simp_all [isFaulted, failures, state]

/-- An outcome that is not faulted leaves a state without failures. -/
theorem failures_of_unfaulted {o : Outcome H α} (h : o.isFaulted = false) :
    o.state.failures = [] := by
  cases o with
  | success a s sound => exact sound
  | faulted a s unsound => cases h

/-- An outcome whose state has no failures is not faulted. -/
theorem unfaulted_of_failures {o : Outcome H α} (h : o.state.failures = []) :
    o.isFaulted = false := by
  cases o with
  | success a s sound => rfl
  | faulted a s unsound => exact absurd h unsound

@[simp] theorem isFaulted_map (f : α → β) (o : Outcome H α) :
    (o.map f).isFaulted = o.isFaulted := by
  cases o <;> rfl

@[simp] theorem state_of (a : α) (s : H.State) : (of a s).state = s := by
  unfold of; split <;> rfl

@[simp] theorem value?_of (a : α) (s : H.State) : (of a s).value? = some a := by
  unfold of; split <;> rfl

end Outcome

/-- What a step may still ask for, and how it ends. -/
inductive Program (H : Host) : Type → Type 1 where
  /-- The step has ended. -/
  | finish {α : Type} (outcome : Outcome H α) (world : H.World) : Program H α
  /-- The step has thrown. -/
  | raise {α : Type} (e : Thrown) (world : H.World) : Program H α
  /-- The step runs another step from some state, and goes on from its outcome. -/
  | run {α β : Type} (step : H.Env → H.State → H.World → Program H β) (env : H.Env)
      (state : H.State) (world : H.World) (next : Outcome H β → H.World → Program H α) :
      Program H α
  /-- The step asks something of the host. -/
  | effect {α β : Type} (e : Effect H β) (world : H.World)
      (next : Except Thrown β → H.World → Program H α) : Program H α
  /-- The step pauses for a number of seconds. -/
  | sleep {α : Type} (seconds : Rat) (world : H.World)
      (next : Except Thrown Unit → H.World → Program H α) : Program H α
  /-- The step waits for what a call handed back. -/
  | await {α β : Type} (code : Act H.World β) (world : H.World)
      (next : Except Thrown β → H.World → Program H α) : Program H α
  /-- The step asks for something that is none of these, shown as it would be quoted. -/
  | unsupported {α : Type} (shown : String) (world : H.World) : Program H α

/-- A step, or a chain of steps, to be run with an environment from a state. -/
def Flow (H : Host) (α : Type) : Type 1 := H.Env → H.State → H.World → Program H α

namespace Program

variable {H : Host} {α β : Type}

/-- Goes on with the value of a reply, waiting for it if that is needed. -/
def resolve (r : Except Thrown (Reply H.World β)) (w : H.World)
    (next : Except Thrown β → H.World → Program H α) : Program H α :=
  match r with
  | .error e => next (.error e) w
  | .ok (.value b) => next (.ok b) w
  | .ok (.awaitable code) => .await code w next

/-- Does something outside and goes on with the value of its reply. -/
def outside (e : Effect H (Reply H.World β)) (w : H.World)
    (next : Except Thrown β → H.World → Program H α) : Program H α :=
  .effect e w fun r w => resolve r w next

/-- Changes the value that a program ends with. -/
def map (f : α → β) : Program H α → Program H β
  | finish o w => finish (o.map f) w
  | raise e w => raise e w
  | run step env s w next => run step env s w fun o w => map f (next o w)
  | effect e w next => effect e w fun r w => map f (next r w)
  | sleep t w next => sleep t w fun r w => map f (next r w)
  | await code w next => await code w fun r w => map f (next r w)
  | unsupported shown w => unsupported shown w

end Program

end Walkthrough
