import Walkthrough.Flow.Basic
import Walkthrough.Proofs.Run.History

/-!
# How a flow behaves

The history of a run also holds which steps were started and ended on the way. The behaviour of a
flow leaves these out: it is the history of its run on the stack of frames with only what leaves the
run (the effects on the host with their answers, the pauses, and what was awaited), the outcome, and
the world that is left. Two flows that behave alike cannot be told apart, although the stacks on
which they are run look different.

A nested step shows only its own behaviour (`Program.outward_run`), so the behaviour of a flow that
is built from others follows from theirs: there is one equation for each combinator, in terms of how
a history goes on from an outcome (`History.andThen`, `History.onSuccess`).
-/

namespace Walkthrough

variable {H : Host} {α β γ : Type}

/-- The event shows outside of the run: it is not the start or the end of a step. -/
def Event.isOutward : Event H → Bool
  | started _ => false
  | ended _ => false
  | did _ _ => true
  | slept _ => true
  | awaited _ _ => true

namespace Outcome

/-- The outcome without the value that it carries although it is faulted. -/
def dropFaultedValue : Outcome H α → Outcome H α
  | success a s sound => success a s sound
  | faulted _ s unsound => faulted none s unsound

/-- A value in a state without failures is a success. -/
theorem of_eq_success {a : α} {s : H.State} (hs : s.failures = []) : of a s = success a s hs :=
  dif_pos hs

end Outcome

namespace History

/-- The history without the starts and ends of steps. -/
def outward (h : History H α) : History H α :=
  { h with events := h.events.filter Event.isOutward }

/-- The history that ends at once. -/
def atOnce (o : Outcome H α) (w : H.World) : History H α := ⟨[], o, w⟩

/-- Goes on from a value; a failure is the end, and loses the value that it may carry. -/
def onSuccess (h : History H α) (f : α → H.State → H.World → History H β) : History H β :=
  h.andThen fun o w =>
    match o with
    | .faulted _ s unsound => atOnce (.faulted none s unsound) w
    | .success a s _ => f a s w

/-- The history whose outcome has lost the value that it carried although it was faulted. -/
def dropFaultedValue (h : History H α) : History H α :=
  { h with outcome := h.outcome.dropFaultedValue }

/-- What is seen from outside includes the outcome. -/
@[simp] theorem outcome_outward (h : History H α) : h.outward.outcome = h.outcome := rfl

/-- Earlier events are seen from outside if they are outward ones. -/
theorem outward_after (h : History H α) (es : List (Event H)) :
    (h.after es).outward = h.outward.after (es.filter Event.isOutward) := by
  simp [outward, after]

/-- Going on twice is going on once with both. -/
theorem andThen_assoc (h : History H α) (f : Outcome H α → H.World → History H β)
    (g : Outcome H β → H.World → History H γ) :
    (h.andThen f).andThen g = h.andThen fun o w => (f o w).andThen g :=
  andThen_after _ _ _

/-- From a value in a state without failures, all that is left is what follows. -/
theorem atOnce_onSuccess {a : α} {s : H.State} (hs : s.failures = []) (w : H.World)
    (f : α → H.State → H.World → History H β) : (atOnce (.of a s) w).onSuccess f = f a s w := by
  rw [Outcome.of_eq_success hs]
  rfl

/-- After a success all that follows is run from the state that was left, behind the events that led
to it. -/
theorem onSuccess_of_success {h : History H α} {a : α} {s : H.State} {hs : s.failures = []}
    (hout : h.outcome = .success a s hs) (f : α → H.State → H.World → History H β) :
    h.onSuccess f = (f a s h.world).after h.events := by
  unfold onSuccess andThen
  rw [hout]

/-- A failure skips whatever follows, however the rest is put in parentheses. This is what the laws
of `bind` rest on. -/
theorem onSuccess_assoc (h : History H α) (f : α → H.State → H.World → History H β)
    (g : β → H.State → H.World → History H γ) :
    (h.onSuccess f).onSuccess g = h.onSuccess fun a s w => (f a s w).onSuccess g := by
  unfold onSuccess
  rw [andThen_assoc]
  refine congrArg h.andThen (funext fun o => funext fun w => ?_)
  -- a failure of the first flow has lost its value before the last one is asked
  cases o with
  | success a s sound => rfl
  | faulted v s unsound => rfl

/-- What follows a value only counts in states without failures. -/
theorem onSuccess_congr (h : History H α) {f g : α → H.State → H.World → History H β}
    (hfg : ∀ a s w, s.failures = [] → f a s w = g a s w) : h.onSuccess f = h.onSuccess g := by
  refine congrArg h.andThen (funext fun o => funext fun w => ?_)
  cases o with
  | success a s sound => exact hfg a s w sound
  | faulted v s unsound => rfl

/-- Going on with the value itself changes nothing but the value of a faulted outcome. -/
theorem onSuccess_of (h : History H α) :
    (h.onSuccess fun a s w => atOnce (.of a s) w) = h.dropFaultedValue := by
  obtain ⟨events, o, w⟩ := h
  cases o with
  | success a s sound =>
    have hvalue : (Outcome.of a s : Outcome H α) = .success a s sound :=
      Outcome.of_eq_success sound
    simp only [onSuccess, andThen, after, atOnce, hvalue, List.append_nil]
    rfl
  | faulted v s unsound =>
    simp only [onSuccess, andThen, after, atOnce, List.append_nil]
    rfl

end History

namespace Flow

/-- What is seen of a run of the flow from outside, how it ends, and the world that it leaves. -/
def behaviour (c : Flow H α) (d : Driver H) (env : H.Env) (s : H.State) (w : H.World) :
    History H α :=
  (c.history d env s w).outward

/-- The two flows cannot be told apart, whatever drives them and wherever they are run from. -/
def BehavesAs (c c' : Flow H α) : Prop :=
  ∀ d env s w, c.behaviour d env s w = c'.behaviour d env s w

namespace BehavesAs

/-- Every flow behaves as itself. -/
theorem refl (c : Flow H α) : c.BehavesAs c := fun _ _ _ _ => rfl

/-- Behaving alike goes both ways. -/
theorem symm {c c' : Flow H α} (h : c.BehavesAs c') : c'.BehavesAs c :=
  fun d env s w => (h d env s w).symm

/-- Flows that behave as a third one behave alike. -/
theorem trans {c c' c'' : Flow H α} (h : c.BehavesAs c') (h' : c'.BehavesAs c'') :
    c.BehavesAs c'' :=
  fun d env s w => (h d env s w).trans (h' d env s w)

end BehavesAs

/-- The behaviour of a flow is read off the history of its program, so that a combinator is opened
once and for all callers. -/
theorem behaviour_eq (c : Flow H α) (d : Driver H) (env : H.Env) (s : H.State) (w : H.World) :
    c.behaviour d env s w = ((c env s w).history d s).outward :=
  congrArg History.outward (c.history_eq d env s w)

end Flow

/-! ## Requests -/

/-- Of a nested step only its behaviour is seen, before what follows it. -/
theorem Program.outward_run (d : Driver H) (c : Flow H β) (env : H.Env) (s : H.State)
    (w : H.World) (next : Outcome H β → H.World → Program H α) (start : H.State) :
    ((Program.run c env s w next).history d start).outward =
      (c.behaviour d env s w).andThen fun o w' => ((next o w').history d start).outward := by
  rw [Flow.behaviour_eq, Program.history_run, History.outward_after]
  -- the start and the end of the step are the two events that are left out
  simp [History.andThen, History.outward, Event.isOutward]

/-! ## Combinators -/

namespace Flow

variable (d : Driver H) (env : H.Env) (s : H.State) (w : H.World)

/-- A value shows nothing and changes nothing. -/
theorem behaviour_pure (a : α) : (pure a).behaviour d env s w = .atOnce (.of a s) w := by
  rw [behaviour_eq]
  rfl

/-- Ending as another flow does is behaving as it does. -/
theorem outward_endWith (c : Flow H α) (start : H.State) :
    ((c.endWith env s w).history d start).outward = c.behaviour d env s w := by
  unfold endWith
  rw [Program.outward_run]
  simp [History.andThen, History.after, Program.history, History.outward]

/-- What is seen when the flow that outside code makes is run, or when the code throws in a step
that was started from `start`. -/
def behaviourMade (made : Except Thrown (Flow H α) × H.World) (start : H.State) : History H α :=
  match made with
  | (.ok c, w) => c.behaviour d env s w
  | (.error e, w) => .atOnce (.raised start e) w

/-- Running the flow that code has made: what the code threw is a fault of the state in which the
combinator was started. -/
theorem outward_endWithMade (made : Except Thrown (Flow H α) × H.World) (start : H.State) :
    ((endWithMade made env s).history d start).outward = behaviourMade d env s made start := by
  obtain ⟨e | c, w⟩ := made
  · rfl
  · exact outward_endWith d env s w c start

/-- What is seen when outside code gives the value of a step that was started from `start`. -/
def behaviourGiven (given : Except Thrown α × H.World) (start : H.State) : History H α :=
  match given with
  | (.ok a, w) => .atOnce (.of a s) w
  | (.error e, w) => .atOnce (.raised start e) w

/-- Ending with the value that code has given, or with what it threw. -/
theorem outward_endWithValue (given : Except Thrown α × H.World) (start : H.State) :
    ((endWithValue given s).history d start).outward = behaviourGiven s given start := by
  obtain ⟨e | a, w⟩ := given
  · rfl
  · rfl

/-- `bind` in one equation: the function is called with the value, and an exception of it is a fault
of the state that `bind` itself was started from. -/
theorem behaviour_bind (c : Flow H α) (f : α → Act H.World (Flow H β)) :
    (c.bind f).behaviour d env s w =
      (c.behaviour d env s w).onSuccess fun a t w' => behaviourMade d env t (f a w') s := by
  rw [behaviour_eq]
  unfold bind
  rw [Program.outward_run]
  refine congrArg (History.andThen _) (funext fun o => funext fun w' => ?_)
  -- the function is called in the step of `bind`, which was started from `s`
  cases o with
  | faulted v t h => rfl
  | success a t h => exact outward_endWithMade d env t (f a w') s

/-- One flow after the other, without a function in between that could throw. -/
theorem behaviour_andThen (c : Flow H α) (c' : Flow H β) :
    (c.andThen c').behaviour d env s w =
      (c.behaviour d env s w).onSuccess fun _ t w' => c'.behaviour d env t w' :=
  behaviour_bind d env s w c _

/-- The second flow is run from what a first one left that ended well. -/
theorem behaviour_andThen_of_success {c : Flow H α} {s t : H.State} {w : H.World} {a : α}
    {sound : t.failures = []} (hc : (c.history d env s w).outcome = .success a t sound)
    (c' : Flow H β) :
    (c.andThen c').behaviour d env s w =
      (c'.behaviour d env t (c.history d env s w).world).after (c.behaviour d env s w).events := by
  rw [behaviour_andThen]
  exact History.onSuccess_of_success (h := c.behaviour d env s w) hc _

/-- `map` in one equation, with the same place for an exception as `bind`. -/
theorem behaviour_map (c : Flow H α) (f : α → Act H.World β) :
    (c.map f).behaviour d env s w =
      (c.behaviour d env s w).onSuccess fun a t w' => behaviourGiven t (f a w') s := by
  rw [behaviour_eq]
  unfold map
  rw [Program.outward_run]
  refine congrArg (History.andThen _) (funext fun o => funext fun w' => ?_)
  cases o with
  | faulted v t h => rfl
  | success a t h => exact outward_endWithValue d t (f a w') s

end Flow

end Walkthrough
