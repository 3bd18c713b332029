import Walkthrough.Flow.Logging
import Walkthrough.Flow.Resource
import Walkthrough.Proofs.Run.Law
import Walkthrough.Proofs.Run.Trace

/-!
# Resources are released

Whatever becomes of the flow that needs a resource, and wherever in a run that is: from the moment
that a step with a resource is entered its trace is the trace of that flow, the call that releases
the resource, and nothing else before it is left (`Launch.Releases`). Every step that is entered in
between, with a resource or not, is left in between, so resources are released in the reverse order.

The main result is `Flow.releases_of_entered`.
-/

namespace Walkthrough

variable {H : Host} {α β γ : Type}

/-- What the attempt to release a resource adds to the failures. -/
def releaseFailures : Except Thrown Unit → List Failure
  | .ok _ => []
  | .error e => [.single .capability "Failed to release resource" [] (some e.toFault)]

namespace Flow

/-- The flow that needs a resource, made in the world `w`. -/
def needing (resource : β) (f : β → Act H.World (Flow H γ)) (w : H.World) : Flow H γ :=
  madeOrFailed (f resource w).1

/-- The run of the flow that needs a resource, from making it on. -/
def needed (d : Driver H) (resource : β) (f : β → Act H.World (Flow H γ)) (env : H.Env)
    (s : H.State) (w : H.World) : History H γ :=
  (needing resource f w).history d env s (f resource w).2

end Flow

/-- From where the step has been entered: the flow that needs the resource is run, then the resource
is released by one call, and then the step is left with the failures of the flow and, when the
release has failed, the failure to release. -/
def Launch.Releases (d : Driver H) (x : Launch H) (resource : β)
    (release : β → Act H.World (Reply H.World Unit)) (f : β → Act H.World (Flow H γ))
    (rest : List (Moment H)) : Prop :=
  let body := Flow.needed d resource f x.env x.state x.world
  let call := d.called (.code (release resource)) body.world
  ∃ (o : Outcome H x.Value) (after : List (Moment H)),
    rest = (Flow.needing resource f x.world).trace d x.env x.state (f resource x.world).2 ++
        call.map .request ++ .left o :: after ∧
      Moment.requests 0 rest = call ∧
      o.failures = body.outcome.failures ++
        releaseFailures (d.answer (release resource) body.world).1

/-! ## Retyped flows -/

namespace Flow.Retyped

variable {c : Flow H α} {c' : Flow H β}

/-- Changing the value of a flow changes nothing of what happens in it. -/
theorem moments (h : c.Retyped c') (d : Driver H) (env : H.Env) (s : H.State) (w : H.World) :
    (c' env s w).moments d = (c env s w).moments d := by
  induction h with
  | here => rfl
  | again f h ih => exact (Program.moments_map d f _).trans ih

/-- Changing the value of a flow changes nothing of the state that it leaves. -/
theorem state (h : c.Retyped c') (d : Driver H) (env : H.Env) (s : H.State) (w : H.World) :
    (c'.history d env s w).outcome.state = (c.history d env s w).outcome.state := by
  induction h with
  | here => rfl
  | @again β γ c' f h ih =>
    rw [← ih, history_eq, history_eq]
    show (((c' env s w).map f).history d s).outcome.state = _
    rw [Program.history_map]
    exact Outcome.state_map _ f

/-- Changing the value of a flow changes nothing of the world that it leaves. -/
theorem world (h : c.Retyped c') (d : Driver H) (env : H.Env) (s : H.State) (w : H.World) :
    (c'.history d env s w).world = (c.history d env s w).world := by
  induction h with
  | here => rfl
  | @again β γ c' f h ih =>
    rw [← ih, history_eq, history_eq]
    show (((c' env s w).map f).history d s).world = _
    rw [Program.history_map]
    rfl

end Flow.Retyped

/-! ## One step with a resource -/

namespace Flow

variable (d : Driver H) (resource : β) (release : β → Act H.World (Reply H.World Unit))
  (f : β → Act H.World (Flow H γ)) (env : H.Env) (s : H.State) (w : H.World)

theorem moments_use :
    (use resource release f env s w).moments d =
      (needing resource f w).trace d env s (f resource w).2 ++
        (d.called (.code (release resource)) (needed d resource f env s w).world).map .request := by
  unfold use
  rw [Program.moments_run, Program.moments_outside]
  -- however the release ends, the step ends with it
  rcases d.answer (H.perform (.code (release resource))) _ with ⟨e | u, w'⟩
  · exact congrArg (_ ++ ·) (List.append_nil _)
  · exact congrArg (_ ++ ·) (List.append_nil _)

theorem failures_use :
    ((use resource release f).history d env s w).outcome.failures =
      (needed d resource f env s w).outcome.failures ++
        releaseFailures (d.answer (release resource) (needed d resource f env s w).world).1 := by
  rw [history_eq]
  unfold use
  rw [Program.history_run, History.outcome_after]
  -- the step goes on from the answer of the release, awaited or not
  refine (congrArg Outcome.failures (Program.answer_outside d (fun _ => rfl) _ _ _).1).trans ?_
  rw [needed, needing, history_eq]
  show _ = _ ++ releaseFailures (d.answer (H.perform (.code (release resource))) _).1
  rcases d.answer (H.perform (.code (release resource))) _ with ⟨e | u, w'⟩
  · rfl
  · exact (List.append_nil _).symm

/-- What a step with a resource does, whatever else its value is changed to. -/
theorem releases_of_trace {x : Launch H} (hx : (use resource release f).Retyped x.flow)
    {rest after : List (Moment H)}
    (hrest : .entered x :: rest = x.flow.trace d x.env x.state x.world ++ after) :
    x.Releases d resource release f rest := by
  let call := d.called (.code (release resource)) (needed d resource f x.env x.state x.world).world
  let o := (x.flow.history d x.env x.state x.world).outcome
  -- the trace of the step is the one of the flow and the call, and the outcome closes it
  have hsplit : rest = (needing resource f x.world).trace d x.env x.state (f resource x.world).2 ++
      call.map .request ++ .left o :: after := by
    rw [(List.cons.inj hrest).2, hx.moments, moments_use]
    exact List.append_assoc _ [_] after
  refine ⟨o, after, hsplit, ?_, ?_⟩
  · rw [hsplit, List.append_assoc, requests_trace, Moment.requests_own]
  · show o.state.failures = _
    rw [hx.state]
    exact failures_use d resource release f x.env x.state x.world

end Flow

/-- A release adds a failure when it throws, or hands back something whose wait ends badly, and only
then. -/
theorem releaseFailures_ne_nil_iff (d : Driver H) (code : Act H.World (Reply H.World Unit))
    (w : H.World) :
    releaseFailures (d.answer code w).1 ≠ [] ↔
      (∃ e, (code w).1 = .error e) ∨
        ∃ later e, (code w).1 = .ok (.awaitable later) ∧
          (d.await later (code w).2).1 = .error e := by
  unfold Driver.answer
  rcases code w with ⟨e | reply, w'⟩
  · simp [Driver.settle, releaseFailures]
  · cases reply with
    | value u => simp [Driver.settle, releaseFailures]
    | awaitable later =>
      rcases hawait : (d.await later w').1 with e | u
      · simp [Driver.settle, releaseFailures, hawait]
      · simp [Driver.settle, releaseFailures, hawait]

namespace Flow

/-- Each time that a step with a resource is entered in a run, at any depth, the flow that needs the
resource is run, then the resource is released by one call, and only then the step is left, with the
failures of the flow and the failure to release if there is one. A step with a resource that is
entered while the flow of another one is run does all of this before that flow is left, and so
before the resource of the other one is released. -/
theorem releases_of_entered (c : Flow H α) (d : Driver H) (env : H.Env) (s : H.State)
    (w : H.World) :
    (c.trace d env s w).map Moment.event =
        .started s :: (c.history d env s w).events ++ [.ended (c.history d env s w).outcome] ∧
      (∀ {β γ : Type} (resource : β) (release : β → Act H.World (Reply H.World Unit))
        (f : β → Act H.World (Flow H γ)) (before : List (Moment H)) (x : Launch H)
        (rest : List (Moment H)), (use resource release f).Retyped x.flow →
          c.trace d env s w = before ++ .entered x :: rest →
            x.Releases d resource release f rest ∧
            ∀ {β' γ' : Type} (resource' : β') (release' : β' → Act H.World (Reply H.World Unit))
              (f' : β' → Act H.World (Flow H γ')) (before' : List (Moment H)) (y : Launch H)
              (rest' : List (Moment H)), (use resource' release' f').Retyped y.flow →
                (needing resource f x.world).trace d x.env x.state (f resource x.world).2 =
                    before' ++ .entered y :: rest' →
                  y.Releases d resource' release' f' rest') ∧
      ∀ (code : Act H.World (Reply H.World Unit)) (w : H.World),
        releaseFailures (d.answer code w).1 ≠ [] ↔
          (∃ e, (code w).1 = .error e) ∨
            ∃ later e, (code w).1 = .ok (.awaitable later) ∧
              (d.await later (code w).2).1 = .error e := by
  refine ⟨event_trace c d env s w, ?_, releaseFailures_ne_nil_iff d⟩
  intro β γ resource release f before x rest hx htrace
  obtain ⟨after, hafter⟩ := closed_trace c d env s w before x rest htrace
  refine ⟨releases_of_trace d resource release f hx hafter, ?_⟩
  -- the flow that needs the resource is a flow like any other
  intro β' γ' resource' release' f' before' y rest' hy hneeding
  obtain ⟨after', hafter'⟩ := closed_trace _ d _ _ _ before' y rest' hneeding
  exact releases_of_trace d resource' release' f' hy hafter'

/-- One resource inside of another one, inside a scope: the flow fails, and so does the release of
the inner resource. -/
theorem releases_of_entered_nested :
    let broken : Failure := .single .assertion "broken" [] none
    let free : String → Act Nat (Reply Nat Unit) := fun _ w => (.ok (.value ()), w + 1)
    let stick : String → Act Nat (Reply Nat Unit) := fun _ w =>
      (.error (.fault ⟨"OSError", "stuck"⟩), w + 1)
    let inner : Flow Host.refusing Unit := use "inner" stick fun _ => .ok (failure broken [])
    let outer : Flow Host.refusing Unit := use "outer" free fun _ => .ok inner
    let c : Flow Host.refusing Unit := context "shop" outer
    let x : Launch Host.refusing := ⟨outer, (), Host.refusingStart.enter "shop", (0 : Nat)⟩
    let y : Launch Host.refusing := ⟨inner, (), Host.refusingStart.enter "shop", (0 : Nat)⟩
    ∃ before rest rest', c.trace .blocking () Host.refusingStart (0 : Nat) =
        before ++ .entered x :: rest ∧
      inner.trace .blocking () x.state x.world = [] ++ .entered y :: rest' ∧
      x.Releases .blocking "outer" free (fun _ => .ok inner) rest ∧
      y.Releases .blocking "inner" stick (fun _ => .ok (failure broken [] : Flow _ Unit)) rest' ∧
      (outer.history .blocking () x.state x.world).outcome.failures =
        [broken, .single .capability "Failed to release resource" []
          (some ⟨"OSError", "stuck"⟩)] := by
  intro broken free stick inner outer c x y
  obtain ⟨-, hentered, -⟩ :=
    releases_of_entered c .blocking () Host.refusingStart (0 : Nat)
  have hc : c.trace .blocking () Host.refusingStart (0 : Nat) =
      [.entered ⟨c, (), Host.refusingStart, (0 : Nat)⟩, _, _] ++ .entered x :: _ := rfl
  have hinner : inner.trace .blocking () x.state x.world = [] ++ .entered y :: _ := rfl
  have hfailures : (outer.history .blocking () x.state x.world).outcome.failures =
      [broken, .single .capability "Failed to release resource" []
        (some ⟨"OSError", "stuck"⟩)] := by
    rw [history_eq]
    rfl
  obtain ⟨houter, hnested⟩ := hentered "outer" free (fun _ => .ok inner) _ x _ .here hc
  exact ⟨_, _, _, hc, hinner, houter, hnested "inner" stick _ _ y _ .here hinner, hfailures⟩

end Flow

end Walkthrough
