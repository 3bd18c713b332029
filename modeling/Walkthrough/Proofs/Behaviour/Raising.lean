import Walkthrough.Proofs.Behaviour.Basic
import Walkthrough.Proofs.Faults.Recording

/-!
# What is left when a function throws

A function that is given to `bind`, `map` or `bimap` is called after the flow before it has ended.
When it throws, it leaves the step of the combinator, and the run faults the state that this step
was started from: all that the flow before it has put into the state is gone, its lines and its
configuration included, although its effects on the host are done (`Flow.raised_of_throwing`). How
much is lost depends on the parentheses (`Flow.raised_of_andThen`).

A list of steps catches what its body throws itself, and faults the state that the last step that
ended well has left (`Body.reached`): it keeps what the flows before have done.
-/

namespace Walkthrough

variable {H : Host} {α β γ : Type} (d : Driver H) (env : H.Env)

/-- A step that runs a flow and then throws shows what the flow does, and leaves the state that it
was itself started from. -/
theorem Program.outward_run_raise {c : Flow H α} {s start : H.State} {w w' : H.World} {e : Thrown}
    {next : Outcome H α → H.World → Program H β}
    (hnext : next (c.history d env s w).outcome (c.history d env s w).world = .raise e w') :
    ((Program.run c env s w next).history d start).outward =
      ⟨(c.behaviour d env s w).events, .raised start e, w'⟩ := by
  have hrest : ((next (c.behaviour d env s w).outcome (c.behaviour d env s w).world).history d
      start).outward = .atOnce (.raised start e) w' := by
    show ((next (c.history d env s w).outcome (c.history d env s w).world).history d start).outward
      = _
    rw [hnext]
    rfl
  rw [Program.outward_run, History.andThen, hrest]
  simp [History.atOnce, History.after]

/-- The state that the flow of a body has reached when it ends: the one that the last flow that the
body handed out with success has left. -/
def Body.reached (d : Driver H) (env : H.Env) : Body H α → H.State → H.State
  | .handsOut c w _ resume, s =>
    match ((c env s w).history d s).outcome with
    | .success b t _ => reached d env (resume b ((c env s w).history d s).world) t
    | .faulted .. => s
  | .returned _ _, s => s
  | .threw _ _, s => s
  | .strays _ _ _, s => s

namespace Flow

variable {d env}

/-- What a body throws faults the state that it has reached. -/
theorem followBody_threw {b : Body H α} {s : H.State} {e : Thrown} {w : H.World}
    (hlast : b.last d env s = .threw e w) (start : H.State) :
    ((followBody env b s).history d start).outcome = .raised (b.reached d env s) e ∧
      ((followBody env b s).history d start).world = w := by
  induction b generalizing s with
  | returned a v => cases hlast
  | strays shown v close => cases hlast
  | threw e' v =>
    cases hlast
    exact ⟨rfl, rfl⟩
  | handsOut c v close resume ih =>
    -- the body goes on only behind a flow that ended well, as its flow does
    unfold Body.last at hlast
    unfold Body.reached
    rw [followBody, Program.history_run, History.outcome_after, History.world_after]
    rcases hinner : (c env s v).history d s with ⟨events, o, v'⟩
    rw [hinner] at hlast
    cases o with
    | faulted a t ht => cases hlast
    | success a t ht => exact ih a v' hlast

theorem ofBody_threw {body : H.World → Body H α} {s : H.State} {w w' : H.World} {e : Thrown}
    (hlast : (body w).last d env s = .threw e w') :
    ((ofBody body).history d env s w).outcome = .raised ((body w).reached d env s) e ∧
      ((ofBody body).history d env s w).world = w' := by
  rw [history_eq]
  exact followBody_threw hlast s

section

variable {c : Flow H α} {s t : H.State} {w w' : H.World} {a : α} {sound : t.failures = []}
  {e : Thrown} (hc : (c.history d env s w).outcome = .success a t sound)

include hc

theorem behaviour_bind_throws {f : α → Act H.World (Flow H β)}
    (hf : f a (c.history d env s w).world = (.error e, w')) :
    (c.bind f).behaviour d env s w = ⟨(c.behaviour d env s w).events, .raised s e, w'⟩ := by
  rw [behaviour_eq (c.bind f)]
  refine Program.outward_run_raise d env ?_
  rw [hc]
  exact congrArg (endWithMade · env t) hf

theorem behaviour_map_throws {f : α → Act H.World β}
    (hf : f a (c.history d env s w).world = (.error e, w')) :
    (c.map f).behaviour d env s w = ⟨(c.behaviour d env s w).events, .raised s e, w'⟩ := by
  rw [behaviour_eq (c.map f)]
  refine Program.outward_run_raise d env ?_
  rw [hc]
  exact congrArg (endWithValue · t) hf

theorem behaviour_bimap_throws {f : α → Act H.World β}
    {g : List Failure → Act H.World (List Failure)}
    (hf : f a (c.history d env s w).world = (.error e, w')) :
    (c.bimap f g).behaviour d env s w = ⟨(c.behaviour d env s w).events, .raised s e, w'⟩ := by
  rw [behaviour_eq (c.bimap f g)]
  refine Program.outward_run_raise d env ?_
  rw [hc]
  exact congrArg (endWithValue · t) hf

end

/-- A flow runs, then another one, then a function throws. How the three are put in parentheses says
which step is left, and so whether what the first flow has done to the state is kept. -/
theorem raised_of_andThen {b : Flow H γ} {c : Flow H α} {r s t : H.State} {v v' w' : H.World}
    {x : γ} {a : α} {hs : s.failures = []} {ht : t.failures = []}
    (hb : (b.history d env r v).outcome = .success x s hs)
    (hv : (b.history d env r v).world = v')
    (hc : (c.history d env s v').outcome = .success a t ht)
    {f : α → Act H.World (Flow H β)} {e : Thrown}
    (hf : f a (c.history d env s v').world = (.error e, w')) :
    (((b.andThen c).bind f).behaviour d env r v).outcome = .raised r e ∧
      ((b.andThen (c.bind f)).behaviour d env r v).outcome = .raised s e := by
  subst hv
  have hboth : ((b.andThen c).behaviour d env r v).outcome = .success a t ht := by
    rw [behaviour_andThen_of_success d env hb]
    exact hc
  have hworld : ((b.andThen c).behaviour d env r v).world =
      (c.history d env s (b.history d env r v).world).world := by
    rw [behaviour_andThen_of_success d env hb]
    rfl
  constructor
  · rw [behaviour_bind_throws hboth ((congrArg (f a) hworld).trans hf)]
  · rw [behaviour_andThen_of_success d env hb, History.outcome_after, behaviour_bind_throws hc hf]

/-- A function that throws leaves the step of the combinator that it is given to, and the run faults
the state that this step was started from: what the flow before it did to the outside is done, but
nothing of what it has left in the state is kept. A list of steps whose body throws faults the state
that its last step with success has left. -/
theorem raised_of_throwing {c : Flow H α} {s t : H.State} {w : H.World} {a : α}
    {sound : t.failures = []} (hc : (c.history d env s w).outcome = .success a t sound) :
    (∀ {β : Type} (f : α → Act H.World (Flow H β)) e w',
      f a (c.history d env s w).world = (.error e, w') →
        (c.bind f).behaviour d env s w = ⟨(c.behaviour d env s w).events, .raised s e, w'⟩) ∧
    (∀ {β : Type} (f : α → Act H.World β) e w',
      f a (c.history d env s w).world = (.error e, w') →
        (c.map f).behaviour d env s w = ⟨(c.behaviour d env s w).events, .raised s e, w'⟩) ∧
    (∀ {β : Type} (f : α → Act H.World β) (g : List Failure → Act H.World (List Failure)) e w',
      f a (c.history d env s w).world = (.error e, w') →
        (c.bimap f g).behaviour d env s w = ⟨(c.behaviour d env s w).events, .raised s e, w'⟩) ∧
    (∀ {β : Type} (body : H.World → Body H β) e w', (body w).last d env s = .threw e w' →
      ((ofBody body).history d env s w).outcome = .raised ((body w).reached d env s) e ∧
        ((ofBody body).history d env s w).world = w') :=
  ⟨fun _ _ _ hf => behaviour_bind_throws hc hf, fun _ _ _ hf => behaviour_map_throws hc hf,
    fun _ _ _ _ hf => behaviour_bimap_throws hc hf, fun _ _ _ hlast => ofBody_threw hlast⟩

/-- A flow that sets the configuration and writes a line, before functions that throw and in a list
of steps that throws. -/
theorem raised_of_throwing_configured :
    let broken : Thrown := .fault ⟨"RuntimeError", "broken"⟩
    let t : Host.refusing.State :=
      (Host.refusingStart.withConfiguration [("shop", "books")]).withLine .info "placed"
    let c : Flow Host.refusing Unit := (initConfig [("shop", "books")]).andThen (info "placed")
    let body : Nat → Body Host.refusing Unit := fun w =>
      .handsOut c w (.ok ()) fun _ w' => .threw broken w'
    let after : History Host.refusing Unit :=
      ⟨(c.behaviour .blocking () Host.refusingStart (0 : Nat)).events,
        .raised Host.refusingStart broken, (0 : Nat)⟩
    (c.history .blocking () Host.refusingStart (0 : Nat)).outcome = .success () t rfl ∧
      (body (0 : Nat)).last .blocking () Host.refusingStart = .threw broken (0 : Nat) ∧
      (body (0 : Nat)).reached .blocking () Host.refusingStart = t ∧
      (c.bind fun _ => .throw broken).behaviour .blocking () Host.refusingStart (0 : Nat) = after ∧
      (c.map fun _ => .throw broken).behaviour .blocking () Host.refusingStart (0 : Nat) = after ∧
      (c.bimap (fun _ => .throw broken) .ok).behaviour .blocking () Host.refusingStart (0 : Nat) =
        after ∧
      ((ofBody body).history .blocking () Host.refusingStart (0 : Nat)).outcome =
        .raised ((body (0 : Nat)).reached .blocking () Host.refusingStart) broken := by
  intro broken t c body after
  have hc : (c.history .blocking () Host.refusingStart (0 : Nat)).outcome = .success () t rfl := by
    rw [history_eq]
    rfl
  have hlast : (body (0 : Nat)).last .blocking () Host.refusingStart = .threw broken (0 : Nat) :=
    rfl
  have hworld : (c.history .blocking () Host.refusingStart (0 : Nat)).world = (0 : Nat) := by
    rw [history_eq]
    rfl
  obtain ⟨hbind, hmap, hbimap, hbody⟩ := raised_of_throwing hc
  exact ⟨hc, hlast, rfl, hbind _ _ _ (congrArg (Act.throw broken) hworld),
    hmap _ _ _ (congrArg (Act.throw broken) hworld),
    hbimap _ _ _ _ (congrArg (Act.throw broken) hworld), (hbody _ _ _ hlast).1⟩

/-- The configuration is set and a line is published, then a function throws: the outcome is not the
failure of the state that was left before, and the run ends without the line and the configuration.
The same steps as a list keep both. -/
theorem raised_of_throwing_lost :
    let broken : Thrown := .fault ⟨"RuntimeError", "broken"⟩
    let t : Host.refusing.State :=
      (Host.refusingStart.withConfiguration [("shop", "books")]).withLine .info "placed"
    let c : Flow Host.refusing Unit := (initConfig [("shop", "books")]).andThen (info "placed")
    let thrown := (c.map fun _ => (.throw broken : Act Nat Unit)).history .blocking ()
      Host.refusingStart (0 : Nat)
    let listed := (ofBody fun w : Nat =>
      (.handsOut c w (.ok ()) fun _ w' => .threw broken w' : Body Host.refusing Unit)).history
        .blocking () Host.refusingStart (0 : Nat)
    (c.history .blocking () Host.refusingStart (0 : Nat)).outcome = .success () t rfl ∧
      thrown.published = [⟨.info, 0, "placed"⟩] ∧ thrown.outcome ≠ .raised t broken ∧
      thrown.outcome.state.log.lines = [] ∧ thrown.outcome.state.configuration = [] ∧
      listed.outcome = .raised t broken ∧ t.log.lines = ["INFO: placed"] ∧
      t.configuration = [("shop", "books")] := by
  intro broken t c thrown listed
  have hthrown : thrown = ((c.map fun _ => (.throw broken : Act Nat Unit)) () Host.refusingStart
      (0 : Nat)).history .blocking Host.refusingStart := history_eq ..
  have hc : (c.history .blocking () Host.refusingStart (0 : Nat)).outcome = .success () t rfl := by
    rw [history_eq]
    rfl
  have hpublished : thrown.published = [⟨.info, 0, "placed"⟩] := by
    rw [hthrown]
    rfl
  have hlines : thrown.outcome.state.log.lines = [] := by
    rw [hthrown]
    rfl
  have hconfiguration : thrown.outcome.state.configuration = [] := by
    rw [hthrown]
    rfl
  have hkept : t.log.lines = ["INFO: placed"] := rfl
  refine ⟨hc, hpublished, fun heq => ?_, hlines, hconfiguration, (ofBody_threw rfl).1, hkept, rfl⟩
  rw [heq] at hlines
  exact absurd (hkept.symm.trans hlines) (List.cons_ne_nil _ _)

end Flow

end Walkthrough
