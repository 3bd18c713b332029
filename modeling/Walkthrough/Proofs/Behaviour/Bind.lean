import Walkthrough.Flow.Batch
import Walkthrough.Proofs.Behaviour.Basic
import Walkthrough.Proofs.Run.Keeps
import Walkthrough.Proofs.Run.Law

/-!
# The laws of `bind`

Up to what is seen from outside, `pure` is a left identity of `bind`, and `bind` is associative when
the function of the outer one does not throw: a step that throws is faulted in the state that it was
started from, and the two sides start it from different states. `pure` is a right identity up to the
value that a faulted outcome can carry, which `bind` drops.

A `Chain` is a number of flows that are run one after the other, with any parentheses. By
associativity only the flows and their order count (`Chain.behavesAs_nest`).
-/

namespace Walkthrough

variable {H : Host} {α β γ : Type}

/-! ## Identities and associativity -/

namespace Flow

variable (d : Driver H) (env : H.Env)

/-- Where the step of outside code that does not throw was started from does not matter. -/
theorem behaviourMade_of_ok {made : Except Thrown (Flow H α) × H.World} {c : Flow H α} {w : H.World}
    (hmade : made = (.ok c, w)) (s start : H.State) :
    behaviourMade d env s made start = c.behaviour d env s w := by
  rw [hmade]
  rfl

/-- To go on from the value of a flow that outside code makes is to run the flow bound to what
follows. -/
theorem behaviourMade_onSuccess (made : Act H.World (Flow H β)) {g : β → Act H.World (Flow H γ)}
    (calm : ∀ b, (g b).Calm) (t : H.State) (w : H.World) (start : H.State) :
    ((behaviourMade d env t (made w) start).onSuccess fun b u v =>
        behaviourMade d env u (g b v) start) =
      behaviourMade d env t (made.map (fun c => c.bind g) w) start := by
  unfold Act.map Act.andThen
  rcases made w with ⟨e | c, w'⟩
  · rfl
  · show (c.behaviour d env t w').onSuccess _ = (c.bind g).behaviour d env t w'
    rw [behaviour_bind]
    refine congrArg (History.onSuccess _) (funext fun b => funext fun u => funext fun v => ?_)
    -- only code that throws could tell the two starting states apart
    obtain ⟨c', v', hmade⟩ := calm b v
    rw [behaviourMade_of_ok d env hmade, behaviourMade_of_ok d env hmade]

/-- The two ways to put `bind` in parentheses behave alike where the inner function does not throw,
since its exception would be a fault of another state. -/
theorem bind_bind_behavesAs (m : Flow H α) (f : α → Act H.World (Flow H β))
    {g : β → Act H.World (Flow H γ)} (calm : ∀ b, (g b).Calm) :
    ((m.bind f).bind g).BehavesAs (m.bind fun a => (f a).map fun c => c.bind g) := by
  intro d env s w
  rw [behaviour_bind, behaviour_bind, behaviour_bind, History.onSuccess_assoc]
  refine congrArg (History.onSuccess _) (funext fun a => funext fun t => funext fun v => ?_)
  exact behaviourMade_onSuccess d env (f a) calm t v s

/-- A value and then a flow is the flow that is made from the value. -/
theorem pure_bind_behaviour {x : α} {f : α → Act H.World (Flow H β)} {s : H.State}
    {w w' : H.World} {c : Flow H β} (hs : s.failures = []) (hf : f x w = (.ok c, w')) :
    ((pure x).bind f).behaviour d env s w = c.behaviour d env s w' := by
  rw [behaviour_bind, behaviour_pure, History.atOnce_onSuccess hs, behaviourMade_of_ok d env hf]

/-- A flow and then its value is the flow, but a failure loses the value that it may carry. -/
theorem bind_pure_behaviour (m : Flow H α) (s : H.State) (w : H.World) :
    (m.bind fun a => .ok (pure a)).behaviour d env s w =
      (m.behaviour d env s w).dropFaultedValue := by
  rw [behaviour_bind, ← History.onSuccess_of]
  refine congrArg (History.onSuccess _) (funext fun a => funext fun t => funext fun v => ?_)
  exact behaviour_pure d env t v a

/-! ## Sequences -/

/-- Without functions in between there is nothing to throw, so sequences may be put in parentheses
in either way. -/
theorem andThen_assoc_behavesAs (c : Flow H α) (c' : Flow H β) (c'' : Flow H γ) :
    ((c.andThen c').andThen c'').BehavesAs (c.andThen (c'.andThen c'')) := by
  intro d env s w
  simp only [behaviour_andThen, History.onSuccess_assoc]

namespace BehavesAs

/-- What comes second may be replaced by what behaves alike. -/
theorem andThen_right (c : Flow H α) {next next' : Flow H β} (h : next.BehavesAs next') :
    (c.andThen next).BehavesAs (c.andThen next') := by
  intro d env s w
  rw [behaviour_andThen, behaviour_andThen]
  refine congrArg (History.onSuccess _) (funext fun a => funext fun t => funext fun v => ?_)
  exact h d env t v

end BehavesAs

/-- Runs flows in their order before the last one, with the parentheses to the right. -/
def nest (cs : List (Σ β : Type, Flow H β)) (last : Flow H α) : Flow H α :=
  cs.foldr (fun c next => c.2.andThen next) last

/-- Two lists of flows in front of a last one, nested one after the other. -/
theorem nest_append (cs ds : List (Σ β : Type, Flow H β)) (last : Flow H α) :
    nest (cs ++ ds) last = nest cs (nest ds last) :=
  List.foldr_append

/-- The last flow may be replaced by one that behaves alike. -/
theorem BehavesAs.nest (cs : List (Σ β : Type, Flow H β)) {last last' : Flow H α}
    (h : last.BehavesAs last') : (nest cs last).BehavesAs (nest cs last') := by
  induction cs with
  | nil => exact h
  | cons c cs ih => exact andThen_right c.2 ih

end Flow

/-! ## Chains -/

/-- Flows that are run one after the other, with parentheses. The last one gives the value. -/
inductive Chain (H : Host) : Type → Type 1 where
  | step {α : Type} (c : Flow H α) : Chain H α
  | andThen {α β : Type} (left : Chain H α) (right : Chain H β) : Chain H β

namespace Chain

/-- The flow that runs a chain as its parentheses say. -/
def flow {α : Type} : Chain H α → Flow H α
  | step c => c
  | andThen left right => left.flow.andThen right.flow

/-- The last flow of a chain. -/
def last {α : Type} : Chain H α → Flow H α
  | step c => c
  | andThen _ right => right.last

/-- The flows of a chain before the last one, in their order. -/
def init {α : Type} : Chain H α → List (Σ β : Type, Flow H β)
  | step _ => []
  | andThen left right => left.init ++ ⟨_, left.last⟩ :: right.init

/-- Two chains that are run one after the other are opened from the left. -/
theorem nest_init (left : Chain H α) (right : Chain H β) (next : Flow H γ) :
    Flow.nest (left.andThen right).init next =
      Flow.nest left.init (left.last.andThen (Flow.nest right.init next)) :=
  Flow.nest_append _ _ _

/-- A chain and then a flow is the flows of the chain with that flow behind them, whatever the
parentheses. -/
theorem andThen_behavesAs_nest (x : Chain H α) (next : Flow H β) :
    (x.flow.andThen next).BehavesAs (Flow.nest x.init (x.last.andThen next)) := by
  induction x generalizing β with
  | step c => exact .refl _
  | andThen left right ihLeft ihRight =>
    -- what follows the chain goes behind its second part, then both parts are opened
    have hassoc : ((left.flow.andThen right.flow).andThen next).BehavesAs
        (left.flow.andThen (right.flow.andThen next)) :=
      Flow.andThen_assoc_behavesAs _ _ _
    have hright : (Flow.nest left.init (left.last.andThen (right.flow.andThen next))).BehavesAs
        (Flow.nest left.init
          (left.last.andThen (Flow.nest right.init (right.last.andThen next)))) :=
      .nest _ (.andThen_right _ (ihRight next))
    rw [nest_init]
    exact hassoc.trans ((ihLeft _).trans hright)

/-- What a chain does is said by its flows and their order. -/
theorem behavesAs_nest (x : Chain H α) : x.flow.BehavesAs (Flow.nest x.init x.last) := by
  induction x with
  | step c => exact .refl _
  | andThen left right ihLeft ihRight =>
    have hright : (Flow.nest left.init (left.last.andThen right.flow)).BehavesAs
        (Flow.nest left.init (left.last.andThen (Flow.nest right.init right.last))) :=
      .nest _ (.andThen_right _ ihRight)
    rw [nest_init]
    exact (andThen_behavesAs_nest left right.flow).trans hright

end Chain

namespace Flow

/-- Up to what is seen from outside, flows are a monad: `pure` is an identity on the left, and on
the right but for the value that a faulted outcome can carry, `bind` is associative, and the
parentheses of a sequence of flows do not count. -/
theorem bind_lawful (H : Host) :
    (∀ {α β : Type} (x : α) (f : α → Act H.World (Flow H β)) (d : Driver H) (env : H.Env)
      (s : H.State) (w w' : H.World) (c : Flow H β), s.failures = [] → f x w = (.ok c, w') →
        ((pure x).bind f).behaviour d env s w = c.behaviour d env s w') ∧
    (∀ {α β γ : Type} (m : Flow H α) (f : α → Act H.World (Flow H β))
      (g : β → Act H.World (Flow H γ)), (∀ b, (g b).Calm) →
        ((m.bind f).bind g).BehavesAs (m.bind fun a => (f a).map fun c => c.bind g)) ∧
    (∀ {α : Type} (m : Flow H α) (d : Driver H) (env : H.Env) (s : H.State) (w : H.World),
      (m.bind fun a => .ok (pure a)).behaviour d env s w =
        (m.behaviour d env s w).dropFaultedValue) ∧
    (∀ {α : Type} (x y : Chain H α), x.init = y.init → x.last = y.last →
      x.flow.BehavesAs y.flow) := by
  refine ⟨fun x f d env s w w' c hs hf => pure_bind_behaviour d env hs hf,
    fun m f g calm => bind_bind_behavesAs m f calm,
    fun m d env s w => bind_pure_behaviour d env m s w, fun x y hinit hlast => ?_⟩
  have hx := x.behavesAs_nest
  rw [hinit, hlast] at hx
  exact hx.trans y.behavesAs_nest.symm

/-- A batch whose second item fails ends faulted and with a value, which binding it to `pure` drops;
the function of the outer `bind` writes a line; three flows stand in a sequence. -/
theorem bind_lawful_batch :
    let broken : Failure := .single .assertion "broken" [] none
    let m : Flow Host.refusing (List (Option Unit)) := collect [info "seen", failure broken []]
    let tell : String → Act Nat (Flow Host.refusing Unit) := fun line => .ok (info line)
    let x : Chain Host.refusing Unit :=
      .andThen (.andThen (.step (info "one")) (.step m)) (.step (info "two"))
    let y : Chain Host.refusing Unit :=
      .andThen (.step (info "one")) (.andThen (.step m) (.step (info "two")))
    (m.behaviour .blocking () Host.refusingStart (0 : Nat)).outcome.value? = some [some (), none] ∧
      Host.refusingStart.failures = [] ∧ tell "done" (0 : Nat) = (.ok (info "done"), 0) ∧
      (∀ line, (tell line).Calm) ∧ x.init = y.init ∧ x.last = y.last ∧
      ((pure "done").bind tell).behaviour .blocking () Host.refusingStart (0 : Nat) =
        (info "done").behaviour .blocking () Host.refusingStart (0 : Nat) ∧
      ((m.bind fun _ => .ok (pure "done")).bind tell).BehavesAs
        (m.bind fun _ => (Act.ok (pure "done")).map fun c => c.bind tell) ∧
      (m.bind fun values => .ok (pure values)).behaviour .blocking () Host.refusingStart (0 : Nat) =
        (m.behaviour .blocking () Host.refusingStart (0 : Nat)).dropFaultedValue ∧
      x.flow.BehavesAs y.flow := by
  intro broken m tell x y
  have hvalue : (m.behaviour .blocking () Host.refusingStart (0 : Nat)).outcome.value? =
      some [some (), none] := by
    rw [behaviour_eq]
    rfl
  have hmade : tell "done" (0 : Nat) = (.ok (info "done"), 0) := rfl
  have calm : ∀ line, (tell line).Calm := fun line w => ⟨info line, w, rfl⟩
  obtain ⟨hleft, hassoc, hright, hchain⟩ := bind_lawful Host.refusing
  exact ⟨hvalue, rfl, hmade, calm, rfl, rfl, hleft _ _ _ _ _ _ _ _ rfl hmade,
    hassoc _ _ _ calm, hright _ _ _ _ _, hchain x y rfl rfl⟩

end Flow

end Walkthrough
