import Walkthrough.Proofs.Behaviour.Raising
import Walkthrough.Proofs.Behaviour.Steps
import Walkthrough.Proofs.Resources.Release
import Walkthrough.Proofs.Run.Leads

/-!
# Bodies are closed

A body with a block at its end (`Body.alwaysThen`) is followed as the same body without it, and then
the block is run (`Program.Extends`): once, in the world in which the body has come to its end, was
closed behind a failure, or was closed where it handed out something that is not a flow. The step of
the body is left in the world behind the block, so whatever is run after it comes after the block
(`Launch.Closes`).

Wherever a body is followed in a run, all of this happens before its step is left. Bodies that are
followed by the flows of another one are therefore closed before it (`Flow.closes_of_entered`).
-/

namespace Walkthrough

variable {H : Host} {α β γ : Type}

/-- Code that never throws takes nothing from the code before it. -/
theorem Act.alwaysThen_of_calm {World : Type} {δ : Type _} {block : Act World Unit}
    (calm : block.Calm) (a : Act World δ) (w : World) :
    a.alwaysThen block w = ((a w).1, (block (a w).2).2) := by
  obtain ⟨u, w', hblock⟩ := calm (a w).2
  unfold Act.alwaysThen
  rw [hblock]

namespace Flow

/-- Closing a body shows nowhere. -/
theorem moments_closeWith (d : Driver H) (close : Act H.World Unit) (o : Outcome H α)
    (w : H.World) : (closeWith close o w).moments d = [] := by
  unfold closeWith
  split <;> rfl

theorem world_closeWith (d : Driver H) (close : Act H.World Unit) (o : Outcome H α) (w : H.World)
    (start : H.State) : ((closeWith close o w).history d start).world = (close w).2 := by
  unfold closeWith
  split
  next u w' hclose => rw [hclose]; rfl
  next e w' hclose => rw [hclose]; rfl

end Flow

/-! ## The block at the end -/

/-- The program does what another one does, and then runs a block. The block shows nowhere but in
the world that is left. -/
structure Program.Extends (d : Driver H) (block : Act H.World Unit) (p q : Program H α) : Prop where
  moments : p.moments d = q.moments d
  history : ∀ start, p.history d start =
    (q.history d start).withWorld (block (q.history d start).world).2

namespace Program.Extends

variable {d : Driver H} {block : Act H.World Unit}

theorem finish (o : Outcome H α) (w : H.World) :
    (Program.finish o (block w).2).Extends d block (.finish o w) := ⟨rfl, fun _ => rfl⟩

theorem raise (e : Thrown) (w : H.World) :
    (Program.raise e (block w).2 : Program H α).Extends d block (.raise e w) := ⟨rfl, fun _ => rfl⟩

/-- A step is run before the block. -/
theorem run {c : Flow H β} {env : H.Env} {s : H.State} {w : H.World}
    {next next' : Outcome H β → H.World → Program H α}
    (hnext : ∀ o w, (next o w).Extends d block (next' o w)) :
    (Program.run c env s w next).Extends d block (.run c env s w next') := by
  refine ⟨?_, fun start => ?_⟩
  · rw [moments_run, moments_run, (hnext _ _).moments]
  · rw [history_run, history_run, (hnext _ _).history start]
    rfl

theorem closeWith (calm : block.Calm) (close : Act H.World Unit) (o : Outcome H α) (w : H.World) :
    (Flow.closeWith (close.alwaysThen block) o w).Extends d block (Flow.closeWith close o w) := by
  unfold Flow.closeWith
  rw [Act.alwaysThen_of_calm calm]
  rcases close w with ⟨e | u, w'⟩
  · exact raise e w'
  · exact finish o w'

/-- However a body is left, its block is run at the end. -/
theorem followBody (calm : block.Calm) (env : H.Env) (b : Body H α) (s : H.State) :
    (Flow.followBody env (b.alwaysThen block) s).Extends d block (Flow.followBody env b s) := by
  induction b generalizing s with
  | returned a w =>
    rw [Body.alwaysThen, Act.alwaysThen_of_calm calm]
    exact finish _ w
  | threw e w =>
    rw [Body.alwaysThen, Act.alwaysThen_of_calm calm]
    exact finish _ w
  | strays shown w close => exact closeWith calm close _ w
  | handsOut c w close resume ih =>
    rw [Body.alwaysThen, Flow.followBody, Flow.followBody]
    refine run fun o w' => ?_
    -- the body goes on with the block at its end, or is closed with the block at the end of that
    cases o with
    | success b t _ => exact ih b w' t
    | faulted _ t h => exact closeWith calm close _ w'

end Program.Extends

/-! ## The last step of a body -/

namespace Body

variable {d : Driver H} {env : H.Env}

section

variable {s t : H.State} {c : Flow H β} {w : H.World}

theorem reached_of_success {b : β} {sound : t.failures = []}
    (hc : (c.history d env s w).outcome = .success b t sound) (close : Act H.World Unit)
    (resume : β → H.World → Body H α) :
    (handsOut c w close resume).reached d env s =
      (resume b (c.history d env s w).world).reached d env t := by
  rw [c.history_eq] at hc ⊢
  rw [reached, hc]

theorem reached_of_faulted {v : Option β} {unsound : t.failures ≠ []}
    (hc : (c.history d env s w).outcome = .faulted v t unsound) (close : Act H.World Unit)
    (resume : β → H.World → Body H α) : (handsOut c w close resume).reached d env s = s := by
  rw [c.history_eq] at hc
  rw [reached, hc]

end

/-- A body is followed up to the place where it stands when its flow ends. -/
theorem leads_last (d : Driver H) (env : H.Env) (b : Body H α) (s : H.State) :
    ∃ ms, (Flow.followBody env b s).Leads d ms
      (Flow.followBody env (b.last d env s) (b.reached d env s)) := by
  induction b generalizing s with
  | returned a w => exact ⟨[], .refl _⟩
  | threw e w => exact ⟨[], .refl _⟩
  | strays shown w close => exact ⟨[], .refl _⟩
  | handsOut c w close resume ih =>
    -- behind a success the body stands where what it does next stands, behind a failure here
    rcases ho : (c.history d env s w).outcome with ⟨b, t, sound⟩ | ⟨v, t, unsound⟩
    · obtain ⟨ms, hrest⟩ := ih b (c.history d env s w).world t
      rw [last_of_success ho, reached_of_success ho, Flow.followBody]
      refine ⟨c.trace d env s w ++ ms, .run_trans ?_⟩
      rw [ho]
      exact hrest
    · rw [last_of_faulted ho, reached_of_faulted ho]
      exact ⟨[], .refl _⟩

/-- A body that stands at a flow when its own flow ends stands there because that flow has
failed. -/
theorem faulted_of_last {b : Body H α} {s : H.State} {c : Flow H β} {v : H.World}
    {close : Act H.World Unit} {resume : β → H.World → Body H α}
    (hlast : b.last d env s = .handsOut c v close resume) :
    ∃ value? t unsound, (c.history d env (b.reached d env s) v).outcome =
      .faulted value? t unsound := by
  induction b generalizing s with
  | returned a w => cases hlast
  | threw e w => cases hlast
  | strays shown w close => cases hlast
  | handsOut c' w close' resume' ih =>
    rcases ho : (c'.history d env s w).outcome with ⟨b, t, sound⟩ | ⟨a, t, unsound⟩
    · rw [last_of_success ho] at hlast
      rw [reached_of_success ho]
      exact ih b _ hlast
    · rw [last_of_faulted ho] at hlast
      rw [reached_of_faulted ho]
      cases hlast
      exact ⟨a, t, unsound, ho⟩

/-- Behind a flow that fails nothing is done but to close the body: the flow is the last thing that
shows, and the world that is left is the one of the closing code. -/
theorem stops_at_last {b : Body H α} {s : H.State} {c : Flow H β} {v : H.World}
    {close : Act H.World Unit} {resume : β → H.World → Body H α}
    (hlast : b.last d env s = .handsOut c v close resume) (start : H.State) :
    let p := Flow.followBody env b s
    let step := c.history d env (b.reached d env s) v
    step.outcome.isFaulted = true ∧ (p.history d start).world = (close step.world).2 ∧
      ∃ before, p.moments d = before ++ c.trace d env (b.reached d env s) v := by
  intro p step
  obtain ⟨value?, t, unsound, ho⟩ := faulted_of_last hlast
  obtain ⟨ms, hleads⟩ := leads_last d env b s
  rw [hlast, Flow.followBody] at hleads
  -- from there the flow is run, and its failure is all that is left to end with
  have hclosed := hleads.trans (.run rfl)
  rw [ho] at hclosed
  refine ⟨congrArg Outcome.isFaulted ho, ?_, ms, ?_⟩
  · rw [hclosed.world start, Flow.world_closeWith]
  · rw [hclosed.moments, Flow.moments_closeWith, List.append_nil]

end Body

/-! ## Steps that follow a body -/

namespace Launch

/-- The step follows the body, whatever else its value is changed to. -/
def Follows (x : Launch H) (b : Body H β) : Prop :=
  ∃ c : Flow H β, c.Retyped x.flow ∧ c x.env x.state x.world = Flow.followBody x.env b x.state

theorem follows_ofBody (body : H.World → Body H β) (env : H.Env) (s : H.State) (w : H.World) :
    Launch.Follows ⟨Flow.ofBody body, env, s, w⟩ (body w) := ⟨_, .here, rfl⟩

/-- The flow of code follows the body that the code makes in this run. -/
theorem follows_ofRecipe {code : Act H.World (Recipe H β)} {body : H.World → Body H β}
    {w v : H.World} (hcode : code w = (.ok (.body body), v)) (env : H.Env) (s : H.State) :
    Launch.Follows ⟨Flow.ofRecipe code, env, s, w⟩ (body v) := by
  refine ⟨_, .here, ?_⟩
  show Flow.ofRecipe code env s w = _
  rw [Flow.ofRecipe, hcode]

/-- From where the step has been entered: what shows until it is left is what shows of the body
without the block, and it is left in the state in which the body ends. The block is then run in the
world that the body leaves, and whatever the step is run by goes on in the world behind the block.
When a flow of the body has failed, it is the last thing that shows, and nothing of the body is run
after it but what it does when it is closed. -/
def Closes (d : Driver H) (x : Launch H) (b : Body H β) (block : Act H.World Unit)
    (rest : List (Moment H)) : Prop :=
  let inside := (Flow.followBody x.env b x.state).moments d
  let bare := (Flow.followBody x.env b x.state).history d x.state
  let done := x.flow.history d x.env x.state x.world
  (∃ after, rest = inside ++ .left done.outcome :: after) ∧
    done.outcome.state = bare.outcome.state ∧ done.world = (block bare.world).2 ∧
    (∀ {α : Type} (next : Outcome H x.Value → H.World → Program H α),
      (Program.run x.flow x.env x.state x.world next).Leads d
        (x.flow.trace d x.env x.state x.world) (next done.outcome (block bare.world).2)) ∧
    ∀ {γ : Type} (c : Flow H γ) (v : H.World) (close : Act H.World Unit)
      (resume : γ → H.World → Body H β), b.last d x.env x.state = .handsOut c v close resume →
        let step := c.history d x.env (b.reached d x.env x.state) v
        step.outcome.isFaulted = true ∧ bare.world = (close step.world).2 ∧
          ∃ before, inside = before ++ c.trace d x.env (b.reached d x.env x.state) v

theorem closes_of_trace {d : Driver H} {x : Launch H} {b : Body H β} {block : Act H.World Unit}
    (calm : block.Calm) (hx : x.Follows (b.alwaysThen block)) {rest after : List (Moment H)}
    (hrest : .entered x :: rest = x.flow.trace d x.env x.state x.world ++ after) :
    x.Closes d b block rest := by
  obtain ⟨c, hretyped, hprogram⟩ := hx
  have hextends : (c x.env x.state x.world).Extends d block
      (Flow.followBody x.env b x.state) :=
    hprogram ▸ .followBody calm x.env b x.state
  -- all of this is said of the flow whose value has not been changed
  have hhistory := c.history_eq d x.env x.state x.world ▸ hextends.history x.state
  have hworld : (x.flow.history d x.env x.state x.world).world = _ :=
    (hretyped.world d x.env x.state x.world).trans (congrArg History.world hhistory)
  refine ⟨⟨after, ?_⟩, ?_, hworld, fun next => .run ?_, fun c v close resume hlast => ?_⟩
  · rw [(List.cons.inj hrest).2, hretyped.moments, hextends.moments]
    exact List.append_assoc _ [_] after
  · rw [hretyped.state, hhistory]
    rfl
  · rw [hworld]
    rfl
  · exact Body.stops_at_last hlast x.state

end Launch

namespace Flow

/-- Each time that a body with a block at its end is followed in a run, at any depth, the block is
run once, after the last flow of the body has ended and before anything that comes after the step,
however the body is left. A body that is followed by one of its flows is closed before that, and so
before the block of the outer body is run. -/
theorem closes_of_entered (c : Flow H α) (d : Driver H) (env : H.Env) (s : H.State) (w : H.World)
    {b : Body H β} {block : Act H.World Unit} (calm : block.Calm) {before : List (Moment H)}
    {x : Launch H} (hx : x.Follows (b.alwaysThen block)) {rest : List (Moment H)}
    (htrace : c.trace d env s w = before ++ .entered x :: rest) :
    x.Closes d b block rest ∧
      ∀ {γ : Type} (b' : Body H γ) (block' : Act H.World Unit) (before' : List (Moment H))
        (y : Launch H) (rest' : List (Moment H)), block'.Calm → y.Follows (b'.alwaysThen block') →
          (followBody x.env b x.state).moments d = before' ++ .entered y :: rest' →
            y.Closes d b' block' rest' := by
  obtain ⟨after, hafter⟩ := closed_trace c d env s w before x rest htrace
  refine ⟨Launch.closes_of_trace calm hx hafter, ?_⟩
  intro γ b' block' before' y rest' calm' hy hinside
  -- what the body does is a program like any other, so what is entered in it is left in it
  obtain ⟨after', hafter'⟩ := Program.closed_moments d _ before' y rest' hinside
  exact Launch.closes_of_trace calm' hy hafter'

/-- A body whose only flow fails, as the first flow of another body in a scope, each with a block
that leaves a digit: the block of the inner body is run first, and each of them once. -/
theorem closes_of_entered_nested :
    let note : Nat → Act Nat Unit := fun n w => (.ok (), 10 * w + n)
    let broken : Failure := .single .assertion "broken" [] none
    let inside : Nat → Body Host.refusing Unit := fun w =>
      .handsOut (failure broken [] : Flow Host.refusing Unit) w (.ok ()) fun _ w' => .returned () w'
    let inner : Flow Host.refusing Unit := ofBody fun w => (inside w).alwaysThen (note 1)
    let around : Nat → Body Host.refusing Unit := fun w =>
      .handsOut inner w (.ok ()) fun _ w' =>
        .handsOut unit w' (.ok ()) fun _ w'' => .returned () w''
    let outer : Flow Host.refusing Unit :=
      ofRecipe (.ok (.body fun w => (around w).alwaysThen (note 2)))
    let c : Flow Host.refusing Unit := context "shop" outer
    let x : Launch Host.refusing := ⟨outer, (), Host.refusingStart.enter "shop", (0 : Nat)⟩
    let y : Launch Host.refusing := ⟨inner, (), Host.refusingStart.enter "shop", (0 : Nat)⟩
    (∀ n, (note n).Calm) ∧ x.Follows ((around 0).alwaysThen (note 2)) ∧
      y.Follows ((inside 0).alwaysThen (note 1)) ∧
      ∃ before rest rest', c.trace .blocking () Host.refusingStart (0 : Nat) =
          before ++ .entered x :: rest ∧
        (followBody x.env (around 0) x.state).moments .blocking = [] ++ .entered y :: rest' ∧
        x.Closes .blocking (around 0) (note 2) rest ∧
        y.Closes .blocking (inside 0) (note 1) rest' ∧
        (c.history .blocking () Host.refusingStart (0 : Nat)).world = (12 : Nat) := by
  intro note broken inside inner around outer c x y
  have hcalm : ∀ n, (note n).Calm := fun n w => ⟨(), 10 * w + n, rfl⟩
  have hx : x.Follows ((around 0).alwaysThen (note 2)) := Launch.follows_ofRecipe rfl _ _
  have hy : y.Follows ((inside 0).alwaysThen (note 1)) := Launch.follows_ofBody _ _ _ _
  have hc : c.trace .blocking () Host.refusingStart (0 : Nat) =
      [.entered ⟨c, (), Host.refusingStart, (0 : Nat)⟩, _, _] ++ .entered x :: _ := rfl
  obtain ⟨rest', hinside⟩ : ∃ rest', (followBody x.env (around 0) x.state).moments .blocking =
      [] ++ .entered y :: rest' := by
    simp only [around, followBody]
    exact ⟨_, rfl⟩
  obtain ⟨houter, hnested⟩ :=
    closes_of_entered c .blocking () Host.refusingStart (0 : Nat) (hcalm 2) hx hc
  have hworld : (c.history .blocking () Host.refusingStart (0 : Nat)).world = (12 : Nat) := by
    rw [history_eq]
    dsimp only [c, outer, inner, around, inside, broken, note]
    decide +kernel
  exact ⟨hcalm, hx, hy, _, _, rest', hc, hinside, houter,
    hnested _ _ [] y rest' (hcalm 1) hy hinside, hworld⟩

end Flow

end Walkthrough
