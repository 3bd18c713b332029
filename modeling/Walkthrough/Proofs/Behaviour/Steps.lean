import Walkthrough.Proofs.Behaviour.Bind
import Walkthrough.Proofs.Faults.Recording

/-!
# A list of steps is a chain

Flows that follow each other can be handed out by a body, or bound one to the next. The chain of a
body (`Body.chain`) is the second way to write the first one: the parentheses stand to the right,
what the body does between two flows is the function between them, and the value that it returns is
put into `pure` at the end.

A body is followed in one step, which keeps the state that the last flow has left, where a chain
takes a step for each flow. `Flow.ofBody_behaves_as_chain` says that this makes no difference unless
the body throws (see `Walkthrough.Proofs.Behaviour.Raising` for what differs then): the outcome and
the events outside are the same, wherever the first failure comes. Only a body can be closed, so
what a chain leaves behind after a failure is the world before the closing code.
-/

namespace Walkthrough

variable {H : Host} {α β : Type}

namespace Body

/-- The chain of the flows that the body hands out, made in the world in which the body stands.
Something that is not a flow is in its place the failure that says so. -/
def chain : Body H α → Except Thrown (Flow H α) × H.World
  | .returned a w => (.ok (.pure a), w)
  | .threw e w => (.error e, w)
  | .handsOut c w _ resume => (.ok (c.bind fun b w' => (resume b w').chain), w)
  | .strays shown w _ =>
    (.ok (.failure
      (.ofMessage .capability ("flow yielded " ++ shown ++ ", expected a computation")) []), w)

/-- The rest of the chain, made from the value of the flow before it. -/
def restOfChain (resume : β → H.World → Body H α) (b : β) : Act H.World (Flow H α) := fun w =>
  (resume b w).chain

theorem chain_handsOut (c : Flow H β) (w : H.World) (close : Act H.World Unit)
    (resume : β → H.World → Body H α) :
    (handsOut c w close resume).chain = (.ok (c.bind (restOfChain resume)), w) := rfl

/-- What the body does when it is closed where it stands. A body that has returned or thrown is not
closed any more. -/
def closing : Body H α → Act H.World Unit
  | .returned _ _ => .ok ()
  | .threw _ _ => .ok ()
  | .handsOut _ _ close _ => close
  | .strays _ _ close => close

section

variable {d : Driver H} {env : H.Env} {s t : H.State} {c : Flow H β} {w : H.World}

/-- Behind a flow that ends well the body goes on. -/
theorem last_of_success {b : β} {sound : t.failures = []}
    (hc : (c.history d env s w).outcome = .success b t sound) (close : Act H.World Unit)
    (resume : β → H.World → Body H α) :
    (handsOut c w close resume).last d env s =
      (resume b (c.history d env s w).world).last d env t := by
  rw [c.history_eq] at hc ⊢
  rw [last, hc]

/-- A flow that fails is the last one that the body hands out. -/
theorem last_of_faulted {v : Option β} {unsound : t.failures ≠ []}
    (hc : (c.history d env s w).outcome = .faulted v t unsound) (close : Act H.World Unit)
    (resume : β → H.World → Body H α) :
    (handsOut c w close resume).last d env s = .handsOut c w close resume := by
  rw [c.history_eq] at hc
  rw [last, hc]

end

end Body

namespace Flow

variable {d : Driver H} {env : H.Env} {s : H.State}

theorem outward_closeWith {close : Act H.World Unit} (calm : close.Calm) (o : Outcome H α)
    (w : H.World) (start : H.State) :
    ((closeWith close o w).history d start).outward = .atOnce o (close w).2 := by
  obtain ⟨u, w', hclose⟩ := calm w
  rw [closeWith, hclose]
  rfl

/-- Following a body is running its chain, and closing the body where it stands at the end. -/
theorem outward_followBody {b : Body H α} (hclosing : (b.last d env s).closing.Calm)
    (hlast : ∀ e w, b.last d env s ≠ .threw e w) (start : H.State) :
    ∃ c w, b.chain = (.ok c, w) ∧
      ((followBody env b s).history d start).outward =
        (c.behaviour d env s w).withWorld
          ((b.last d env s).closing (c.behaviour d env s w).world).2 := by
  induction b generalizing s with
  | returned a w => exact ⟨pure a, w, rfl, by rw [behaviour_pure]; rfl⟩
  | threw e w => exact absurd rfl (hlast e w)
  | strays shown w close =>
    refine ⟨_, w, rfl, ?_⟩
    have calm : close.Calm := hclosing
    rw [followBody, outward_closeWith calm, behaviour_eq]
    rfl
  | handsOut c w close resume ih =>
    refine ⟨_, w, Body.chain_handsOut c w close resume, ?_⟩
    rw [followBody, Program.outward_run, behaviour_bind]
    -- the chain goes on as the body does, or both end with the failure of this flow
    rcases ho : (c.history d env s w).outcome with ⟨b, t, sound⟩ | ⟨v, t, unsound⟩
    · rw [Body.last_of_success ho] at hclosing hlast ⊢
      obtain ⟨c', w', hchain, hrest⟩ := ih b _ hclosing hlast
      have hchain : Body.restOfChain resume b (c.behaviour d env s w).world = (.ok c', w') := hchain
      rw [History.onSuccess_of_success (h := c.behaviour d env s w) ho,
        behaviourMade_of_ok d env hchain, History.after_withWorld, History.world_after]
      unfold History.andThen
      rw [behaviour, History.outcome_outward, ho]
      exact congrArg (History.after · _) hrest
    · rw [Body.last_of_faulted ho] at hclosing ⊢
      have calm : close.Calm := hclosing
      unfold History.onSuccess History.andThen
      rw [behaviour, History.outcome_outward, ho]
      exact congrArg (History.after · _) (outward_closeWith calm _ _ start)

/-- A list of steps behaves as the chain of its flows. Unless the body throws in this run, between
its flows or when it is closed, it makes a chain, and the outcome of following the body (its value,
its failures and its state) and the events outside are those of the chain. The world that is left is
the same, except that a body that waits for a flow that has failed is closed in it. -/
theorem ofBody_behaves_as_chain {body : H.World → Body H α} {w : H.World}
    (hclosing : ((body w).last d env s).closing.Calm)
    (hlast : ∀ e v, (body w).last d env s ≠ .threw e v) :
    ∃ c v, (body w).chain = (.ok c, v) ∧
      let followed := (ofBody body).behaviour d env s w
      let chained := c.behaviour d env s v
      followed.outcome = chained.outcome ∧ followed.events = chained.events ∧
        followed.world = (((body w).last d env s).closing chained.world).2 := by
  obtain ⟨c, v, hchain, hfollowed⟩ := outward_followBody hclosing hlast s
  refine ⟨c, v, hchain, ?_⟩
  rw [behaviour_eq, ofBody, hfollowed]
  exact ⟨rfl, rfl, rfl⟩

/-- Two calls that count, a flow that depends on what both have given and fails, and code that is
run when the body is closed: the chain stops at the same place, without that code. -/
theorem ofBody_behaves_as_chain_counting :
    let count : Flow Host.refusing Nat := lift fun w => (.ok (.value w), w + 1)
    let broken : Failure := .single .assertion "broken" [] none
    let close : Act Nat Unit := fun w => (.ok (), w + 10)
    let body : Nat → Body Host.refusing Nat := fun w =>
      .handsOut count w close fun a w =>
        .handsOut count w close fun b w =>
          .handsOut (bif a == b then info "same" else failure broken []) w close
            fun (_ : Unit) w => .returned (a + b) w
    let followed := (ofBody body).behaviour .blocking () Host.refusingStart (0 : Nat)
    ((body 0).last .blocking () Host.refusingStart).closing.Calm ∧
      (∀ e v, (body 0).last .blocking () Host.refusingStart ≠ .threw e v) ∧
      ∃ c v, (body 0).chain = (.ok c, v) ∧
        let chained := c.behaviour .blocking () Host.refusingStart v
        followed.outcome = chained.outcome ∧ followed.events = chained.events ∧
          followed.world = chained.world + 10 ∧ followed.outcome.failures = [broken] ∧
          followed.events.length = 2 := by
  intro count broken close body followed
  have hclosing : ((body 0).last .blocking () Host.refusingStart).closing.Calm :=
    fun w => ⟨(), w + 10, rfl⟩
  have hlast : ∀ e v, (body 0).last .blocking () Host.refusingStart ≠ .threw e v := by
    intro e v h
    cases h
  obtain ⟨c, v, hchain, houtcome, hevents, hworld⟩ := ofBody_behaves_as_chain hclosing hlast
  obtain ⟨hfailures, hlength⟩ :
      followed.outcome.failures = [broken] ∧ followed.events.length = 2 := by
    show ((ofBody body).behaviour .blocking () Host.refusingStart (0 : Nat)).outcome.failures = _ ∧
      ((ofBody body).behaviour .blocking () Host.refusingStart (0 : Nat)).events.length = _
    rw [behaviour_eq, ofBody]
    simp only [body, followBody]
    exact ⟨rfl, rfl⟩
  exact ⟨hclosing, hlast, c, v, hchain, houtcome, hevents, hworld, hfailures, hlength⟩

end Flow

end Walkthrough
