import Walkthrough.Flow.Dialogue

/-!
# Running a flow on a stack of frames

A long chain of steps nests deeply, so a run does not recurse into the steps that a step runs. It
keeps the steps under way on a stack: a `Configuration` is the program of the innermost step, the
state that this step was started from, and the frames of the steps that wait for it. `advance` does
one move.

Every continuation of a program is a part of it, so moves cannot go on forever
(`Configuration.wellFounded_follows`), and `Configuration.dialogue` goes on until the run ends.

Mirroring notes:
- `Stack` is the stack of `_Frames`: each frame keeps a step and the state that it was started from.
  `advance` is one turn of the loop in `resume`, `Stack.reply` is what `resume` sends to the frame
  below, and entering a step is `_push` with `_start`.
- `interpret` and `interpretAsync` run the dialogue that the stack holds, and not the one of
  `Program.meaning`.
-/

namespace Walkthrough

/-- The steps that wait for the outcome of type `α`, innermost first, in a run that ends with an
outcome of type `ω`. Each frame keeps how its step goes on and the state it was started from. -/
inductive Stack (H : Host) (ω : Type) : Type → Type 1 where
  | done : Stack H ω ω
  | frame {α β : Type} (next : Outcome H β → H.World → Program H α) (start : H.State)
      (rest : Stack H ω α) : Stack H ω β

/-- A run between two moves. -/
structure Configuration (H : Host) (ω : Type) where
  {α : Type}
  program : Program H α
  start : H.State
  stack : Stack H ω α

/-- What one move leads to. -/
inductive Move (H : Host) (ω : Type) : Type 1 where
  | ended (outcome : Outcome H ω) (world : H.World)
  | goOn (c : Configuration H ω)
  | sleep (seconds : Rat) (world : H.World)
      (next : Except Thrown Unit → H.World → Configuration H ω)
  | await {β : Type} (code : Act H.World β) (world : H.World)
      (next : Except Thrown β → H.World → Configuration H ω)

variable {H : Host} {ω : Type}

/-- Hands an outcome to the innermost frame, or ends the run. -/
def Stack.reply {α : Type} (o : Outcome H α) (w : H.World) : Stack H ω α → Move H ω
  | done => .ended o w
  | frame next start rest => .goOn ⟨next o w, start, rest⟩

namespace Configuration

/-- One move of a run. -/
def advance : Configuration H ω → Move H ω
  | ⟨.finish o w, _, stack⟩ => stack.reply o w
  | ⟨.raise e w, start, stack⟩ => stack.reply (.raised start e) w
  | ⟨.run step env s w next, start, stack⟩ => .goOn ⟨step env s w, s, .frame next start stack⟩
  | ⟨.effect e w next, start, stack⟩ =>
    let answer := H.perform e w
    .goOn ⟨next answer.1 answer.2, start, stack⟩
  | ⟨.sleep t w next, start, stack⟩ => .sleep t w fun r w => ⟨next r w, start, stack⟩
  | ⟨.await code w next, start, stack⟩ => .await code w fun r w => ⟨next r w, start, stack⟩
  | ⟨.unsupported shown w, start, stack⟩ =>
    stack.reply (.raised start (.fault (.unsupportedRequest shown))) w

/-- `c'` may come right after `c`. -/
inductive Follows : Configuration H ω → Configuration H ω → Prop where
  | goOn {c c' : Configuration H ω} (h : c.advance = .goOn c') : Follows c' c
  | sleep {c : Configuration H ω} {t : Rat} {w : H.World}
      {next : Except Thrown Unit → H.World → Configuration H ω} (h : c.advance = .sleep t w next)
      (r : Except Thrown Unit) (w' : H.World) : Follows (next r w') c
  | await {c : Configuration H ω} {β : Type} {code : Act H.World β} {w : H.World}
      {next : Except Thrown β → H.World → Configuration H ω} (h : c.advance = .await code w next)
      (r : Except Thrown β) (w' : H.World) : Follows (next r w') c

/-- A stack is fair when a run cannot go on forever from any outcome handed to it. -/
def Fair {α : Type} (stack : Stack H ω α) : Prop :=
  ∀ o w c, stack.reply o w = .goOn c → Acc Follows c

/-- Above a fair stack, a run cannot go on forever. -/
theorem acc_of_fair {α : Type} (p : Program H α) (start : H.State) (stack : Stack H ω α)
    (fair : Fair stack) : Acc Follows (⟨p, start, stack⟩ : Configuration H ω) := by
  have reply_acc : ∀ {γ : Type} (q : Configuration H ω) (st : Stack H ω γ) (o : Outcome H γ)
      (w : H.World), Fair st → q.advance = st.reply o w → Acc Follows q := by
    intro γ q st o w hst hq
    refine ⟨_, fun c' h => ?_⟩
    cases h with
    | goOn h => exact hst o w c' (hq.symm.trans h)
    | sleep h => rw [hq] at h; cases st <;> simp [Stack.reply] at h
    | await h => rw [hq] at h; cases st <;> simp [Stack.reply] at h
  induction p generalizing start with
  | finish o w => exact reply_acc _ stack o w fair rfl
  | raise e w => exact reply_acc _ stack _ w fair rfl
  | unsupported shown w => exact reply_acc _ stack _ w fair rfl
  | run step env s w next ihStep ihNext =>
    refine ⟨_, fun c' h => ?_⟩
    cases h with
    | goOn h =>
      simp only [advance, Move.goOn.injEq] at h
      subst h
      refine ihStep env s w s _ fun o w c h => ?_
      simp only [Stack.reply, Move.goOn.injEq] at h
      subst h
      exact ihNext o w start stack fair
    | sleep h => simp [advance] at h
    | await h => simp [advance] at h
  | effect e w next ih =>
    refine ⟨_, fun c' h => ?_⟩
    cases h with
    | goOn h =>
      simp only [advance, Move.goOn.injEq] at h
      subst h
      exact ih _ _ start stack fair
    | sleep h => simp [advance] at h
    | await h => simp [advance] at h
  | sleep t w next ih =>
    refine ⟨_, fun c' h => ?_⟩
    cases h with
    | goOn h => simp [advance] at h
    | sleep h r w' =>
      simp only [advance, Move.sleep.injEq] at h
      obtain ⟨_, _, rfl⟩ := h
      exact ih r w' start stack fair
    | await h => simp [advance] at h
  | await code w next ih =>
    refine ⟨_, fun c' h => ?_⟩
    cases h with
    | goOn h => simp [advance] at h
    | sleep h => simp [advance] at h
    | await h r w' =>
      simp only [advance, Move.await.injEq] at h
      obtain ⟨rfl, h₁, _, h₂⟩ := h
      cases h₁
      cases h₂
      exact ih r w' start stack fair

/-- Every stack is fair. -/
theorem fair {α : Type} (stack : Stack H ω α) : Fair stack := by
  induction stack with
  | done => intro o w c h; simp [Stack.reply] at h
  | frame next start rest ih =>
    intro o w c h
    simp only [Stack.reply, Move.goOn.injEq] at h
    subst h
    exact acc_of_fair _ _ _ ih

/-- A run cannot go on forever. -/
theorem wellFounded_follows : WellFounded (@Follows H ω) :=
  ⟨fun c => acc_of_fair c.program c.start c.stack (fair c.stack)⟩

instance : WellFoundedRelation (Configuration H ω) := ⟨Follows, wellFounded_follows⟩

/-- The dialogue that a run holds from here on. -/
def dialogue (c : Configuration H ω) : Dialogue H ω :=
  match _h : c.advance with
  | .ended o w => .finished o w
  | .goOn c' => c'.dialogue
  | .sleep t w next => .sleep t w fun r w' => (next r w').dialogue
  | .await code w next => .await code w fun r w' => (next r w').dialogue
termination_by c
decreasing_by
  · exact .goOn _h
  · exact .sleep _h r w'
  · exact .await _h r w'

end Configuration

/-- The dialogue that a flow holds when it is run on a stack of frames. -/
def Flow.frames {α : Type} (c : Flow H α) (env : H.Env) (s : H.State) (w : H.World) :
    Dialogue H α :=
  Configuration.dialogue ⟨c env s w, s, .done⟩

/-- Runs a flow with the blocking driver. -/
def Flow.interpret {α : Type} (c : Flow H α) (env : H.Env) (s : H.State) (w : H.World) :
    Outcome H α × H.World :=
  (c.frames env s w).block

/-- Runs a flow with the suspending driver. -/
def Flow.interpretAsync {α : Type} (c : Flow H α) (env : H.Env) (s : H.State) (w : H.World) :
    Outcome H α × H.World :=
  (c.frames env s w).suspend

end Walkthrough
