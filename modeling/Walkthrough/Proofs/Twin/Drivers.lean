import Walkthrough.Proofs.Run.Keeps
import Walkthrough.Proofs.Twin.Derived
import Walkthrough.Proofs.Twin.Mirrors
import Walkthrough.Run

/-!
# The two drivers agree

Code that answers at once may be replaced by code that hands back something to be awaited for the
same answer (`Act.Deferred`), in any of the calls that leave a run. Under the suspending driver the
flow that is built in this way ends as the original does under the blocking driver, with the same
state, value and world, and the same is seen of both (`Flow.runAsync_eq_run`). An answer may be an
exception: the original has it from the call itself, its twin from the wait.
-/

namespace Walkthrough

variable {H : Host} {calls : H.Caller} {α β : Type}

/-- `later` answers as `now` does, either at once or when it is awaited. -/
def Act.Deferred {World β : Type} (now later : Act World (Reply World β)) : Prop :=
  ∀ w, ∃ (r : Except Thrown β) (w' : World), now w = (r.map .value, w') ∧
    (later w = (r.map .value, w') ∨
      ∃ code v, later w = (.ok (.awaitable code), v) ∧ code v = (r, w'))

/-- Every call of a session may be answered later. -/
def Host.Caller.Deferred (calls : H.Caller) : Prop :=
  ∀ (β : Type) (handle : H.Session) (command : Command H.Element H.Datum β),
    Act.Deferred (H.call handle command) (calls β handle command)

namespace Act.Deferred

variable {now later : Act H.World (Reply H.World β)}

/-- The answer that the blocking driver finds at the call. -/
theorem answer_now (d : Driver H) {w w' : H.World} {r : Except Thrown β}
    (h : now w = (r.map .value, w')) : d.answer now w = (r, w') := by
  unfold Driver.answer
  rw [h]
  cases r with
  | error e => rfl
  | ok b => rfl

/-- Settling the code that answers later gives the answer of the code that answers now. -/
theorem answer_eq (h : now.Deferred later) (w : H.World) :
    (Driver.suspending : Driver (H.answeringWith calls)).answer later w =
      (Driver.blocking : Driver H).answer now w := by
  obtain ⟨r, w', hnow, hlater | ⟨code, v, hlater, hcode⟩⟩ := h w
  · rw [answer_now _ hnow]
    exact answer_now (Driver.suspending : Driver (H.answeringWith calls)) hlater
  · rw [answer_now _ hnow]
    unfold Driver.answer
    rw [hlater]
    exact hcode

end Act.Deferred

/-- The blocking driver and the suspending one agree when sessions answer later. -/
theorem Driver.agrees_of_deferred (hcalls : calls.Deferred) :
    Driver.Agrees (fun _ => Act.Deferred) (.blocking : Driver H)
      (.suspending : Driver (H.answeringWith calls)) where
  sleep _ _ := rfl
  code h w := h.answer_eq w
  call handle command w := (hcalls _ handle command).answer_eq w

namespace Flow

/-- A session that quits later leaves the world that one leaves that quits at once. -/
theorem awaitQuit_dispose (hcalls : calls.Deferred) (s : H.State) (session : Option H.Session)
    (w : H.World) :
    awaitQuit (H := H.answeringWith calls) (dispose s session w) =
      (dispose (H := H) s session w).2 := by
  cases session with
  | none => rfl
  | some handle =>
    unfold dispose
    dsimp only
    split
    -- the settings say so, and the session answers at once or later
    · obtain ⟨r, w', hnow, hlater | ⟨code, v, hlater, hcode⟩⟩ := hcalls Unit handle .quit w
      · rw [hnow, hlater]
        cases r with
        | error e => rfl
        | ok u => rfl
      · rw [hnow, hlater]
        unfold awaitQuit
        dsimp only
        rw [hcode]
        cases r with
        | error e => rfl
        | ok u => rfl
    · rfl

variable {c : Flow H α} {c' : Flow (H.answeringWith calls) α}

/-- From any state, the twin ends under the suspending driver as the original does under the
blocking one. -/
theorem interpretAsync_eq_interpret (hcalls : calls.Deferred)
    (h : Twin calls (fun _ => Act.Deferred) c c') (env : H.Env) (s : H.State) (w : H.World) :
    c'.interpretAsync env s w =
      ((c.interpret env s w).1.recast calls, (c.interpret env s w).2) := by
  obtain ⟨houtcome, hworld, -⟩ :=
    mirrors_of_twin (Driver.agrees_of_deferred hcalls) h env s w
  rw [interpretAsync_eq_history, interpret_eq_history, history_eq, history_eq, houtcome, hworld]

/-- From any state, the same is seen of both. -/
theorem sightings_eq_of_twin (hcalls : calls.Deferred)
    (h : Twin calls (fun _ => Act.Deferred) c c') (env : H.Env) (s : H.State) (w : H.World) :
    (c'.history .suspending env s w).sightings = (c.history .blocking env s w).sightings := by
  rw [history_eq, history_eq]
  exact (mirrors_of_twin (Driver.agrees_of_deferred hcalls) h env s w).sightings

/-- Whatever the environment, the settings and the answers from outside: when the calls that leave a
run answer later, the suspending driver ends the run with the state, the value and the world with
which the blocking driver ends the run whose calls answer at once. The calls and their answers, the
lines, the records and the pauses are the same, in the same order. -/
theorem runAsync_eq_run (hcalls : calls.Deferred)
    (h : Twin calls (fun _ => Act.Deferred) c c') (session : Option H.Session)
    (settings : Settings H.Sinks) (env : H.Env) (w : H.World) :
    c'.runAsync session settings env w = c.run session settings env w ∧
      (c'.history .suspending env (H.initialState session settings) w).sightings =
        (c.history .blocking env (H.initialState session settings) w).sightings := by
  refine ⟨?_, sightings_eq_of_twin hcalls h env _ w⟩
  rcases hinterpret : c.interpret env (H.initialState session settings) w with ⟨o, w'⟩
  -- both hosts start a run from the same state
  have hended : c'.interpretAsync env ((H.answeringWith calls).initialState session settings) w =
      (o.recast calls, w') := by
    have htwin := interpretAsync_eq_interpret hcalls h env (H.initialState session settings) w
    rw [hinterpret] at htwin
    exact htwin
  calc
    c'.runAsync session settings env w
      = (((o.recast calls).state, (o.recast calls).value?),
          awaitQuit (H := H.answeringWith calls) (dispose (o.recast calls).state session w')) := by
        unfold runAsync
        rw [hended]
    _ = ((o.state, o.value?), (dispose (H := H) o.state session w').2) := by
        rw [Outcome.state_recast, Outcome.value?_recast, awaitQuit_dispose hcalls]
    _ = c.run session settings env w := by
        unfold run
        rw [hinterpret]

/-- A session that refuses later, and code that gives its value later. -/
theorem runAsync_eq_run_refusing :
    let refusal : Thrown := .fault ⟨"SessionError", "refused"⟩
    let later : Host.refusing.Caller :=
      fun _ _ _ w => (.ok (.awaitable fun v => (.error refusal, v + 1)), w)
    let now : Act Nat (Reply Nat Unit) := fun w => (.ok (.value ()), w + 1)
    let delayed : Act Nat (Reply Nat Unit) :=
      fun w => (.ok (.awaitable fun v => (.ok (), v + 1)), w)
    let c : Flow Host.refusing String := (lift now).andThen Action.currentUrl
    let c' : Flow (Host.refusing.answeringWith later) String :=
      (lift delayed).andThen Action.currentUrl
    let settings : Settings Unit := { disposeOnCompletion := true, sinks := () }
    later.Deferred ∧ Twin later (fun _ => Act.Deferred) c c' ∧
      c'.runAsync (some ()) settings () (0 : Nat) = c.run (some ()) settings () (0 : Nat) ∧
      (c'.history .suspending () (Host.refusing.initialState (some ()) settings)
          (0 : Nat)).sightings =
        (c.history .blocking () (Host.refusing.initialState (some ()) settings)
          (0 : Nat)).sightings := by
  intro refusal later now delayed c c' settings
  have hlater : later.Deferred :=
    fun β _ _ w => ⟨.error refusal, w + 1, rfl, .inr ⟨_, w, rfl, rfl⟩⟩
  have hdelayed : Act.Deferred now delayed :=
    fun w => ⟨.ok (), w + 1, rfl, .inr ⟨_, w, rfl, rfl⟩⟩
  have htwin : Twin later (fun _ => Act.Deferred) c c' :=
    .andThen (.lift hdelayed) (.callSession _ _)
  exact ⟨hlater, htwin, runAsync_eq_run hlater htwin (some ()) settings () (0 : Nat)⟩

end Flow

end Walkthrough
