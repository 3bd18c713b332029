import Walkthrough.Proofs.Run.Keeps
import Walkthrough.Proofs.Twin.Derived
import Walkthrough.Proofs.Twin.Exchange
import Walkthrough.Proofs.Twin.Mirrors

/-!
# The blocking driver refuses what would have to be awaited

A call that leaves a run may hand back code to be awaited. The blocking driver does not run that
code: it throws into the step that would wait for it. To the run this is the same as a call that
throws by itself (`Act.refused`), whatever handlers are around the call: a label of `tryCall`, an
alternative, a new try, the release of a resource. So a flow and its twin whose calls throw end
alike under the blocking driver, and the same is seen of both (`Flow.interpret_refused`).

That the code is not run says more than that its answer is not used. Two twins whose calls agree but
for what the awaited code would do leave the same world.
-/

namespace Walkthrough

variable {H : Host} {calls : H.Caller} {α β : Type}

/-- The code, throwing where it would hand back something to be awaited. -/
def Act.refused {World : Type} (code : Act World (Reply World β)) : Act World (Reply World β) :=
  fun w =>
    match code w with
    | (.ok (.awaitable _), w) => (.error (.fault .asyncStep), w)
    | answer => answer

/-- The sessions, throwing where they would hand back something to be awaited. -/
def Host.refusals (H : Host) : H.Caller := fun _ handle command => (H.call handle command).refused

/-- The code does the same, but for what it hands back to be awaited. -/
def Act.SameAtOnce {World : Type} (code code' : Act World (Reply World β)) : Prop :=
  code'.refused = code.refused

/-- The sessions do the same, but for what they hand back to be awaited. -/
def Host.Caller.SameAtOnce (calls : H.Caller) : Prop :=
  ∀ (β : Type) (handle : H.Session) (command : Command H.Element H.Datum β),
    Act.SameAtOnce (H.call handle command) (calls β handle command)

/-- Whatever is awaited is answered by the refusal. -/
def Event.RefusesAwaited : Event H → Prop
  | awaited _ r => r = .error (.fault .asyncStep)
  | _ => True

theorem Act.sameAtOnce_refused {World : Type} (code : Act World (Reply World β)) :
    code.SameAtOnce code.refused := by
  funext w
  unfold refused
  rcases code w with ⟨e | reply, w'⟩
  · rfl
  · cases reply with
    | value b => rfl
    | awaitable later => rfl

namespace Driver

/-- The blocking driver finds the same answer when the code throws by itself. -/
theorem answer_refused (code : Act H.World (Reply H.World β)) (w : H.World) :
    (blocking : Driver H).answer code.refused w = (blocking : Driver H).answer code w := by
  unfold answer Act.refused
  rcases code w with ⟨e | reply, w'⟩
  · rfl
  · cases reply with
    | value b => rfl
    | awaitable later => rfl

/-- The blocking driver is the same under a host with other sessions. -/
theorem answer_answeringWith (code : Act H.World (Reply H.World β)) (w : H.World) :
    (blocking : Driver (H.answeringWith calls)).answer code w =
      (blocking : Driver H).answer code w := by
  unfold answer
  rcases code w with ⟨e | reply, w'⟩
  · rfl
  · cases reply with
    | value b => rfl
    | awaitable later => rfl

theorem answer_eq_of_sameAtOnce {code code' : Act H.World (Reply H.World β)}
    (h : code.SameAtOnce code') (w : H.World) :
    (blocking : Driver (H.answeringWith calls)).answer code' w =
      (blocking : Driver H).answer code w := by
  rw [answer_answeringWith, ← answer_refused, h, answer_refused]

theorem agrees_of_sameAtOnce (hcalls : calls.SameAtOnce) {swaps : H.Exchange}
    (hswaps : ∀ {β : Type} {code code'}, swaps β code code' → code.SameAtOnce code') :
    Agrees swaps (blocking : Driver H) (blocking : Driver (H.answeringWith calls)) where
  sleep _ _ := rfl
  code h w := answer_eq_of_sameAtOnce (hswaps h) w
  call handle command w := answer_eq_of_sameAtOnce (hcalls _ handle command) w

end Driver

/-- The blocking driver never answers what is awaited but by the refusal. -/
theorem Program.refusesAwaited (p : Program H α) (start : H.State) :
    ∀ e ∈ (p.history .blocking start).events, e.RefusesAwaited := by
  induction p generalizing start with
  | finish o w => exact fun e he => nomatch he
  | raise e w => exact fun e he => nomatch he
  | unsupported shown w => exact fun e he => nomatch he
  | run step env s w next ihStep ihNext =>
    intro e he
    simp only [history, History.events_after, List.mem_append, List.mem_cons, List.not_mem_nil,
      or_false] at he
    rcases he with ((rfl | he) | rfl) | he
    · trivial
    · exact ihStep env s w s e he
    · trivial
    · exact ihNext _ _ start e he
  | effect e w next ih => exact List.forall_mem_cons.mpr ⟨trivial, ih _ _ start⟩
  | sleep t w next ih => exact List.forall_mem_cons.mpr ⟨trivial, ih _ _ start⟩
  | await code w next ih => exact List.forall_mem_cons.mpr ⟨rfl, ih _ _ start⟩

namespace Flow

/-- From every state, the blocking driver ends both flows alike, and the same is seen of them. -/
def BlocksAlike (c : Flow H α) (c' : Flow (H.answeringWith calls) α) : Prop :=
  ∀ env s w,
    c'.interpret env s w = ((c.interpret env s w).1.recast calls, (c.interpret env s w).2) ∧
      (c'.history .blocking env s w).sightings = (c.history .blocking env s w).sightings

theorem blocksAlike_of_twin (hcalls : calls.SameAtOnce) {swaps : H.Exchange}
    (hswaps : ∀ {β : Type} {code code'}, swaps β code code' → code.SameAtOnce code')
    {c : Flow H α} {c' : Flow (H.answeringWith calls) α} (h : Twin calls swaps c c') :
    c.BlocksAlike c' := by
  intro env s w
  obtain ⟨houtcome, hworld, hsightings⟩ :=
    mirrors_of_twin (Driver.agrees_of_sameAtOnce hcalls hswaps) h env s w
  refine ⟨?_, ?_⟩
  · rw [interpret_eq_history, interpret_eq_history, history_eq, history_eq, houtcome, hworld]
  · rw [history_eq, history_eq]
    exact hsightings

/-- A flow has a twin whose calls throw where those of the flow hand back something to be awaited,
and under the blocking driver every such twin ends as the flow does, with the same calls, answers,
lines, records and pauses. So does every twin whose calls hand back other code to be awaited: that
code is not run, and each wait is answered by the refusal. -/
theorem interpret_refused {c : Flow H α} (hc : c.Built) :
    (∃ c', Twin H.refusals (fun _ code code' => code' = code.refused) c c') ∧
      (∀ c', Twin H.refusals (fun _ code code' => code' = code.refused) c c' → c.BlocksAlike c') ∧
      (∀ calls : H.Caller, calls.SameAtOnce →
        ∀ c', Twin calls (fun _ => Act.SameAtOnce) c c' → c.BlocksAlike c') ∧
      ∀ env s w, ∀ e ∈ (c.history .blocking env s w).events, e.RefusesAwaited := by
  have hrefusals : H.refusals.SameAtOnce := fun β handle command => Act.sameAtOnce_refused _
  refine ⟨hc.exists_twin fun code => ⟨code.refused, rfl⟩, ?_, ?_, ?_⟩
  · intro c' h
    refine blocksAlike_of_twin hrefusals ?_ h
    rintro β code _ rfl
    exact Act.sameAtOnce_refused code
  · intro calls hcalls c' h
    exact blocksAlike_of_twin hcalls (fun hcode => hcode) h
  · intro env s w
    rw [history_eq]
    exact Program.refusesAwaited _ s

/-- Both the session and the code that is called first would answer later. Neither answer is waited
for, so the world is left as it was. -/
theorem interpret_refused_later :
    let later : Host.refusing.Caller := fun _ _ _ w =>
      (.ok (.awaitable fun v => (.error (.fault ⟨"SessionError", "refused"⟩), v + 1)), w)
    let H : Host := Host.refusing.answeringWith later
    let delayed : Act Nat (Reply Nat String) := fun w =>
      (.ok (.awaitable fun v => (.ok "later", v + 1)), w)
    let c : Flow H String := (tryCall delayed fun _ => .ok "title").orElse Action.currentUrl
    let start : H.State := H.initialState (some ()) { sinks := () }
    let run := c.interpret () start (0 : Nat)
    c.Built ∧
      (∃ c', Twin H.refusals (fun _ code code' => code' = code.refused) c c') ∧
      (∀ c', Twin H.refusals (fun _ code code' => code' = code.refused) c c' → c.BlocksAlike c') ∧
      run.1.failures.map Failure.kindName = ["CapabilityFailure", "CapabilityFailure"] ∧
      run.2 = (0 : Nat) := by
  intro later H delayed c start run
  have hc : c.Built := by
    have htwin : Twin (H := H) later (fun _ => Eq) c c :=
      .orElse (.tryCall rfl _) (.callSession _ _)
    exact ⟨later, _, c, htwin⟩
  obtain ⟨hexists, hrefused, -, -⟩ := interpret_refused hc
  have hrun : run = _ := interpret_eq_history c () start (0 : Nat)
  refine ⟨hc, hexists, hrefused, ?_, ?_⟩
  · rw [hrun, history_eq]
    decide +kernel
  · rw [hrun, history_eq]
    decide +kernel

end Flow

end Walkthrough
