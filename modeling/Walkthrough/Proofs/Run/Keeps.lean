import Walkthrough.Flow.Logging
import Walkthrough.Proofs.Run.History
import Walkthrough.Run

/-!
# What every event of a run keeps to

`Program.Keeps E p start Q` says that every event of a run of the program `p`, started from `start`,
satisfies `E`, and that its outcome satisfies `Q`. There is one rule for each kind of request, so a
statement about a combinator is proved along the program that it makes, and never by opening the
history. The rule for a nested step (`Keeps.run`) is the one that matters: what the step promises of
its outcome is all that the continuation may count on.
-/

namespace Walkthrough

/-- The sinks take every line and every record without throwing. -/
structure Host.Quiet (H : Host) : Prop where
  logLine : ∀ sinks message indent w, ∃ w', H.logLine sinks message indent w = (.ok (), w')
  publish : ∀ sinks record w, ∃ w', H.publish sinks record w = (.ok (), w')

/-- A host whose world counts the calls of its sessions, which refuse whatever they are asked. -/
abbrev Host.refusing : Host where
  World := Nat
  Env := Unit
  Session := Unit
  Element := Unit
  Datum := Unit
  Sinks := Unit
  precision := .exact
  now _ := 0
  sleep _ w := w
  call _ _ w := (.error (.fault ⟨"SessionError", "refused"⟩), w + 1)
  logLine _ _ _ := .ok ()
  publish _ _ := .ok ()
  publishFailure _ _ := .ok ()
  reportFailure _ _ _ := .ok ()
  complain _ _ w := w
  ofElement := id
  truthy _ := false

/-- The state that a run under `Host.refusing` starts from, with no session. -/
abbrev Host.refusingStart : Host.refusing.State := Host.refusing.initialState none { sinks := () }

/-- The sinks of the refusing host take everything. -/
theorem Host.quiet_refusing : Host.refusing.Quiet :=
  ⟨fun _ _ _ w => ⟨w, rfl⟩, fun _ _ w => ⟨w, rfl⟩⟩

namespace Program

variable {H : Host} {α β : Type}

/-- Every event of a run of the program satisfies `E`, and its outcome satisfies `Q`. -/
structure Keeps (d : Driver H) (E : Event H → Prop) (p : Program H α) (start : H.State)
    (Q : Outcome H α → Prop) : Prop where
  events : ∀ e ∈ (p.history d start).events, E e
  outcome : Q (p.history d start).outcome

namespace Keeps

variable {d : Driver H} {E : Event H → Prop} {start : H.State} {Q : Outcome H α → Prop}

/-- An outcome keeps to what is asked of outcomes. -/
theorem finish {o : Outcome H α} (w : H.World) (h : Q o) :
    (Program.finish o w).Keeps d E start Q :=
  ⟨fun _ he => absurd he List.not_mem_nil, h⟩

/-- What is thrown is a fault of the state at the start. -/
theorem raise {e : Thrown} (w : H.World) (h : Q (.raised start e)) :
    (Program.raise e w).Keeps d E start Q :=
  ⟨fun _ he => absurd he List.not_mem_nil, h⟩

/-- The events of a nested step stand between its start and its end, and the continuation goes on
from whatever outcome the step promises. -/
theorem run {step : H.Env → H.State → H.World → Program H β} {env : H.Env} {s : H.State}
    {w : H.World} {next : Outcome H β → H.World → Program H α} {R : Outcome H β → Prop}
    (hstart : E (.started s)) (hstep : (step env s w).Keeps d E s R)
    (hend : ∀ o, R o → E (.ended o))
    (hnext : ∀ o w', R o → (next o w').Keeps d E start Q) :
    (Program.run step env s w next).Keeps d E start Q := by
  have hrest := hnext _ ((step env s w).history d s).world hstep.outcome
  refine ⟨?_, hrest.outcome⟩
  intro e he
  simp only [history, History.events_after, List.mem_append, List.mem_cons, List.not_mem_nil,
    or_false] at he
  rcases he with ((rfl | he) | rfl) | he
  · exact hstart
  · exact hstep.events e he
  · exact hend _ hstep.outcome
  · exact hrest.events e he

/-- An effect is one event, and the rest follows. -/
theorem effect {e : Effect H β} {w : H.World} {next : Except Thrown β → H.World → Program H α}
    (hdid : E (.did e (H.perform e w).1))
    (hnext : (next (H.perform e w).1 (H.perform e w).2).Keeps d E start Q) :
    (Program.effect e w next).Keeps d E start Q := by
  refine ⟨?_, hnext.outcome⟩
  intro e' he'
  rcases List.mem_cons.mp he' with rfl | he'
  · exact hdid
  · exact hnext.events e' he'

theorem sleep {t : Rat} {w : H.World} {next : Except Thrown Unit → H.World → Program H α}
    (hslept : E (.slept t)) (hnext : ∀ r w', (next r w').Keeps d E start Q) :
    (Program.sleep t w next).Keeps d E start Q := by
  have hrest := hnext (d.sleep t w).1 (d.sleep t w).2
  refine ⟨?_, hrest.outcome⟩
  intro e' he'
  rcases List.mem_cons.mp he' with rfl | he'
  · exact hslept
  · exact hrest.events e' he'

/-- Something awaited is one event, whatever it gives. -/
theorem await {code : Act H.World β} {w : H.World}
    {next : Except Thrown β → H.World → Program H α} (hawaited : ∀ r, E (.awaited code r))
    (hnext : ∀ r w', (next r w').Keeps d E start Q) :
    (Program.await code w next).Keeps d E start Q := by
  have hrest := hnext (d.await code w).1 (d.await code w).2
  refine ⟨?_, hrest.outcome⟩
  intro e' he'
  rcases List.mem_cons.mp he' with rfl | he'
  · exact hawaited _
  · exact hrest.events e' he'

/-- A call from outside, waited for if that is needed. -/
theorem outside {e : Effect H (Reply H.World β)} {w : H.World}
    {next : Except Thrown β → H.World → Program H α} (hdid : ∀ r, E (.did e r))
    (hawaited : ∀ (code : Act H.World β) r, E (.awaited code r))
    (hnext : ∀ r w', (next r w').Keeps d E start Q) :
    (Program.outside e w next).Keeps d E start Q := by
  refine effect (hdid _) ?_
  rcases (H.perform e w).1 with thrown | reply
  · exact hnext _ _
  · cases reply with
    | value b => exact hnext _ _
    | awaitable code => exact await (hawaited code) hnext

/-- A line that is announced to sinks that do not throw, or kept from them. -/
theorem announce_quiet (quiet : H.Quiet) {s : H.State} {node : Log} {w : H.World}
    {next : H.World → Program H α}
    (hline : ∀ sinks message indent r, E (.did (.logLine sinks message indent) r))
    (hrecord : ∀ sinks record r, E (.did (.publish sinks record) r))
    (hnext : ∀ w', (next w').Keeps d E start Q) :
    (Flow.announce s node w next).Keeps d E start Q := by
  unfold Flow.announce
  split
  · exact hnext w
  · refine effect (hline _ _ _ _) ?_
    obtain ⟨w₁, hlogged⟩ := quiet.logLine s.settings.sinks node.message node.indent w
    rw [Host.perform, hlogged]
    refine effect (hrecord _ _ _) ?_
    obtain ⟨w₂, hpublished⟩ := quiet.publish s.settings.sinks node.record w₁
    rw [Host.perform, hpublished]
    exact hnext w₂

end Keeps

end Program

end Walkthrough
