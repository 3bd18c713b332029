import Walkthrough.Proofs.Behaviour.Basic
import Walkthrough.Proofs.Run.Law

/-!
# Idle runs

A run is idle when it asks no session for anything and pauses only for those who are patient
(`Event.Idle`). A flow that fails outright is idle: it tells its sinks the line of its failure, and
ends with that failure and no other (`Flow.keeps_fail`).
-/

namespace Walkthrough

variable {H : Host} {α : Type}

/-- The effect asks a session to do something. -/
def Effect.AsksSession : {β : Type} → Effect H β → Prop
  | _, .call _ _ => True
  | _, _ => False

/-- The event asks a session to do something. -/
def Event.AsksSession : Event H → Prop
  | did e _ => e.AsksSession
  | _ => False

/-- The pause that an event asks for. -/
def Event.pause? : Event H → Option Rat
  | slept t => some t
  | _ => none

/-- The pauses that a run asks for, in their order. -/
def History.pauses (h : History H α) : List Rat := h.events.filterMap Event.pause?

/-- No session is asked for anything, and there is a pause only for the `patient`. -/
def Event.Idle (patient : Prop) : Event H → Prop
  | did e _ => ¬ e.AsksSession
  | slept _ => patient
  | _ => True

namespace Event.Idle

variable {patient : Prop} {e : Event H}

theorem not_asksSession (h : e.Idle patient) : ¬ e.AsksSession := by
  cases e with
  | did e r => exact h
  | _ => exact id

theorem pause?_eq_none (h : e.Idle patient) (impatient : ¬ patient) : e.pause? = none := by
  cases e with
  | slept t => exact absurd h impatient
  | _ => rfl

end Event.Idle

/-- After a pause that does not throw the program goes on. -/
theorem Program.Keeps.sleep_steady {d : Driver H} (steady : d.Steady) {E : Event H → Prop}
    {start : H.State} {Q : Outcome H α → Prop} {t : Rat} {w : H.World}
    {next : Except Thrown Unit → H.World → Program H α} (hslept : E (.slept t))
    (hnext : ∀ w', (next (.ok ()) w').Keeps d E start Q) :
    (Program.sleep t w next).Keeps d E start Q := by
  obtain ⟨w', hw'⟩ := steady t w
  have hrest : (next (d.sleep t w).1 (d.sleep t w).2).Keeps d E start Q := by
    rw [hw']
    exact hnext w'
  refine ⟨fun e he => ?_, hrest.outcome⟩
  rcases List.mem_cons.mp he with rfl | he
  · exact hslept
  · exact hrest.events e he

namespace Flow

/-- A flow that fails outright is idle, and ends with its failure, whose line is the only change to
the log. -/
theorem keeps_fail {d : Driver H} (quiet : H.Quiet) (patient : Prop) (f : Failure) (env : H.Env)
    {s : H.State} (hs : s.failures = []) (w : H.World) :
    ((fail f : Flow H α) env s w).Keeps d (Event.Idle patient) s fun o =>
      o = .fault (s.withLine .error f.message) f [] := by
  have hline : (errorLine f.message env s w).Keeps d (Event.Idle patient) s fun o =>
      o = .success () (s.withLine .error f.message) hs :=
    .announce_quiet quiet (fun _ _ _ _ => id) (fun _ _ _ => id) fun w' =>
      .finish w' (Outcome.of_eq_success (s := s.withLine .error f.message) hs)
  refine .run trivial hline (fun _ _ => trivial) fun o w' ho => ?_
  subst ho
  -- what follows the line only puts the failure into the state
  exact .run trivial (R := fun o => o = .fault (s.withLine .error f.message) f [])
    (.finish w' rfl) (fun _ _ => trivial) fun o w'' ho => .finish w'' ho

/-- The failure of a wait when its time is up and the last attempt failed. -/
def timedOut (timeout : Rat) (label : String) (last : Failure) : Failure :=
  .ofMessage .timeout
    ("Timed out after " ++ Number.general timeout ++ "s waiting for " ++ label ++ ": " ++ last.text)

end Flow

end Walkthrough
