import Walkthrough.Proofs.Composed.Derived
import Walkthrough.Proofs.Run.Upholds

/-!
# No step is started in a faulted state

A flow that is run from a state without failures never runs a step from a state with failures, also
where it goes on after a failure: a batch that collects failures clears them before the next item,
an alternative and a new try start from the state that the first one was started from, and whatever
else runs two steps in a row stops at the first failure. `Flow.failures_of_started` says so for
every composed flow and every driver. It is the strict law that says nothing else, so a flow may
replace the state of the run as well.

The sinks must not throw. `stopwatch` runs its flow from the state that its first line left, and
does not look whether that line could be written.
-/

namespace Walkthrough

variable {H : Host} {k : Kit} {α : Type}

namespace Flow

/-- The law of runs that stop at the first failure. It allows every state everywhere. -/
def failFastLaw (H : Host) (k : Kit) : H.Law k where
  holds _ := True
  relates _ _ _ := True
  strict := True
  refl _ := trivial
  trans _ _ := trivial
  change _ _ := ⟨trivial, trivial⟩
  line _ _ _ := ⟨trivial, trivial⟩
  enter _ _ := trivial
  leave _ _ _ _ := ⟨trivial, trivial⟩
  mute _ _ _ := trivial
  unmute _ _ _ _ _ _ _ := ⟨trivial, trivial⟩
  lend _ _ := trivial
  giveBack _ _ _ _ := ⟨trivial, trivial⟩

/-- The same of the program that the flow makes, whose history computes; that of the flow is the one
of its run on the stack of frames. -/
theorem failures_of_launched (quiet : H.Quiet) {c : Flow H α} (hc : c.Composed k) (d : Driver H)
    (env : H.Env) {s t : H.State} (hs : s.failures = []) (w : H.World)
    (ht : Event.started t ∈ ((c env s w).history d s).events) : t.failures = [] := by
  have hlaw : c.Upholds (failFastLaw H k) d :=
    upholds_of_composed (fun _ _ => trivial) (fun _ => quiet)
      (.inr fun _ _ _ => ⟨trivial, trivial⟩) hc
  have hrun := lawful_of_upholds hlaw (fun _ => trivial) env ⟨trivial, fun _ => hs⟩ w
  exact hrun.starts trivial t ht

/-- Whatever a composed flow is built from and however its pauses and waits end: when it is run from
a state without failures, every step that is run on the way is started from one without failures. -/
theorem failures_of_started (quiet : H.Quiet) {k : Kit} {c : Flow H α} (hc : c.Composed k)
    (d : Driver H) (env : H.Env) {s t : H.State} (hs : s.failures = []) (w : H.World)
    (ht : Event.started t ∈ (c.history d env s w).events) : t.failures = [] := by
  rw [history_eq] at ht
  exact failures_of_launched quiet hc d env hs w ht

/-- In a batch whose first item fails, the second item is started without that failure, but with the
configuration that the first one left. -/
theorem failures_of_started_second :
    let broken : Failure := .ofMessage .assertion "broken"
    let first : Flow Host.refusing Unit :=
      (initConfig [("site", "shop")]).andThen (failure broken [])
    let batch := collect [first, Action.closeTab]
    let s := Host.refusing.initialState (some ()) { sinks := () }
    let t := s.withConfiguration [("site", "shop")]
    batch.Composed {} ∧ s.failures = [] ∧
      (batch.history .blocking () s (0 : Nat)).events[6]? = some (.started t) ∧
      t.failures = [] := by
  intro broken first batch s t
  have hbatch : batch.Composed {} := by
    refine .collect ?_
    simp only [List.forall_mem_cons]
    exact ⟨.andThen (.initConfig _) (.failure broken []), Action.composed_announced _ _ _,
      fun c hc => nomatch hc⟩
  have hevent : (batch.history .blocking () s (0 : Nat)).events[6]? = some (.started t) := by
    rw [history_eq]
    rfl
  refine ⟨hbatch, rfl, hevent, ?_⟩
  exact failures_of_started Host.quiet_refusing hbatch .blocking () rfl (0 : Nat)
    (List.mem_of_getElem? hevent)

end Flow

end Walkthrough
