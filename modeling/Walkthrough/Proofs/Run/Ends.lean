import Walkthrough.Flow.Resource
import Walkthrough.Proofs.Behaviour.Basic
import Walkthrough.Proofs.Run.Leads

/-!
# How a run ends

`Flow.Ends` says with which outcome a run of a flow ends, and in which world. Along a chain it is
followed from value to value: what comes after a value ends as the flow that is made from it, and a
call to the session gives the answer of the session.
-/

namespace Walkthrough

namespace Flow

variable {H : Host} {α β : Type} {d : Driver H} {env : H.Env} {s t : H.State} {w v v' : H.World}

/-- A run of the flow ends with this outcome, in this world. -/
def Ends (d : Driver H) (c : Flow H α) (env : H.Env) (s : H.State) (w : H.World)
    (o : Outcome H α) (v : H.World) : Prop :=
  (c.history d env s w).outcome = o ∧ (c.history d env s w).world = v

/-- A flow whose run leads to an end ends there. -/
theorem ends_of_leads {c : Flow H α} {ms : List (Moment H)} {o : Outcome H α}
    (h : (c env s w).Leads d ms (.finish o v)) : c.Ends d env s w o v :=
  ⟨outcome_of_leads h, world_of_leads h⟩

/-- After a value the flow that is made from it is the rest. -/
theorem ends_bind {c : Flow H α} {f : α → Act H.World (Flow H β)} {a : α} {sound : t.failures = []}
    {rest : Flow H β} {o : Outcome H β} {u : H.World} (hc : c.Ends d env s w (.success a t sound) v)
    (hmade : f a v = (.ok rest, v')) (hrest : rest.Ends d env t v' o u) :
    (c.bind f).Ends d env s w o u := by
  obtain ⟨rfl, rfl⟩ := hrest
  have hnext : endWithMade (f a v) env t = rest.endWith env t v' := by
    rw [hmade]
    rfl
  have hleads := Program.Leads.endWith (d := d) rest env t v'
  rw [← hnext] at hleads
  refine ends_of_leads (.run_trans (?_ : Program.Leads d _ (rest.trace d env t v') _))
  rw [hc.1, hc.2]
  exact hleads

/-- After a failure nothing is made, and the failure is handed on. -/
theorem leads_bind_of_faulted {c : Flow H α} (f : α → Act H.World (Flow H β)) {a : Option α}
    {unsound : t.failures ≠ []} (hc : c.Ends d env s w (.faulted a t unsound) v) :
    (c.bind f env s w).Leads d (c.trace d env s w) (.finish (.faulted none t unsound) v) := by
  refine .run ?_
  rw [hc.1, hc.2]

/-- A value ends at once, in the state it was given. -/
theorem ends_pure (a : α) (sound : s.failures = []) :
    (pure a).Ends d env s w (.success a s sound) w := by
  unfold Ends
  rw [history_eq]
  exact ⟨Outcome.of_eq_success sound, rfl⟩

/-- After a value the function that is called with it gives the value of the whole. -/
theorem ends_map_of_ok {c : Flow H α} {f : α → Act H.World β} {a : α} {b : β}
    {sound : t.failures = []} (hc : c.Ends d env s w (.success a t sound) v)
    (hf : f a v = (.ok b, v')) : (c.map f).Ends d env s w (.success b t sound) v' := by
  refine ends_of_leads (.run ?_)
  rw [hc.1, hc.2]
  show endWithValue (f a v) t = _
  rw [hf]
  exact congrArg (Program.finish · v') (Outcome.of_eq_success sound)

/-- A function that throws faults the state that the step was started from. -/
theorem ends_map_of_error {c : Flow H α} {f : α → Act H.World β} {a : α} {e : Thrown}
    {sound : t.failures = []} (hc : c.Ends d env s w (.success a t sound) v)
    (hf : f a v = (.error e, v')) : (c.map f).Ends d env s w (.raised s e) v' := by
  have hleads : ((c.map f) env s w).Leads d (c.trace d env s w) (.raise e v') := by
    refine .run ?_
    rw [hc.1, hc.2]
    show endWithValue (f a v) t = _
    rw [hf]
    rfl
  exact ⟨outcome_of_leads hleads, world_of_leads hleads⟩

/-- A flow that asks for the session ends with it, when there is one. -/
theorem ends_session {handle : H.Session} (sound : s.failures = [])
    (hsession : s.session = some handle) :
    (session : Flow H H.Session).Ends d env s w (.success handle s sound) w := by
  have hprogram : (session : Flow H H.Session) env s w = .finish (.success handle s sound) w := by
    unfold session
    rw [hsession]
    exact congrArg (Program.finish · w) (Outcome.of_eq_success sound)
  unfold Ends
  rw [history_eq, hprogram]
  exact ⟨rfl, rfl⟩

/-- A call to the session that is answered gives the answer. -/
theorem ends_callSession {handle : H.Session} {command : Command H.Element H.Datum α} {a : α}
    (sound : s.failures = []) (hsession : s.session = some handle)
    (hanswer : d.answer (H.call handle command) w = (.ok a, v)) (label : String) :
    (callSession label command).Ends d env s w (.success a s sound) v := by
  have hperform : d.answer (H.perform (.call handle command)) w = (.ok a, v) := hanswer
  refine ends_bind (ends_session sound hsession) rfl (ends_of_leads (.outside ?_))
  rw [hperform]
  exact congrArg (Program.finish · v) (Outcome.of_eq_success sound)

end Flow

end Walkthrough
