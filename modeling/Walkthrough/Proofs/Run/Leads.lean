import Walkthrough.Proofs.Run.Trace

/-!
# Following a run

`Program.Leads d p ms q` says that a run of the program `p` shows the moments `ms` first and then
goes on as the program `q` does, with the same events, the same outcome and the same world at the
end. A request of a program leads on to what follows its answer, and these steps compose, so a run
can be followed from one place of a program to a later one. A step is followed as a whole: what is
shown is its trace, and the program goes on from its outcome (`Leads.run`).
-/

namespace Walkthrough

variable {H : Host} {α β : Type}

/-- A run of the program shows some moments and then goes on as another program does. -/
structure Program.Leads (d : Driver H) (p : Program H α) (ms : List (Moment H)) (q : Program H α) :
    Prop where
  moments : p.moments d = ms ++ q.moments d
  history : ∀ start, p.history d start = (q.history d start).after (ms.map Moment.event)

namespace Program.Leads

variable {d : Driver H} {p q r : Program H α} {ms ns : List (Moment H)}

/-- A program leads to itself, without a moment. -/
theorem refl (p : Program H α) : p.Leads d [] p := ⟨rfl, fun _ => rfl⟩

/-- The moments of two ways follow one another. -/
theorem trans (h : p.Leads d ms q) (h' : q.Leads d ns r) : p.Leads d (ms ++ ns) r := by
  refine ⟨?_, fun start => ?_⟩
  · rw [h.moments, h'.moments, List.append_assoc]
  · rw [h.history start, h'.history start, History.after_after, List.map_append]

/-- A step is followed from where it is entered to where it is left. -/
theorem run {c : Flow H β} {env : H.Env} {s : H.State} {w : H.World}
    {next : Outcome H β → H.World → Program H α}
    (hnext : next (c.history d env s w).outcome (c.history d env s w).world = q) :
    (Program.run c env s w next).Leads d (c.trace d env s w) q := by
  subst hnext
  refine ⟨moments_run d c env s w next, fun start => ?_⟩
  rw [history_run, ← c.history_eq, c.event_trace]

/-- After a step the program is followed further from the outcome of the step. -/
theorem run_trans {c : Flow H β} {env : H.Env} {s : H.State} {w : H.World}
    {next : Outcome H β → H.World → Program H α}
    (h : (next (c.history d env s w).outcome (c.history d env s w).world).Leads d ns q) :
    (Program.run c env s w next).Leads d (c.trace d env s w ++ ns) q :=
  (run rfl).trans h

/-- Ending as a flow does is running it and nothing else. -/
theorem endWith (c : Flow H α) (env : H.Env) (s : H.State) (w : H.World) :
    (c.endWith env s w).Leads d (c.trace d env s w)
      (.finish (c.history d env s w).outcome (c.history d env s w).world) :=
  .run rfl

/-- One effect, and the program goes on from its answer. -/
theorem effect {e : Effect H β} {w : H.World} {next : Except Thrown β → H.World → Program H α}
    (hnext : next (H.perform e w).1 (H.perform e w).2 = q) :
    (Program.effect e w next).Leads d [.request (.did e (H.perform e w).1)] q := by
  subst hnext
  exact ⟨rfl, fun _ => rfl⟩

/-- One pause, and the program goes on. -/
theorem sleep {t : Rat} {w : H.World} {next : Except Thrown Unit → H.World → Program H α}
    (hnext : next (d.sleep t w).1 (d.sleep t w).2 = q) :
    (Program.sleep t w next).Leads d [.request (.slept t)] q := by
  subst hnext
  exact ⟨rfl, fun _ => rfl⟩

/-- One thing awaited, and the program goes on from what it gave. -/
theorem await {code : Act H.World β} {w : H.World}
    {next : Except Thrown β → H.World → Program H α}
    (hnext : next (d.await code w).1 (d.await code w).2 = q) :
    (Program.await code w next).Leads d [.request (.awaited code (d.await code w).1)] q := by
  subst hnext
  exact ⟨rfl, fun _ => rfl⟩

/-- A reply is awaited if that is needed. -/
theorem resolve (r : Except Thrown (Reply H.World β)) (w : H.World)
    (next : Except Thrown β → H.World → Program H α) :
    (Program.resolve r w next).Leads d ((d.waited r w).map .request)
      (next (d.settle r w).1 (d.settle r w).2) := by
  rcases r with thrown | b | code
  · exact .refl _
  · exact .refl _
  · exact .await rfl

/-- Outside code is followed from the call to its answer. -/
theorem outside {e : Effect H (Reply H.World β)} {w : H.World}
    {next : Except Thrown β → H.World → Program H α}
    (hnext : next (d.answer (H.perform e) w).1 (d.answer (H.perform e) w).2 = q) :
    (Program.outside e w next).Leads d ((d.called e w).map .request) q := by
  subst hnext
  exact (effect rfl).trans (resolve ..)

/-- A run ends as the run from the place that it leads to. -/
theorem outcome (h : p.Leads d ms q) (start : H.State) :
    (p.history d start).outcome = (q.history d start).outcome := by
  rw [h.history start, History.outcome_after]

/-- It also leaves the same world. -/
theorem world (h : p.Leads d ms q) (start : H.State) :
    (p.history d start).world = (q.history d start).world := by
  rw [h.history start, History.world_after]

end Program.Leads

namespace Flow

variable {d : Driver H} {c : Flow H α} {env : H.Env} {s : H.State} {w : H.World}
  {ms : List (Moment H)} {q : Program H α}

/-- The trace of a flow is what its program shows on the way to `q`, and what `q` shows. -/
theorem trace_of_leads (h : (c env s w).Leads d ms q) :
    c.trace d env s w =
      .entered ⟨c, env, s, w⟩ :: (ms ++ q.moments d ++ [.left (c.history d env s w).outcome]) := by
  rw [trace, h.moments]

/-- A flow that comes to its end shows what it shows on the way. -/
theorem trace_of_leads_finish {o : Outcome H α} {v : H.World}
    (h : (c env s w).Leads d ms (.finish o v)) :
    c.trace d env s w =
      .entered ⟨c, env, s, w⟩ :: (ms ++ [.left (c.history d env s w).outcome]) := by
  rw [trace_of_leads h, Program.moments, List.append_nil]

/-- The same for the outcome of a flow. -/
theorem outcome_of_leads (h : (c env s w).Leads d ms q) :
    (c.history d env s w).outcome = (q.history d s).outcome := by
  rw [history_eq, h.outcome]

/-- The same for the world that a flow leaves. -/
theorem world_of_leads (h : (c env s w).Leads d ms q) :
    (c.history d env s w).world = (q.history d s).world := by
  rw [history_eq, h.world]

end Flow

end Walkthrough
