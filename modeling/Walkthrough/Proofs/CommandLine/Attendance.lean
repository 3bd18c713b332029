import Walkthrough.Rehearsal.Command

/-!
# What an attended run cleans up

`Flow.attended_cleans_up` states what the command line does around the run of a flow, for every
flow, every host, and every way in which the session can be started and stopped. Once the session
has been started, the console is taken off the stream of the log and the session is stopped, each
exactly once and in this order, whatever the run comes to and even if stopping throws.

What is counted is put on record by `Attendance.recording`, which changes nothing else
(`Attendance.attend_recording`).

A session that cannot be started is the one way to get past all of this: nothing comes after it, so
what the session had opened before it failed is never closed, and the console goes on listening
(`Flow.attended_cleans_up_unstarted`).
-/

namespace Walkthrough

universe u

/-- What is done around the run of a flow, and the run itself. -/
inductive Deed where
  | start
  | run
  | detach
  | stop
  deriving DecidableEq, Repr

/-- Code that is put on record as it runs. -/
def Deed.of {World : Type} {α : Type u} (d : Deed) (code : Act World α) :
    Act (List Deed × World) α :=
  fun (deeds, w) => ((code w).1, (deeds ++ [d], (code w).2))

/-- How an attended run ends, from what stopping the session gives and what the run came to. -/
def Attended.ofStop {α : Type u} (stopped : Except Thrown Unit) (result : Except Thrown α) :
    Attended α :=
  match stopped with
  | .ok () => .ended result
  | .error e => .unstopped e

namespace Attendance

variable {World Listener : Type} [BEq Listener] {α : Type u} {a : Attendance World Listener}
  {run : Act World α} {w w₁ w₂ : World} {result : Except Thrown α} {e : Thrown}

/-- The same, with everything that is done put on record. -/
def recording (a : Attendance World Listener) : Attendance (List Deed × World) Listener where
  start := Deed.start.of a.start
  stop := Deed.stop.of a.stop
  stream :=
    { channel := fun (_, w) => a.stream.channel w
      detach := fun l (deeds, w) => (deeds ++ [.detach], a.stream.detach l w)
      channel_detach := fun l (_, w) => a.stream.channel_detach l w }
  console := a.console

/-- What is done in an attended run, one after the other. -/
def deeds (a : Attendance World Listener) (run : Act World α) (w : World) : List Deed :=
  (a.recording.attend (Deed.run.of run) ([], w)).2.1

theorem attend_of_started (hstart : a.start w = (.ok (), w₁)) (hrun : run w₁ = (result, w₂)) :
    a.attend run w =
      (.ofStop (a.stop (a.detach w₂)).1 result, (a.stop (a.detach w₂)).2) := by
  simp only [attend, hstart, hrun]
  rcases a.stop (a.detach w₂) with ⟨e | u, w₃⟩ <;> rfl

theorem attend_of_unstarted (hstart : a.start w = (.error e, w₁)) :
    a.attend run w = (.unstarted e, w₁) := by
  simp only [attend, hstart]

theorem recording_of_started (hstart : a.start w = (.ok (), w₁)) (entries : List Deed) :
    a.recording.attend (Deed.run.of run) (entries, w) =
      ((a.attend run w).1, (entries ++ [.start, .run, .detach, .stop], (a.attend run w).2)) := by
  have hrecorded : a.recording.start (entries, w) = (.ok (), (entries ++ [.start], w₁)) := by
    show ((a.start w).1, (entries ++ [.start], (a.start w).2)) = _
    rw [hstart]
  have hrun : Deed.run.of run (entries ++ [.start], w₁) =
      ((run w₁).1, (entries ++ [.start] ++ [.run], (run w₁).2)) := rfl
  have hattend : a.attend run w = _ := attend_of_started hstart (rfl : run w₁ = (_, (run w₁).2))
  rw [attend_of_started hrecorded hrun, hattend]
  show (_, ((entries ++ [.start] ++ [.run] ++ [.detach] ++ [.stop]), _)) = _
  simp only [List.append_assoc, List.cons_append, List.nil_append]
  rfl

theorem recording_of_unstarted (hstart : a.start w = (.error e, w₁)) (entries : List Deed) :
    a.recording.attend (Deed.run.of run) (entries, w) =
      ((a.attend run w).1, (entries ++ [.start], (a.attend run w).2)) := by
  have hrecorded : a.recording.start (entries, w) = (.error e, (entries ++ [.start], w₁)) := by
    show ((a.start w).1, (entries ++ [.start], (a.start w).2)) = _
    rw [hstart]
  rw [attend_of_unstarted hrecorded, attend_of_unstarted hstart]

theorem deeds_of_started (hstart : a.start w = (.ok (), w₁)) :
    a.deeds run w = [.start, .run, .detach, .stop] := by
  unfold deeds
  rw [recording_of_started hstart]
  rfl

theorem deeds_of_unstarted (hstart : a.start w = (.error e, w₁)) :
    a.deeds run w = [.start] := by
  unfold deeds
  rw [recording_of_unstarted hstart]
  rfl

/-- What is done is put on record, and that is all that the record changes. -/
theorem attend_recording (a : Attendance World Listener) (run : Act World α) (entries : List Deed)
    (w : World) :
    a.recording.attend (Deed.run.of run) (entries, w) =
      ((a.attend run w).1, (entries ++ a.deeds run w, (a.attend run w).2)) := by
  rcases hstart : a.start w with ⟨e | u, w₁⟩
  · rw [recording_of_unstarted hstart, deeds_of_unstarted hstart]
  · rw [recording_of_started hstart, deeds_of_started hstart]

end Attendance

/-- A flow is run with a session around it. Once the session has been started, and whatever the run
comes to, the console is taken off the stream of the log and the session is stopped, each once and
nothing in between; the world is left as stopping leaves it, and stopping may throw. A session that
cannot be started is not stopped, and the console keeps listening. -/
theorem Flow.attended_cleans_up {H : Host} {Listener : Type} [BEq Listener] {α : Type}
    (a : Attendance H.World Listener) (c : Flow H α) (session : Option H.Session)
    (settings : Settings H.Sinks) (env : H.Env) (w : H.World) :
    (∃ w₁ result w₂ w₃, a.start w = (.ok (), w₁) ∧
      c.runAndRaise session settings env w₁ = (result, w₂) ∧
      w₃ = a.detach w₂ ∧
      a.stream.channel w₃ = (a.stream.channel w₂).cancel a.console ∧
      a.attend (c.runAndRaise session settings env) w =
        (.ofStop (a.stop w₃).1 result, (a.stop w₃).2) ∧
      a.deeds (c.runAndRaise session settings env) w = [.start, .run, .detach, .stop]) ∨
    ∃ e w₁, a.start w = (.error e, w₁) ∧
      a.attend (c.runAndRaise session settings env) w = (.unstarted e, w₁) ∧
      a.deeds (c.runAndRaise session settings env) w = [.start] := by
  rcases hstart : a.start w with ⟨e | u, w₁⟩
  · exact .inr ⟨e, w₁, rfl, Attendance.attend_of_unstarted hstart,
      Attendance.deeds_of_unstarted hstart⟩
  · refine .inl ⟨w₁, _, _, _, rfl, rfl, rfl, a.stream.channel_detach _ _, ?_, ?_⟩
    · exact Attendance.attend_of_started hstart rfl
    · exact Attendance.deeds_of_started hstart

namespace Rehearsal

/-- Asking the main session to start or to stop leaves the listeners of the log alone. -/
theorem channels_attend (method : String) (w : World) :
    (attend method w).2.channels = w.channels := by
  unfold attend
  split
  · rfl
  · unfold beginCall
    simp only
    split
    · rfl
    · split <;> rfl

/-- The line that says that all went well leaves them alone, too. -/
theorem channels_ofAttended {α : Type} (opened : List BrowserConfig) (p : Attended α × World) :
    (CommandResult.ofAttended opened p).world.channels = p.2.channels := by
  obtain ⟨e | e | (f | f) | r, w⟩ := p <;> rfl

/-- A command whose session could be started has taken the console off the log when it ends. -/
theorem channel_runAttended {flow : RFlow Value} {settings : Settings Sinks} {w w₁ : World}
    (hstart : attend "start" w = (.ok (), w₁)) :
    (logStream settings.sinks).channel (runAttended flow settings w).world =
      ((logStream settings.sinks).channel
        (flow.runAndRaise (H := host) (some mainSession) settings .null w₁).2).cancel .console := by
  rcases hrun : flow.runAndRaise (H := host) (some mainSession) settings .null w₁ with ⟨result, w₂⟩
  have hattend : (attendance settings.sinks).attend _ w = _ :=
    Attendance.attend_of_started hstart hrun
  have hended : (runAttended flow settings w).world.channels =
      ((attendance settings.sinks).detach w₂).channels :=
    (channels_ofAttended _ _).trans
      ((congrArg (fun p => p.2.channels) hattend).trans (channels_attend "stop" _))
  refine Eq.trans ?_ ((logStream settings.sinks).channel_detach .console w₂)
  exact congrArg (fun channels => (channels[settings.sinks.channel]?).getD {}) hended

/-- Settings whose records go to the first channel. -/
abbrev firstChannel : Settings Sinks :=
  { sinks :=
      { logging := false, breaksOn := none, channel := 0, failures := .told, heard := false } }

/-- A world in which the console listens to the first channel and the main session cannot be
started. -/
abbrev startless : World :=
  { pages :=
      [(mainSession,
        { nodes := []
          failing := [("start", ⟨[some (.fault ⟨"RuntimeError", "boom"⟩)]⟩)] })]
    channels := [⟨[.console]⟩] }

end Rehearsal

open Rehearsal in
/-- The main session cannot be started: it is not stopped, and the console keeps listening. -/
theorem Flow.attended_cleans_up_unstarted :
    (attendance firstChannel.sinks).deeds
        ((Flow.pure .null : RFlow Value).runAndRaise (H := host) (some mainSession) firstChannel
          .null) startless = [.start] ∧
      (runAttended (Flow.pure .null) firstChannel startless).world.events =
        [.call mainSession "start" []] ∧
      (logStream firstChannel.sinks).channel
        (runAttended (Flow.pure .null) firstChannel startless).world = ⟨[.console]⟩ :=
  ⟨rfl, rfl, rfl⟩

end Walkthrough
