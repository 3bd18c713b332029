import Walkthrough.Proofs.Run.History

/-!
# What is seen of a run from outside

A history also holds what happens between the steps of a run. Seen from outside there are only the
calls that leave the run, their answers, the records and the pauses, in their order
(`History.sightings`). An answer is seen when it is there: an answer that has to be awaited is seen
when the wait is over, so that a call that answers at once and one that answers later look the same
(`Program.answer_outside`).

A sighting names nothing of the host but its handles, so runs of two hosts that differ in how their
sessions answer can be compared.
-/

namespace Walkthrough

/-- One thing that is seen of a run. -/
inductive Sighting (Session Element Datum Sinks : Type) : Type 1 where
  /-- A session has been asked to do something. -/
  | asked {β : Type} (session : Session) (command : Command Element Datum β)
  /-- Outside code that the flow was built from has been called. -/
  | called
  /-- An answer has arrived: a value, or what was thrown instead. -/
  | answered {β : Type} (answer : Except Thrown β)
  /-- A line has been handed to the logging action. -/
  | logged (sinks : Sinks) (message : String) (indent : Int)
  /-- A record has been handed to the log stream. -/
  | published (sinks : Sinks) (record : LogRecord)
  /-- The library has complained about something. -/
  | complained (severity : Severity) (message : String)
  /-- The run has asked for a pause. -/
  | slept (seconds : Rat)

/-- What is seen of the runs of a host. -/
abbrev Host.Sighting (H : Host) : Type 1 :=
  Walkthrough.Sighting H.Session H.Element H.Datum H.Sinks

variable {H : Host} {α β : Type}

/-- What is seen of a reply when a call hands it back. -/
def Reply.sightings {World Session Element Datum Sinks : Type} :
    Except Thrown (Reply World β) → List (Sighting Session Element Datum Sinks)
  | .error e => [.answered (.error e : Except Thrown β)]
  | .ok (.value b) => [.answered (.ok b)]
  | .ok (.awaitable _) => []

/-- What is seen of an effect and its answer. -/
def Effect.sightings : {β : Type} → Effect H β → Except Thrown β → List H.Sighting
  | _, .call session command, r => .asked session command :: Reply.sightings r
  | _, .code _, r => .called :: Reply.sightings r
  | _, .logLine sinks message indent, r => [.logged sinks message indent, .answered r]
  | _, .publish sinks record, r => [.published sinks record, .answered r]
  | _, .complain severity message, r => [.complained severity message, .answered r]

/-- What is seen of an event. The steps of a run are not seen. -/
def Event.sightings : Event H → List H.Sighting
  | started _ => []
  | ended _ => []
  | did e r => e.sightings r
  | slept t => [.slept t]
  | awaited _ r => [.answered r]

/-- What is seen of a run. -/
def History.sightings (h : History H α) : List H.Sighting := h.events.flatMap Event.sightings

@[simp] theorem History.sightings_after (h : History H α) (es : List (Event H)) :
    (h.after es).sightings = es.flatMap Event.sightings ++ h.sightings := by
  simp [History.sightings]

namespace Driver

/-- What a run goes on from when a call has handed back a reply: an answer that is not there yet is
awaited. -/
def settle (d : Driver H) : Except Thrown (Reply H.World β) → H.World → Except Thrown β × H.World
  | .error e, w => (.error e, w)
  | .ok (.value b), w => (.ok b, w)
  | .ok (.awaitable later), w => d.await later w

/-- What a run goes on from when it has called outside code. -/
def answer (d : Driver H) (code : Act H.World (Reply H.World β)) : Act H.World β := fun w =>
  d.settle (code w).1 (code w).2

end Driver

namespace Program

variable (d : Driver H)

/-- Settling a reply is seen as its answer, unless that was seen with the reply. -/
theorem settle_resolve (r : Except Thrown (Reply H.World β)) (w : H.World)
    (next : Except Thrown β → H.World → Program H α) (start : H.State) :
    let rest := (next (d.settle r w).1 (d.settle r w).2).history d start
    let h := (resolve r w next).history d start
    h.outcome = rest.outcome ∧ h.world = rest.world ∧
      Reply.sightings r ++ h.sightings = .answered (d.settle r w).1 :: rest.sightings := by
  -- only what is awaited adds an event, and only then has the reply shown nothing
  rcases r with e | reply
  · exact ⟨rfl, rfl, rfl⟩
  · cases reply with
    | value b => exact ⟨rfl, rfl, rfl⟩
    | awaitable later => exact ⟨rfl, rfl, rfl⟩

/-- After a call that leaves it a run goes on from the settled answer, which is seen once. -/
theorem answer_outside {e : Effect H (Reply H.World β)} {request : H.Sighting}
    (he : ∀ r, e.sightings r = request :: Reply.sightings r) (w : H.World)
    (next : Except Thrown β → H.World → Program H α) (start : H.State) :
    let answer := d.answer (H.perform e) w
    let rest := (next answer.1 answer.2).history d start
    let h := (outside e w next).history d start
    h.outcome = rest.outcome ∧ h.world = rest.world ∧
      h.sightings = request :: .answered answer.1 :: rest.sightings := by
  intro answer rest h
  obtain ⟨houtcome, hworld, hsightings⟩ :=
    settle_resolve d (H.perform e w).1 (H.perform e w).2 next start
  refine ⟨houtcome, hworld, ?_⟩
  calc
    h.sightings = e.sightings (H.perform e w).1 ++
        ((resolve (H.perform e w).1 (H.perform e w).2 next).history d start).sightings := rfl
    _ = request :: .answered answer.1 :: rest.sightings := by
      rw [he, List.cons_append, hsightings]
      rfl

end Program

end Walkthrough
