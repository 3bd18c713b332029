import Walkthrough.Session.Async.Perform

/-!
# The life of a session

A session lives by turns: it is started, does commands, answers the dialogs that open on its pages,
and is stopped. A turn that fails leaves the session as it then is, and the next one goes on from
there. `Session.live` has the turns done by blocking code, `Session.liveAsync` by code that awaits
its calls.

Mirroring notes:
- There is no loop over turns in the library: a life is whatever the caller of a session does with
  it, and whatever dialogs open meanwhile. A session whose call is being awaited holds its fields,
  so a dialog that opens then comes after the call here.
-/

namespace Walkthrough

universe u

/-- What happens to a session. -/
inductive Turn (Handle : Type) : Type 1 where
  | start
  | stop
  | command {β : Type} (c : Command Handle (Datum Handle) β)
  | dialogOpens (dialog : Handle) (message : String)

namespace Turn

variable {Handle : Type} {World : Type u} [DecidableEq Handle]

/-- What a session does in a turn, blocking at each call. -/
def work : Turn Handle → Session.BlockingWork Handle (Datum Handle)
  | start => Session.silently Session.start
  | stop => Session.silently Session.stop
  | command c => Session.perform c
  | dialogOpens dialog message => Session.silently (Session.dialogOpens dialog message)

/-- What a session does in a turn, awaiting its calls. -/
def asyncWork : Turn Handle → Session.AsyncWork Handle (Datum Handle)
  | start => Session.silently Session.Async.start
  | stop => Session.silently Session.Async.stop
  | command c => Session.Async.perform c
  | dialogOpens dialog message => Session.silently (Session.Async.dialogOpens dialog message)

end Turn

namespace Session

variable {Handle α : Type} {World : Type u}

/-- Does some work with an engine, blocking at each call. -/
def run (E : Engine Handle World) (work : BlockingWork Handle α) (s : Session Handle) (w : World) :
    (Except Fault α × Session Handle) × World :=
  (work s).block E w

/-- Does some work with an engine, awaiting its calls. -/
def runAsync (E : Engine Handle World) (work : AsyncWork Handle α) (s : Session Handle)
    (w : World) : (Except Fault α × Session Handle) × World :=
  ((work s).suspend E w).finish

/-- What each of several turns gives, with the session and the world that are left. -/
def following {τ : Type _}
    (turn : τ → Session Handle → World → (Except Fault α × Session Handle) × World) :
    List τ → Session Handle → World → List (Except Fault α) × Session Handle × World
  | [], s, w => ([], s, w)
  | t :: ts, s, w =>
    let ((answer, s), w) := turn t s w
    let (answers, s, w) := following turn ts s w
    (answer :: answers, s, w)

/-- The life of a session that blocks at each call. -/
def live [DecidableEq Handle] (E : Engine Handle World) :
    List (Turn Handle) → Session Handle → World →
      List (Except Fault (Datum Handle)) × Session Handle × World :=
  following fun t => run E t.work

/-- The life of a session that awaits its calls. -/
def liveAsync [DecidableEq Handle] (E : Engine Handle World) :
    List (Turn Handle) → Session Handle → World →
      List (Except Fault (Datum Handle)) × Session Handle × World :=
  following fun t => runAsync E t.asyncWork

end Session

end Walkthrough
