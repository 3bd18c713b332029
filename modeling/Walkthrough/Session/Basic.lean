import Walkthrough.Session.Dialogs
import Walkthrough.Session.Engine

/-!
# Sessions

A session holds what it has opened: the driver of the engine, a browser, a context, and the page
that has the focus. `Session.Work` is what a session does: it may look at and change what the
session holds, makes calls of the engine, and gives a value or a fault. A fault leaves what was
changed before it in place. Work comes in two flavours: `BlockingWork` blocks at each call, and
`AsyncWork` says of each call whether it awaits it.

`translating` turns the engine's own faults into refusals that say what the session was doing, and
`ensuring` does something last, whether or not the work before it fails.

Mirroring notes:
- The fields are those that `PlaywrightSession` sets when it is made: `_config`, `_playwright` (the
  driver), `_browser`, `_context`, `_page` and `dialogs`.
- `translating` is `_translate`, `currentPage` the property `page`, and `ensuring` a `try` with a
  `finally`.
- The engine raises one kind of fault of its own; kinds derived from it are not told apart.
-/

namespace Walkthrough

universe u

/-- A session: how its browser is launched, what it holds, and the dialogs of its pages. -/
structure Session (Handle : Type) where
  config : BrowserConfig := {}
  driver : Option Handle := none
  browser : Option Handle := none
  context : Option Handle := none
  /-- The page that has the focus. -/
  page : Option Handle := none
  dialogs : Dialogs := {}
  deriving DecidableEq

namespace Session

/-- What a session does, where it makes its calls in some way. -/
def Work (Call : Type → Type) (Handle α : Type) : Type 1 :=
  Session Handle → Conversation Call (Except Fault α × Session Handle)

/-- What a session does that blocks at each call. -/
abbrev BlockingWork (Handle α : Type) : Type 1 := Work (EngineCall Handle) Handle α

/-- What a session does that awaits its calls. -/
abbrev AsyncWork (Handle α : Type) : Type 1 := Work (AsyncCall Handle) Handle α

namespace Work

variable {Call : Type → Type} {Handle α β : Type}

/-- Gives a value. -/
def give (a : α) : Work Call Handle α := fun s => .done (.ok a, s)

/-- Fails. -/
def fail (f : Fault) : Work Call Handle α := fun s => .done (.error f, s)

/-- Some work, then the work made from its value. -/
def andThen (work : Work Call Handle α) (f : α → Work Call Handle β) : Work Call Handle β :=
  fun s => (work s).andThen fun
    | (.ok a, s) => f a s
    | (.error e, s) => .done (.error e, s)

/-- Some work, and other work if it fails. -/
def catching (work : Work Call Handle α) (handle : Fault → Work Call Handle α) :
    Work Call Handle α :=
  fun s => (work s).andThen fun
    | (.ok a, s) => .done (.ok a, s)
    | (.error e, s) => handle e s

instance : Monad (Work Call Handle) where
  pure := give
  bind := andThen

instance : MonadExceptOf Fault (Work Call Handle) where
  throw := fail
  tryCatch := catching

/-- What the session holds. -/
def held : Work Call Handle (Session Handle) := fun s => .done (.ok s, s)

/-- Changes what the session holds. -/
def change (f : Session Handle → Session Handle) : Work Call Handle Unit :=
  fun s => .done (.ok (), f s)

/-- Makes a call. -/
def ask (call : Call β) : Work Call Handle β := fun s =>
  .ask call fun answer => .done (answer, s)

/-- Makes a call of the engine and awaits it. -/
def await (call : EngineCall Handle β)
    (deferred : call.immediate = false := by exact Eq.refl false) : AsyncWork Handle β :=
  ask (.awaited call deferred)

/-- Makes a call of the engine that is answered at once. -/
def glance (call : EngineCall Handle β)
    (immediate : call.immediate = true := by exact Eq.refl true) : AsyncWork Handle β :=
  ask (.atOnce call immediate)

/-- Gives a warning. -/
def warn (message : String) : Work Call Handle Unit := fun s => .warn message (.done (.ok (), s))

/-- Refuses to go on. -/
def refuse (r : Refusal) : Work Call Handle α := fail r.toFault

/-- Goes on with a value, or refuses. -/
def expect : Except Refusal α → Work Call Handle α
  | .ok a => give a
  | .error r => refuse r

/-- Goes on with what was read from an answer, or fails. -/
def read : Except Fault α → Work Call Handle α
  | .ok a => give a
  | .error e => fail e

/-- Turns the engine's own faults into refusals that say what the session was doing. -/
def translating (action : String) (work : Work Call Handle α) : Work Call Handle α :=
  work.catching fun f =>
    if f.ofEngine then refuse (.engineFailed action f.text) else fail f

/-- Does something last, whether or not the work before it fails; if both fail, the last fault
counts. -/
def ensuring (work : Work Call Handle α) (last : Work Call Handle Unit) : Work Call Handle α :=
  fun s => (work s).andThen fun (result, s) =>
    (last s).andThen fun
      | (.ok (), s) => .done (result, s)
      | (.error e, s) => .done (.error e, s)

/-- Does a call with something the session may hold. -/
def withHeld (handle : Option Handle) (call : Handle → Call Unit) : Work Call Handle Unit :=
  match handle with
  | none => give ()
  | some h => ask (call h)

/-- The page that has the focus. -/
def currentPage : Work Call Handle Handle := do
  match (← held).page with
  | some page => give page
  | none => refuse .notStarted

end Work

end Session

end Walkthrough
