import Walkthrough.Criterion
import Walkthrough.Document
import Walkthrough.Session.Launch
import Walkthrough.Session.Refusal

/-!
# The browser engine

What a session asks of the engine behind it, and the code of a session as a tree of such calls.

Everything that the engine hands out (its driver, browsers, contexts, pages, inspectors, elements,
dialogs) is a `Handle`; what scripts and elements answer is a document with handles in it. Some
calls are answered at once in every flavour of the engine; the others may have to be awaited.

A `Conversation` is code that still has calls to make. The calls of blocking code are those of the
engine, and `Conversation.block` makes each of them and goes on with the answer. Asynchronous code
makes an `AsyncCall`, which says whether it is awaited: `Conversation.suspend` stops at each call
that is, and the code is resumed with what the call gave. `finish_suspend` says that this comes to
the same end as blocking at each call.

Mirroring notes:
- A call of the engine is a method of the driver, of a browser, a context, a page, an element or a
  dialog that a method of `PlaywrightSession` calls. What the engine does is a parameter (`Engine`),
  and a session is written for any answers.
- `expectPopup` and `popup` are the two ends of the block around the opening of a window.
- `AsyncCall` keeps which calls `AsyncPlaywrightSession` awaits.
-/

namespace Walkthrough

universe u

/-- What scripts on a page take and give, and what elements answer. -/
abbrev Datum (Handle : Type) : Type := Document Handle

/-- What a session asks of the engine, with the type of the answer. -/
inductive EngineCall (Handle : Type) : Type → Type where
  /-- Starts the driver of the engine. -/
  | start : EngineCall Handle Handle
  /-- Launches a browser. -/
  | launch (driver : Handle) (engine : BrowserEngine) (options : LaunchOptions) :
      EngineCall Handle Handle
  /-- Opens a context for pages with a viewport of some extent. -/
  | newContext (browser : Handle) (viewport : Size) : EngineCall Handle Handle
  /-- Has the dialogs of every page that the context opens from now on reported. -/
  | watchPages (context : Handle) : EngineCall Handle Unit
  | closeContext (context : Handle) : EngineCall Handle Unit
  | closeBrowser (browser : Handle) : EngineCall Handle Unit
  | stopDriver (driver : Handle) : EngineCall Handle Unit
  | newPage (context : Handle) : EngineCall Handle Handle
  /-- The context of a page. -/
  | contextOf (page : Handle) : EngineCall Handle Handle
  /-- The open pages of a context, in the order in which they were opened. -/
  | pages (context : Handle) : EngineCall Handle (List Handle)
  | url (page : Handle) : EngineCall Handle (Datum Handle)
  | bringToFront (page : Handle) : EngineCall Handle Unit
  | closePage (page : Handle) : EngineCall Handle Unit
  /-- Opens an address and waits until it is loaded. -/
  | goto (page : Handle) (url : String) : EngineCall Handle Unit
  | goBack (page : Handle) : EngineCall Handle Unit
  | goForward (page : Handle) : EngineCall Handle Unit
  | reload (page : Handle) : EngineCall Handle Unit
  | setViewport (page : Handle) (extent : Size) : EngineCall Handle Unit
  /-- Runs a script on a page or on an element. -/
  | evaluate (target : Handle) (script : String) (argument : Option (Datum Handle)) :
      EngineCall Handle (Datum Handle)
  /-- Gets ready for a page that the page is going to open. -/
  | expectPopup (page : Handle) : EngineCall Handle Unit
  /-- The page that a page has opened. -/
  | popup (page : Handle) : EngineCall Handle Handle
  /-- Opens an inspector of a page. -/
  | newInspector (context page : Handle) : EngineCall Handle Handle
  /-- Sends a message to an inspector. -/
  | send (inspector : Handle) (message : String) (parameters : Option (Datum Handle)) :
      EngineCall Handle (Datum Handle)
  | detach (inspector : Handle) : EngineCall Handle Unit
  /-- The elements inside a page or an element that a locator finds. -/
  | queryAll (root : Handle) (locator : String) : EngineCall Handle (Datum Handle)
  | innerText (element : Handle) : EngineCall Handle (Datum Handle)
  | getAttribute (element : Handle) (name : String) : EngineCall Handle (Datum Handle)
  | click (element : Handle) : EngineCall Handle Unit
  | type (element : Handle) (keys : String) : EngineCall Handle Unit
  | fill (element : Handle) (text : String) : EngineCall Handle Unit
  | selectLabel (element : Handle) (label : String) : EngineCall Handle Unit
  | selectValue (element : Handle) (value : String) : EngineCall Handle Unit
  | isEnabled (element : Handle) : EngineCall Handle (Datum Handle)
  | isVisible (element : Handle) : EngineCall Handle (Datum Handle)
  | boundingBox (element : Handle) : EngineCall Handle (Datum Handle)
  /-- Accepts a dialog, typing a text into it if one is given. -/
  | acceptDialog (dialog : Handle) (text : Option String) : EngineCall Handle Unit
  | dismissDialog (dialog : Handle) : EngineCall Handle Unit

/-- Whether a call is answered at once in every flavour of the engine. -/
@[reducible] def EngineCall.immediate {Handle β : Type} : EngineCall Handle β → Bool
  | watchPages _ => true
  | contextOf _ => true
  | pages _ => true
  | url _ => true
  | expectPopup _ => true
  | _ => false

/-- A browser engine: what becomes of each call in a world. -/
structure Engine (Handle : Type) (World : Type u) where
  answer : {β : Type} → EngineCall Handle β → World → Except Fault β × World
  /-- Writes a warning of the library down. -/
  warn : String → World → World

/-- A call as code makes it that must not hold everything else up: what is answered at once is
simply asked for, and everything else is awaited. -/
inductive AsyncCall (Handle β : Type) where
  | atOnce (call : EngineCall Handle β) (immediate : call.immediate = true)
  | awaited (call : EngineCall Handle β) (deferred : call.immediate = false)

/-- The call itself. -/
def AsyncCall.call {Handle β : Type} : AsyncCall Handle β → EngineCall Handle β
  | atOnce call _ => call
  | awaited call _ => call

/-- Code that still has calls to make, and warnings to give. -/
inductive Conversation (Call : Type → Type) (ρ : Type) : Type 1 where
  | done (result : ρ)
  | ask {β : Type} (call : Call β) (next : Except Fault β → Conversation Call ρ)
  | warn (message : String) (next : Conversation Call ρ)

/-- Code that has been started with an engine whose calls are awaited. -/
inductive Suspended (World : Type u) (ρ : Type) : Type (max 1 u) where
  | ended (result : ρ) (world : World)
  | awaiting {β : Type} (code : World → Except Fault β × World) (world : World)
      (resume : Except Fault β → World → Suspended World ρ)

namespace Conversation

variable {Handle ρ σ : Type} {World : Type u} {Call Call' : Type → Type}

/-- Makes each call and goes on with the answer. -/
def block (E : Engine Handle World) : Conversation (EngineCall Handle) ρ → World → ρ × World
  | done r, w => (r, w)
  | ask call next, w => block E (next (E.answer call w).1) (E.answer call w).2
  | warn message next, w => block E next (E.warn message w)

/-- Stops at each call that is awaited. -/
def suspend (E : Engine Handle World) :
    Conversation (AsyncCall Handle) ρ → World → Suspended World ρ
  | done r, w => .ended r w
  | ask call next, w =>
    match call with
    | .atOnce call _ => suspend E (next (E.answer call w).1) (E.answer call w).2
    | .awaited call _ => .awaiting (E.answer call) w fun answer w => suspend E (next answer) w
  | warn message next, w => suspend E next (E.warn message w)

/-- Some code, then the code made from its result. -/
def andThen : Conversation Call ρ → (ρ → Conversation Call σ) → Conversation Call σ
  | done r, f => f r
  | ask call next, f => ask call fun answer => andThen (next answer) f
  | warn message next, f => warn message (andThen next f)

/-- The same code with each call made in another way. -/
def mapCalls (f : {β : Type} → Call β → Call' β) : Conversation Call ρ → Conversation Call' ρ
  | done r => done r
  | ask call next => ask (f call) fun answer => mapCalls f (next answer)
  | warn message next => warn message (mapCalls f next)

end Conversation

/-- Awaits each call and resumes the code with what it gave. -/
def Suspended.finish {World : Type u} {ρ : Type} : Suspended World ρ → ρ × World
  | ended r w => (r, w)
  | awaiting code w resume => finish (resume (code w).1 (code w).2)

namespace Conversation

variable {Handle ρ σ τ : Type} {World : Type u} {Call Call' : Type → Type}

/-! ## Laws -/

theorem andThen_assoc (c : Conversation Call ρ) (f : ρ → Conversation Call σ)
    (g : σ → Conversation Call τ) :
    (c.andThen f).andThen g = c.andThen fun r => (f r).andThen g := by
  induction c with
  | done r => rfl
  | ask call next ih => simp [andThen, ih]
  | warn message next ih => simp [andThen, ih]

/-- Blocking code in two parts is blocking code one part after the other. -/
theorem block_andThen (E : Engine Handle World) (c : Conversation (EngineCall Handle) ρ)
    (f : ρ → Conversation (EngineCall Handle) σ) (w : World) :
    (c.andThen f).block E w = (f (c.block E w).1).block E (c.block E w).2 := by
  induction c generalizing w with
  | done r => rfl
  | ask call next ih => exact ih _ _
  | warn message next ih => exact ih _

theorem mapCalls_andThen (f : {β : Type} → Call β → Call' β) (c : Conversation Call ρ)
    (g : ρ → Conversation Call σ) :
    (c.andThen g).mapCalls f = (c.mapCalls f).andThen fun r => (g r).mapCalls f := by
  induction c with
  | done r => rfl
  | ask call next ih => simp [andThen, mapCalls, ih]
  | warn message next ih => simp [andThen, mapCalls, ih]

/-- Code that is suspended and resumed comes to the same end as the code that blocks where it
awaits. -/
theorem finish_suspend (E : Engine Handle World) (c : Conversation (AsyncCall Handle) ρ)
    (w : World) : (c.suspend E w).finish = (c.mapCalls AsyncCall.call).block E w := by
  induction c generalizing w with
  | done r => rfl
  | ask call next ih =>
    cases call with
    | atOnce call immediate => exact ih _ _
    | awaited call deferred => exact ih _ _
  | warn message next ih => exact ih _

end Conversation

end Walkthrough
