import Walkthrough.Rehearsal.Page
import Walkthrough.Session.Turn

/-!
# A scripted browser engine

An engine that writes every call down and answers it as a script says: each kind of call has a queue
of answers, which may also be faults, and a call without one is answered by nothing. Calls that open
or close something do so unless their answer is a fault. Pages are numbered in each context from
zero on.

`SessionStep.play` lets a session do one step with such an engine, either blocking or awaiting its
calls.
-/

namespace Walkthrough.Rehearsal

/-- What the scripted engine hands out. -/
inductive Piece where
  | driver
  | browser
  | context (n : Nat)
  | page (context n : Nat)
  | inspector
  | dialog
  | element (name : String)
  deriving DecidableEq, Repr, Inhabited

/-- What the scripted engine wrote down: a call, or that the dialogs of a page are reported from
now on. -/
inductive Noted where
  | call {β : Type} (call : EngineCall Piece β)
  | watched (page : Piece)

/-- A context of the scripted engine. -/
structure PageContext where
  /-- How many pages it has opened. -/
  opened : Nat := 0
  /-- The numbers of the open pages. -/
  pages : List Nat := []
  /-- Whether the dialogs of its pages are reported. -/
  watched : Bool := false
  deriving Inhabited

/-- A scripted engine. -/
structure Stage where
  /-- The answers to each kind of call. -/
  answers : List (String × Queue (Except Fault (Datum Piece))) := []
  /-- What was written down, the latest first. -/
  noted : List Noted := []
  /-- The warnings that were given, the latest first. -/
  warnings : List String := []
  contexts : List PageContext := []

/-- The word for a call. -/
def callWord {β : Type} : EngineCall Piece β → String
  | .start => "start"
  | .launch .. => "launch"
  | .newContext .. => "new_context"
  | .watchPages _ => "on"
  | .closeContext _ => "close"
  | .closeBrowser _ => "close"
  | .stopDriver _ => "stop"
  | .newPage _ => "new_page"
  | .contextOf _ => "context"
  | .pages _ => "pages"
  | .url _ => "url"
  | .bringToFront _ => "bring_to_front"
  | .closePage _ => "close"
  | .goto .. => "goto"
  | .goBack _ => "go_back"
  | .goForward _ => "go_forward"
  | .reload _ => "reload"
  | .setViewport .. => "set_viewport_size"
  | .evaluate .. => "evaluate"
  | .expectPopup _ => "expect_popup"
  | .popup _ => "popup"
  | .newInspector .. => "new_cdp_session"
  | .send .. => "send"
  | .detach _ => "detach"
  | .queryAll .. => "query_selector_all"
  | .innerText _ => "inner_text"
  | .getAttribute .. => "get_attribute"
  | .click _ => "click"
  | .type .. => "type"
  | .fill .. => "fill"
  | .selectLabel .. => "select_option"
  | .selectValue .. => "select_option"
  | .isEnabled _ => "is_enabled"
  | .isVisible _ => "is_visible"
  | .boundingBox _ => "bounding_box"
  | .acceptDialog .. => "accept"
  | .dismissDialog _ => "dismiss"

namespace Stage

/-- Writes something down. -/
def note (s : Stage) (n : Noted) : Stage := { s with noted := n :: s.noted }

/-- Takes the next answer to a kind of call. -/
def take (s : Stage) (word : String) : Except Fault (Datum Piece) × Stage :=
  match s.answers.lookup word with
  | none => (.ok .null, s)
  | some queue =>
    let (answer, rest) := queue.take
    let answers := s.answers.map fun entry => if entry.1 == word then (word, rest) else entry
    (answer.getD (.ok .null), { s with answers })

/-- Writes a call down, takes its answer, and goes on unless that is a fault. -/
def respond {α β : Type} (s : Stage) (call : EngineCall Piece β)
    (next : Datum Piece → Stage → Except Fault α × Stage) : Except Fault α × Stage :=
  match (s.note (.call call)).take (callWord call) with
  | (.ok answer, s) => next answer s
  | (.error f, s) => (.error f, s)

/-- Opens a page in a context. -/
def openPage (s : Stage) (n : Nat) : Except Fault Piece × Stage :=
  let context := (s.contexts[n]?).getD {}
  let page := Piece.page n context.opened
  let s := { s with contexts := s.contexts.modify n fun c =>
    { c with opened := c.opened + 1, pages := c.pages ++ [c.opened] } }
  (.ok page, if context.watched then s.note (.watched page) else s)

/-- Closes a page. -/
def closePage (s : Stage) : Piece → Stage
  | .page n page =>
    { s with contexts := s.contexts.modify n fun c => { c with pages := c.pages.erase page } }
  | _ => s

/-- The context that a piece is, or that it belongs to. -/
def contextNumber : Piece → Nat
  | .context n => n
  | .page n _ => n
  | _ => 0

/-- The open pages of a context. -/
def pagesOf (s : Stage) (n : Nat) : List Piece :=
  ((s.contexts[n]?).getD {}).pages.map (Piece.page n)

/-- The name of a page among the pages of its context. -/
def pageName (page : Nat) : String := "page" ++ toString page

/-- The address of a page. -/
def urlOf : Piece → Datum Piece
  | .page _ n => .text ("url of " ++ pageName n)
  | _ => .null

/-- What becomes of a call. -/
def answer {β : Type} (call : EngineCall Piece β) (s : Stage) : Except Fault β × Stage :=
  let silent : Except Fault Unit × Stage := s.respond call fun _ s => (.ok (), s)
  let reading : Except Fault (Datum Piece) × Stage := s.respond call fun d s => (.ok d, s)
  let opening (piece : Piece) : Except Fault Piece × Stage :=
    s.respond call fun _ s => (.ok piece, s)
  match call with
  | .start => opening .driver
  | .launch .. => opening .browser
  | .newContext .. => s.respond call fun _ s =>
    (.ok (.context s.contexts.length), { s with contexts := s.contexts ++ [{}] })
  | .watchPages context =>
    let s := s.note (.call call)
    (.ok (), { s with
      contexts := s.contexts.modify (contextNumber context) fun c => { c with watched := true } })
  | .closeContext _ => silent
  | .closeBrowser _ => silent
  | .stopDriver _ => silent
  | .newPage context => s.respond call fun _ s => s.openPage (contextNumber context)
  | .contextOf page => (.ok (.context (contextNumber page)), s)
  | .pages context => (.ok (s.pagesOf (contextNumber context)), s)
  | .url page => (.ok (urlOf page), s)
  | .bringToFront _ => silent
  | .closePage page => s.respond call fun _ s => (.ok (), s.closePage page)
  | .goto .. => silent
  | .goBack _ => silent
  | .goForward _ => silent
  | .reload _ => silent
  | .setViewport .. => silent
  | .evaluate .. => reading
  | .expectPopup _ => silent
  | .popup page => s.openPage (contextNumber page)
  | .newInspector .. => opening .inspector
  | .send .. => reading
  | .detach _ => silent
  | .queryAll .. => reading
  | .innerText _ => reading
  | .getAttribute .. => reading
  | .click _ => silent
  | .type .. => silent
  | .fill .. => silent
  | .selectLabel .. => silent
  | .selectValue .. => silent
  | .isEnabled _ => reading
  | .isVisible _ => reading
  | .boundingBox _ => reading
  | .acceptDialog .. => silent
  | .dismissDialog _ => silent

/-- The pages of the latest context, if there is one. -/
def latestPages (s : Stage) : Option (List Piece) :=
  if s.contexts.isEmpty then none else some (s.pagesOf (s.contexts.length - 1))

/-- A context that has opened some pages already. -/
def withPages (s : Stage) (count : Nat) : Stage :=
  { s with contexts := s.contexts ++ [{ opened := count, pages := List.range count }] }

end Stage

/-- The scripted engine. -/
def engine : Engine Piece Stage where
  answer := Stage.answer
  warn message s := { s with warnings := message :: s.warnings }

/-- One step of a rehearsed session. -/
inductive SessionStep where
  | turn (t : Turn Piece)
  /-- The session finds itself on the last page of a context. -/
  | pages (count : Nat)
  /-- Dialogs are accepted from now on, or dismissed. -/
  | accept (accepted : Bool)
  /-- The page that has the focus is asked for. -/
  | page

/-- The step that does a command. -/
def SessionStep.command {β : Type} (c : Command Piece (Datum Piece) β) : SessionStep :=
  turn (.command c)

/-- What a step has the session do, where `turn` says what it does in a turn. -/
def SessionStep.work {Call : Type → Type}
    (turn : Turn Piece → Session.Work Call Piece (Datum Piece)) :
    SessionStep → Session.Work Call Piece (Datum Piece)
  | .turn t => turn t
  | pages _ => pure .null
  | accept accepted => Session.silently
    (Session.Work.change fun s => { s with dialogs := { s.dialogs with accept := accepted } })
  | page => do return .atom (← Session.Work.currentPage)

/-- Sets the scene for a step. -/
def SessionStep.prepare (step : SessionStep) (session : Session Piece) (stage : Stage) :
    Session Piece × Stage :=
  match step with
  | pages count =>
    let stage := stage.withPages count
    ({ session with page := ((stage.latestPages).getD []).getLast? }, stage)
  | _ => (session, stage)

/-- Lets a session do a step. -/
def SessionStep.play (step : SessionStep) (awaited : Bool) (session : Session Piece)
    (stage : Stage) : (Except Fault (Datum Piece) × Session Piece) × Stage :=
  let (session, stage) := step.prepare session stage
  if awaited then Session.runAsync engine (step.work Turn.asyncWork) session stage
  else Session.run engine (step.work Turn.work) session stage

end Walkthrough.Rehearsal
