import Walkthrough.Rehearsal.Engine
import Walkthrough.Rehearsal.Report.Basic

/-!
# Reports of a rehearsed session

The calls that a session made of the scripted engine, and what its steps gave, as plain data.
-/

namespace Walkthrough.Rehearsal.Report

/-- The name of what the scripted engine hands out. -/
def pieceName : Piece → String
  | .driver => "driver"
  | .browser => "browser"
  | .context _ => "context"
  | .page _ n => Stage.pageName n
  | .inspector => "cdp"
  | .dialog => "dialog"
  | .element name => name

/-- What the scripted engine hands out. -/
def piece (p : Piece) : Report := .map [("el", .text (pieceName p))]

mutual

/-- What scripts take and give. -/
def datum : Datum Piece → Report
  | .null => .null
  | .bool b => .bool b
  | .int i => .int i
  | .real r => .real r
  | .text s => .text s
  | .list items => .list (data items)
  | .map entries => .map (datumEntries entries)
  | .atom p => piece p

/-- Several things that scripts take and give. -/
def data : List (Datum Piece) → List Report
  | [] => []
  | d :: ds => datum d :: data ds

/-- The entries of a map that scripts take and give. -/
def datumEntries : List (String × Datum Piece) → List (String × Report)
  | [] => []
  | (k, d) :: rest => (k, datum d) :: datumEntries rest

end

/-- How a browser is launched. -/
def launchOptions (o : LaunchOptions) : Report :=
  .map ([("headless", .bool o.headless), ("slow_mo", .real o.slowMotion)] ++
    (if o.flags.isEmpty then [] else [("args", texts o.flags)]))

/-- The configuration of a browser. -/
def browserConfig (c : BrowserConfig) : Report :=
  .map [("engine", .text c.engine.name), ("headless", .bool c.headless),
    ("width", .int c.viewportWidth), ("height", .int c.viewportHeight),
    ("slow_mo", .real c.slowMotion)]

/-- What a call is made of, and its arguments. -/
def callParts {β : Type} (call : EngineCall Piece β) : String × List Report :=
  let on (p : Piece) (arguments : List Report) : String × List Report := (pieceName p, arguments)
  match call with
  | .start => on .driver []
  | .launch _ engine options => (engine.name, [launchOptions options])
  | .newContext b viewport => on b [.map [("viewport", size viewport)]]
  | .watchPages context => on context [.text "page"]
  | .closeContext context => on context []
  | .closeBrowser b => on b []
  | .stopDriver d => on d []
  | .newPage context => on context []
  | .contextOf page => on page []
  | .pages context => on context []
  | .url page => on page []
  | .bringToFront page => on page []
  | .closePage page => on page []
  | .goto page url => on page [.text url, .map [("wait_until", .text "load")]]
  | .goBack page => on page []
  | .goForward page => on page []
  | .reload page => on page []
  | .setViewport page extent => on page [size extent]
  | .evaluate target script given => on target (.text script :: (given.map datum).toList)
  | .expectPopup page => on page []
  | .popup page => on page []
  | .newInspector context page => on context [piece page]
  | .send i message given => on i (.text message :: (given.map datum).toList)
  | .detach i => on i []
  | .queryAll root locator => on root [.text locator]
  | .innerText e => on e []
  | .getAttribute e name => on e [.text name]
  | .click e => on e []
  | .type e keys => on e [.text keys]
  | .fill e text => on e [.text text]
  | .selectLabel e label => on e [.map [("label", .text label)]]
  | .selectValue e value => on e [.map [("value", .text value)]]
  | .isEnabled e => on e []
  | .isVisible e => on e []
  | .boundingBox e => on e []
  | .acceptDialog d text => on d (text.map Document.text).toList
  | .dismissDialog d => on d []

/-- Something that the scripted engine wrote down. -/
def noted : Noted → Report
  | .call call =>
    let (target, arguments) := callParts call
    .list ([.text target, .text (callWord call)] ++ arguments)
  | .watched page => texts [pieceName page, "on", "dialog"]

/-- What the engine and the session are like after a step. -/
def scene (session : Session Piece) (stage : Stage) : List (String × Report) :=
  [("calls", .list (stage.noted.reverse.map noted)),
    ("logged", .list (stage.warnings.reverse.map (complaint .warning))),
    ("page", textOrNull (session.page.map pieceName)),
    ("pages", ((stage.latestPages).map fun ps => texts (ps.map pieceName)).getD .null),
    ("alert", .bool session.dialogs.present)]

end Walkthrough.Rehearsal.Report
