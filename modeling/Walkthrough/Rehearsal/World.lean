import Walkthrough.Channel
import Walkthrough.Console
import Walkthrough.Rehearsal.Page

/-!
# The world of a rehearsal

Everything outside of the flows of a rehearsal: a clock in microseconds, the trace of what happened,
named counters, the pages of the sessions, and the channels of log records. `host` is the host that
rehearsed flows run under; its time is kept in doubles.

A pause moves the clock by its length rounded up to microseconds, and by one at least.
-/

namespace Walkthrough.Rehearsal

/-- Something that happened in a rehearsal. -/
inductive Event where
  | sleep (micros : Int)
  | log (message : String) (indent : Int)
  | record (record : LogRecord)
  | failure (f : Failure) (lines : List String)
  | error (text : String)
  | complaint (severity : Severity) (message : String)
  | call (session method : String) (arguments : List Value)
  | emit (value : Value)

/-- Who listens to a channel of log records. -/
inductive Listener where
  /-- The trace. -/
  | trace
  /-- The console. -/
  | console
  deriving DecidableEq, Repr

/-- Everything outside of the flows of a rehearsal. -/
structure World where
  clock : Int := 0
  /-- What happened, the latest first. -/
  happened : List Event := []
  counters : List (String × Int) := []
  pages : List (String × Page) := []
  channels : List (Channel Listener) := []
  /-- What was printed on the console, the latest first. -/
  printed : List String := []
  /-- What was told on the console beside that, the latest first. -/
  told : List String := []

/-- Code outside of the flows of a rehearsal. -/
abbrev Code (α : Type) : Type := Act World α

/-- The precision of a rehearsal. -/
def precision : Precision := .double

/-- A number of seconds in microseconds, rounded up. -/
def microsUp (seconds : Rat) : Int := (precision.round (seconds * 1000000)).ceil

/-- A number of seconds in microseconds, to the nearest. -/
def microsNear (seconds : Rat) : Int :=
  (precision.round (precision.round (seconds * 1000000) + 1 / 2)).floor

namespace World

/-- Writes down that something happened. -/
def happen (w : World) (e : Event) : World := { w with happened := e :: w.happened }

/-- What happened, the earliest first. -/
def events (w : World) : List Event := w.happened.reverse

/-- Prints a text on the console. -/
def print (w : World) (text : String) : World := { w with printed := text :: w.printed }

/-- The lines that the console shows. -/
def consoleLines (w : World) : List String := w.printed.reverse.flatMap Console.lines

/-- The lines that were told on the console beside that. -/
def toldLines (w : World) : List String := w.told.reverse.flatMap Console.lines

/-- Moves the clock. -/
def advance (w : World) (seconds : Rat) : World := { w with clock := w.clock + microsUp seconds }

/-- The reading of the clock, in seconds. -/
def now (w : World) : Rat := precision.round (precision.round w.clock / 1000000)

/-- Pauses. -/
def sleep (seconds : Rat) (w : World) : World :=
  let w := w.happen (.sleep (microsNear seconds))
  { w with clock := w.clock + max 1 (microsUp seconds) }

/-- Adds one to a named counter. -/
def count (w : World) (name : String) : Int × World :=
  let n := (w.counters.lookup name).getD 0 + 1
  (n, { w with counters := (name, n) :: w.counters.filter fun c => c.1 != name })

/-- The page of a session. -/
def page (w : World) (session : String) : Page := (w.pages.lookup session).getD default

/-- Changes the page of a session. -/
def setPage (w : World) (session : String) (p : Page) : World :=
  { w with pages := w.pages.map fun entry => if entry.1 == session then (session, p) else entry }

/-- Makes a channel of log records with these listeners. -/
def openChannel (w : World) (listeners : List Listener) : Nat × World :=
  (w.channels.length, { w with channels := w.channels ++ [⟨listeners⟩] })

/-- Changes a channel of log records. -/
def changeChannel (w : World) (n : Nat) (f : Channel Listener → Channel Listener) : World :=
  { w with channels := w.channels.modify n f }

end World

/-- The word for a command, and its arguments as the trace shows them. -/
def commandWords {β : Type} : Command ElementHandle Value β → String × List Value
  | .findElements criterion within =>
    ("find_elements", [.text criterion.describe, (within.map Value.element).getD .null])
  | .navigate url => ("navigate", [.text url])
  | .currentUrl => ("current_url", [])
  | .setWindowSize width height => ("set_window_size", [.int width, .int height])
  | .setWindowPosition x y => ("set_window_position", [.int x, .int y])
  | .maximiseWindow => ("maximise_window", [])
  | .newTab => ("new_tab", [])
  | .newWindow => ("new_window", [])
  | .switchTab position => ("switch_tab", [.int position])
  | .closeTab => ("close_tab", [])
  | .back => ("back", [])
  | .forward => ("forward", [])
  | .refresh => ("refresh", [])
  | .executeScript script arguments => ("execute_script", .text script :: arguments)
  | .text e => ("text", [.element e])
  | .attribute e name => ("attribute", [.element e, .text name])
  | .style e property => ("style", [.element e, .text property])
  | .click e => ("click", [.element e])
  | .sendKeys e keys => ("send_keys", [.element e, .text keys])
  | .clear e => ("clear", [.element e])
  | .selectByText e option => ("select_by_text", [.element e, .text option])
  | .selectByValue e option => ("select_by_value", [.element e, .text option])
  | .selectedOptionText e => ("selected_option_text", [.element e])
  | .selectedOptionValue e => ("selected_option_value", [.element e])
  | .tagName e => ("tag_name", [.element e])
  | .isEnabled e => ("is_enabled", [.element e])
  | .isSelected e => ("is_selected", [.element e])
  | .isDisplayed e => ("is_displayed", [.element e])
  | .location e => ("location", [.element e])
  | .size e => ("size", [.element e])
  | .elementId e => ("element_id", [.element e])
  | .alertPresent => ("alert_present", [])
  | .alertText => ("alert_text", [])
  | .acceptAlert => ("accept_alert", [])
  | .dismissAlert => ("dismiss_alert", [])
  | .alertSendKeys keys => ("alert_send_keys", [.text keys])
  | .quit => ("quit", [])

/-- What comes with every call of a session: it is written down, takes its time, and fails when the
page says so. -/
def beginCall (session method : String) (arguments : List Value) : Code Unit := fun w =>
  let w := w.happen (.call session method arguments)
  let p := w.page session
  let p := if method == "find_elements" then { p with lookups := p.lookups + 1 } else p
  let w := w.advance ((p.delays.lookup method).getD 0)
  match p.failing.lookup method with
  | none => (.ok (), w.setPage session p)
  | some queue =>
    let (entry, rest) := queue.take
    let failing := p.failing.map fun f => if f.1 == method then (method, rest) else f
    let w := w.setPage session { p with failing }
    match entry with
    | some (some e) => (.error e, w)
    | _ => (.ok (), w)

/-- Looks elements up on the page of a session, or inside an element of any page. -/
def findElements (session : String) (criterion : Criterion) (within : Option ElementHandle) :
    Code (List ElementHandle) := fun w =>
  let root := within.getD ⟨session, 0⟩
  let found := (w.page root.session).search criterion root.number (w.page session).lookups
  (.ok (found.map fun n => ⟨root.session, n⟩), w)

/-- The session whose page a command is about: the one that its element stands on. -/
def subject {β : Type} (session : String) (c : Command ElementHandle Value β) : String :=
  match (commandWords c).2 with
  | .element e :: _ => e.session
  | _ => session

/-- Does what a session is asked for, at once. -/
def perform {β : Type} (session : String) (c : Command ElementHandle Value β) : Code β :=
  let words := commandWords c
  Act.andThen (beginCall session words.1 words.2) fun _ =>
    match c with
    | .findElements criterion within => findElements session criterion within
    | c => fun w =>
      let owner := subject session c
      let (answer, p) := (w.page owner).answer c
      (answer, w.setPage owner p)

/-- Asks a session for something. -/
def call {β : Type} (session : String) (c : Command ElementHandle Value β) :
    Code (Reply World β) := fun w =>
  if (w.page session).asynchronous then (.ok (.awaitable (perform session c)), w)
  else (perform session c).map Reply.value w

/-- What breaks when a sink breaks. -/
def sinkBroke (text : String) : Thrown := .fault ⟨"RuntimeError", text⟩

/-- Hands a message to the logging action. -/
def logLine (sinks : Sinks) (message : String) (indent : Int) : Code Unit := fun w =>
  if sinks.logging then
    let w := w.happen (.log message indent)
    if sinks.breaksOn = some message then (.error (sinkBroke "sink broke"), w) else (.ok (), w)
  else (.ok (), w)

/-- Delivers a record to a listener. -/
def deliver (record : LogRecord) : Listener → Code Unit
  | .trace => fun w => (.ok (), w.happen (.record record))
  | .console => fun w => (.ok (), w.print record.render)

/-- Publishes a record on the channel of the sinks. -/
def publish (sinks : Sinks) (record : LogRecord) : Code Unit := fun w =>
  Channel.publish (m := Act World) ((w.channels[sinks.channel]?).getD {}) (deliver record) w

/-- Publishes a failure on the failure stream. -/
def publishFailure (sinks : Sinks) (f : Failure) : Code Unit := fun w =>
  (.ok (), if sinks.heard then w.happen (.error f.text) else w)

/-- Hands the failure that ends a run to the failure action. -/
def reportFailure (sinks : Sinks) (f : Failure) (log : Log) : Code Unit := fun w =>
  match sinks.failures with
  | .record => (.ok (), w.happen (.failure f log.lines))
  | .breakDown =>
    (.error (sinkBroke "failure sink broke"), w.happen (.failure f log.lines))
  | .usual =>
    (.ok (), w.happen
      (.complaint .error (Console.failureText f ++ "\n" ++ log.render)))
  | .told => (.ok (), { w with told := Console.failureText f :: w.told })

/-- The host of a rehearsal. -/
def host : Host where
  World := World
  Env := Value
  Session := String
  Element := ElementHandle
  Datum := Value
  Sinks := Sinks
  precision := precision
  now := World.now
  sleep := World.sleep
  call := call
  logLine := logLine
  publish := publish
  publishFailure := publishFailure
  reportFailure := reportFailure
  complain severity message w := w.happen (.complaint severity message)
  ofElement := Value.element
  truthy := Value.truthy

end Walkthrough.Rehearsal
