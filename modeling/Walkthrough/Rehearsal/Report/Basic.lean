import Walkthrough.Document
import Walkthrough.Log
import Walkthrough.Rehearsal.World

/-!
# Reports of a rehearsal

What came of a rehearsal, as plain data: its last state and value, and the trace of what happened.
A value that plain data has no form for is a map with one key, which begins with a dollar sign.
-/

namespace Walkthrough.Rehearsal

/-- Plain data and nothing else. -/
abbrev Report : Type := Document Empty

namespace Report

/-- Texts in a list. -/
def texts (items : List String) : Report := .list (items.map .text)

/-- A text that may be missing. -/
def textOrNull (s : Option String) : Report := (s.map .text).getD .null

/-- The cause of a failure. -/
def cause : Option Fault → Report
  | some c => texts [c.name, c.text]
  | none => .null

mutual

/-- A failure: its kind, its texts, the scopes around it, and its members. -/
def failure : Failure → Report
  | .single kind message breadcrumb c =>
    let f := Failure.single kind message breadcrumb c
    let detail :=
      match kind with
      | .capability => [("detail", .text f.detail)]
      | _ => []
    .map (common f ++ detail)
  | .composite members breadcrumb c =>
    .map (common (.composite members breadcrumb c) ++ [("errors", .list (failures members))])
  | .group members breadcrumb =>
    .map (common (.group members breadcrumb) ++ [("errors", .list (failures members))])

/-- Several failures. -/
def failures : List Failure → List Report
  | [] => []
  | f :: fs => failure f :: failures fs

/-- What all failures have. -/
def common (f : Failure) : List (String × Report) :=
  [("kind", .text f.kindName), ("message", .text f.message), ("breadcrumb", texts f.breadcrumb),
    ("str", .text f.text), ("cause", cause f.cause)]

end

/-- A state. -/
def state (s : State) : Report :=
  .map [
    ("session", textOrNull s.session),
    ("configuration", .map (s.configuration.map fun (k, v) => (k, .text v))),
    ("errors", .list (failures s.failures)),
    ("log", texts s.log.lines),
    ("nodes", .int s.log.walk.length),
    ("context", texts s.scopes),
    ("muted", .bool s.muted),
    ("settings", .list [.int s.settings.wait.micros, .int s.settings.interval.micros,
      .bool s.settings.disposeOnCompletion])]

/-- A place on the page. -/
def point (p : Point) : Report := .map [("x", .int p.x), ("y", .int p.y)]

/-- The extent of an element. -/
def size (s : Size) : Report := .map [("width", .int s.width), ("height", .int s.height)]

/-- A snapshot of an element. -/
def snapshot (s : Snapshot) : Report :=
  .map [
    ("selector", .text s.selector), ("index", .int s.index), ("element_id", .text s.elementId),
    ("tag", .text s.tag), ("text", .text s.text), ("enabled", .bool s.enabled),
    ("selected", .bool s.selected), ("location", point s.location), ("size", size s.size),
    ("displayed", .bool s.displayed), ("describe", .text s.describe)]

mutual

/-- A value. -/
def value : Value → Report
  | .null => .null
  | .bool b => .bool b
  | .int i => .int i
  | .text s => .text s
  | .list items => .list (values items)
  | .map entries => .map (valueEntries entries)
  | .duration d => .map [("$us", .int d.micros)]
  | .failure f => .map [("$error", failure f)]
  | .fault f => .map [("$exc", texts [f.name, f.text])]
  | .state s => .map [("$state", state s)]
  | .element e => .map [("$element", .int e.number)]
  | .session name => .map [("$session", .text name)]
  | .snapshot s => .map [("$snapshot", snapshot s)]

/-- Several values. -/
def values : List Value → List Report
  | [] => []
  | v :: vs => value v :: values vs

/-- The entries of a map of values. -/
def valueEntries : List (String × Value) → List (String × Report)
  | [] => []
  | (k, v) :: rest => (k, value v) :: valueEntries rest

end

/-- An argument of a call: an element is its number. -/
def argument : Value → Report
  | .element e => .int e.number
  | v => value v

/-- The word for how bad something is. -/
def severityWord : Severity → String
  | .warning => "WARNING"
  | .error => "ERROR"

/-- What the library complained about. -/
def complaint (severity : Severity) (message : String) : Report :=
  texts ["logger", severityWord severity, message]

/-- Something that happened. -/
def event : Event → Report
  | .sleep us => .list [.text "sleep", .int us]
  | .log message indent => .list [.text "log", .text message, .int indent]
  | .record r => .list [.text "record", .text r.kind.name, .int r.indent, .text r.render]
  | .failure f lines => .list [.text "failure", failure f, texts lines]
  | .error t => texts ["error", t]
  | .complaint severity message => complaint severity message
  | .call session method arguments =>
    .list ([.text "call", .text session, .text method] ++ arguments.map argument)
  | .emit v => .list [.text "emit", value v]

/-- What happened in a world, and how late it is there. -/
def trace (w : World) : List (String × Report) :=
  [("events", .list (w.events.map event)), ("clock", .int w.clock)]

end Report

end Walkthrough.Rehearsal
