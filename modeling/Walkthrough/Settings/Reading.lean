import Walkthrough.Form.Field

/-!
# Settings from documents

Which fields settings have, and how settings are read from a document and written as one. A field
that is missing has its default, and a key that is no field does not count. What was written is read
back as it was (`read_toEntries`).

The live fields hold objects of the running program. No document can give one, so a document that
mentions one has a problem there, unless the caller gave an object for it.

Mirroring notes:
- The fields and their defaults are those of `FlowSettings` and `BrowserConfig`, and the live fields
  are `RUNTIME_FIELDS`. What a field takes is decided by the library that settings are declared
  with; `Form/Field` has its rules.
-/

namespace Walkthrough

/-- The fields of settings that hold objects of the running program. -/
inductive LiveField where
  | loggingAction
  | failureAction
  | logStream
  | errorStream
  deriving DecidableEq, Repr

namespace LiveField

/-- All live fields. -/
def all : List LiveField := [loggingAction, failureAction, logStream, errorStream]

/-- The key of a live field. -/
def key : LiveField → String
  | loggingAction => "logging_action"
  | failureAction => "failure_action"
  | logStream => "log_stream"
  | errorStream => "error_stream"

/-- What is wrong with a live field that a document mentions. -/
def problem : LiveField → ProblemKind
  | loggingAction => .callable
  | failureAction => .callable
  | logStream => .instanceOf
  | errorStream => .instanceOf

/-- The problems of the live fields that a document mentions and the caller did not give. -/
def problems (given : LiveField → Bool) (entries : Document.Entries Extra) : List Problem :=
  all.filterMap fun f =>
    if !given f && (entries.lookup f.key).isSome then some ⟨[f.key], f.problem⟩ else none

end LiveField

namespace BrowserConfig

/-- Reads the configuration of a browser from the fields of a map. -/
def ofEntries (entries : Document.Entries Extra) : Checked BrowserConfig :=
  let default : BrowserConfig := {}
  let read {α : Type} (key : String) (f : SettingsDocument → Checked α) (a : α) : Checked α :=
    Field.named key f a entries
  Checked.apply (Checked.apply (Checked.apply (Checked.apply
    ((read "engine" Field.engine default.engine).map BrowserConfig.mk)
    (read "headless" Field.bool default.headless))
    (read "viewport_width" Field.int default.viewportWidth))
    (read "viewport_height" Field.int default.viewportHeight))
    (read "slow_mo_ms" Field.real default.slowMotion)

/-- Reads the configuration of a browser. -/
def ofDocument : SettingsDocument → Checked BrowserConfig
  | .map entries => ofEntries entries
  | _ => Checked.problem .map

/-- The configuration of a browser as a map. -/
def toEntries (c : BrowserConfig) : Document.Entries Extra :=
  [("engine", .text c.engine.name), ("headless", .bool c.headless),
    ("viewport_width", .int c.viewportWidth), ("viewport_height", .int c.viewportHeight),
    ("slow_mo_ms", .real c.slowMotion)]

end BrowserConfig

namespace Settings

variable {Sinks : Type}

/-- Reads settings, which send their lines and failures to given places. -/
def ofEntries (given : LiveField → Bool) (sinks : Sinks) (entries : Document.Entries Extra) :
    Checked (Settings Sinks) :=
  let default : Settings Sinks := { sinks }
  let read {α : Type} (key : String) (f : SettingsDocument → Checked α) (a : α) : Checked α :=
    Field.named key f a entries
  let live : Checked Sinks :=
    match LiveField.problems given entries with
    | [] => .ok sinks
    | ps => .error ps
  Checked.apply (Checked.apply (Checked.apply (Checked.apply
    ((read "wait" Field.duration default.wait).map Settings.mk)
    (read "interval" Field.duration default.interval))
    (read "dispose_on_completion" Field.bool default.disposeOnCompletion))
    (read "browser" BrowserConfig.ofDocument default.browser))
    live

/-- Settings as a map, without the live fields. -/
def toEntries (s : Settings Sinks) : Document.Entries Extra :=
  [("wait", .atom (.duration s.wait)), ("interval", .atom (.duration s.interval)),
    ("dispose_on_completion", .bool s.disposeOnCompletion), ("browser", .map s.browser.toEntries)]

end Settings

/-! ## Laws -/

theorem BrowserConfig.ofEntries_toEntries (c : BrowserConfig) : ofEntries c.toEntries = .ok c := by
  cases c
  simp [ofEntries, toEntries, Field.named, List.lookup_cons, Checked.apply, Checked.both,
    Checked.at_, Field.engine, Field.bool, Field.int, Field.real, BrowserEngine.ofName?_name,
    Except.map]

/-- What was written is read back as it was. -/
theorem Settings.read_toEntries {Sinks : Type} (given : LiveField → Bool) (s : Settings Sinks) :
    ofEntries given s.sinks s.toEntries = .ok s := by
  cases s
  simp [ofEntries, toEntries, Field.named, List.lookup_cons, Checked.apply, Checked.both,
    Checked.at_, Field.duration, Field.bool, BrowserConfig.ofDocument,
    BrowserConfig.ofEntries_toEntries, Except.map, LiveField.problems, LiveField.all, LiveField.key]

end Walkthrough
