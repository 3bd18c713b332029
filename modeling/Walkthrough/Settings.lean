import Walkthrough.Duration

/-!
# Settings of a run

How long waits last and how often they look, whether sessions are quit when a flow is done with
them, which browser is launched, and where log lines and failures go. The last of these, the
`sinks`, are a handle: a run only carries it and hands it to the host when something is to be
written.

Mirroring notes:
- `Settings` is `FlowSettings`, `BrowserConfig` and `BrowserEngine` have their names. The two
  actions and the two streams are reached through `sinks`.
-/

namespace Walkthrough

/-- The browser engines that can stand behind a session. -/
inductive BrowserEngine where
  | chromium
  | firefox
  | webkit
  deriving DecidableEq, Repr, Inhabited

namespace BrowserEngine

/-- The word for an engine. -/
def name : BrowserEngine → String
  | chromium => "chromium"
  | firefox => "firefox"
  | webkit => "webkit"

/-- The engine with the given word. -/
def ofName? (s : String) : Option BrowserEngine :=
  [chromium, firefox, webkit].find? fun k => k.name == s

theorem ofName?_name (k : BrowserEngine) : ofName? k.name = some k := by cases k <;> decide

end BrowserEngine

/-- How the browser behind a session is launched. -/
structure BrowserConfig where
  engine : BrowserEngine := .chromium
  headless : Bool := true
  viewportWidth : Int := 1280
  viewportHeight : Int := 720
  /-- The pause after each browser operation, in milliseconds. -/
  slowMotion : Rat := 0
  deriving DecidableEq

/-- The settings of a run. -/
structure Settings (Sinks : Type) where
  /-- How long a wait lasts when nothing else is said. -/
  wait : Duration := ⟨10000000⟩
  /-- The pause between two looks when nothing else is said. -/
  interval : Duration := ⟨500000⟩
  /-- Whether a session is quit when the flow is done with it. -/
  disposeOnCompletion : Bool := false
  browser : BrowserConfig := {}
  sinks : Sinks

end Walkthrough
