import Walkthrough.Run
import Walkthrough.Rehearsal.Build

/-!
# Running a rehearsal

A performance builds the flow of a script and runs it in a world with some pages, in one of six
ways: with the blocking or the suspending driver, and from a fresh state, from a fresh state with
failures thrown at the end, or from a given state.
-/

namespace Walkthrough.Rehearsal

/-- The session that a run gets. -/
def mainSession : String := "main"

/-- How the flow is run. -/
inductive Mode where
  | run
  | runAndRaise
  | interpret
  deriving DecidableEq, Repr

/-- What the state differs in from a fresh one when a run starts. -/
structure Start where
  failures : List Failure := []
  scopes : List String := []
  configuration : List (String × String) := []
  muted : Bool := false

/-- A script with everything that its run needs. -/
structure Performance where
  script : Script
  mode : Mode := .run
  asynchronous : Bool := false
  /-- The session that the run gets. -/
  session : Option String := none
  pages : List (String × Page) := []
  settings : Option SettingsPlan := some {}
  env : Value := .null
  start : Start := {}

/-- The state that a run has when it starts. -/
def Start.state (start : Start) (session : Option String) (settings : Settings Sinks) : State :=
  { session, settings, configuration := start.configuration, failures := start.failures,
    scopes := start.scopes, muted := start.muted }

/-- The settings of a run, if there are any. -/
def realiseSettings : Option SettingsPlan → World → Settings Sinks × World
  | some plan => plan.realise
  | none => plainSettings

/-- The last state and the value of a run. -/
abbrev Result : Type := State × Value

/-- The value of a run, or nothing. -/
def resultOf (r : State × Option Value) : Result := (r.1, r.2.getD .null)

/-- Builds the flow and runs it. -/
def Performance.perform (p : Performance) : Code Result :=
  (p.script.make []).andThen fun made => fun w =>
    let c := made.toFlow
    let (settings, w) := realiseSettings p.settings w
    match p.mode, p.asynchronous with
    | .run, false =>
      let (r, w) := c.run (H := host) p.session settings p.env w
      (.ok (resultOf r), w)
    | .run, true =>
      let (r, w) := c.runAsync (H := host) p.session settings p.env w
      (.ok (resultOf r), w)
    | .runAndRaise, false =>
      Act.map resultOf (c.runAndRaise (H := host) p.session settings p.env) w
    | .runAndRaise, true =>
      Act.map resultOf (c.runAndRaiseAsync (H := host) p.session settings p.env) w
    | .interpret, false =>
      let (o, w) := c.interpret (H := host) p.env (p.start.state p.session settings) w
      (.ok (resultOf (o.state, o.value?)), w)
    | .interpret, true =>
      let (o, w) := c.interpretAsync (H := host) p.env (p.start.state p.session settings) w
      (.ok (resultOf (o.state, o.value?)), w)

/-- Runs a performance in a fresh world with its pages. -/
def Performance.play (p : Performance) : Except Thrown Result × World :=
  p.perform { pages := p.pages }

end Walkthrough.Rehearsal
