import Walkthrough.Log
import Walkthrough.Settings

/-!
# The state of a run

The state that every step of a flow reads and leaves behind. A state with failures is faulted; a
step adds failures, a scope adds its label to them, and only the steps that deal with failures take
any away.

Mirroring notes:
- `RunState` is `FlowState`, with `errors` and `context` under the names `failures` and `scopes`.
  `evolve` is a function for each field that is ever changed.
- The state also carries the proof that lines can be written to its log (`depth_nonneg`), so
  `withLine`, `enter` and `leave` need no case for a refusal; `append_log`, `rebase_log` and
  `merge_log` say that the operations that check would not refuse.
- A configuration is a list of pairs that holds each key once (`Keyed.ofPairs`).
-/

namespace Walkthrough

/-- The state of a run. The session belongs to the caller; the state only carries its handle. -/
structure RunState (Session Sinks : Type) where
  session : Option Session
  settings : Settings Sinks
  configuration : List (String × String) := []
  /-- What went wrong so far, oldest first. -/
  failures : List Failure := []
  /-- The log of the current scope. -/
  log : Log := Log.empty
  /-- The log stands at no negative depth, so that lines can be written to it. -/
  depth_nonneg : 0 ≤ log.childIndent := by exact Log.childIndent_empty_nonneg
  /-- The labels of the scopes that are open, outermost first. -/
  scopes : List String := []
  /-- Whether log lines are kept from the sinks. -/
  muted : Bool := false

namespace RunState

variable {Session Sinks : Type}

/-- Whether anything went wrong. -/
def faulted (s : RunState Session Sinks) : Bool := !s.failures.isEmpty

/-- The state with more failures. -/
def addFailures (s : RunState Session Sinks) (fs : List Failure) : RunState Session Sinks :=
  { s with failures := s.failures ++ fs }

/-- The state with these failures only. -/
def withFailures (s : RunState Session Sinks) (failures : List Failure) :
    RunState Session Sinks :=
  { s with failures }

/-- The state with another session. -/
def withSession (s : RunState Session Sinks) (session : Option Session) :
    RunState Session Sinks :=
  { s with session }

/-- The state with other settings. -/
def withSettings (s : RunState Session Sinks) (settings : Settings Sinks) :
    RunState Session Sinks :=
  { s with settings }

/-- The state with another configuration. -/
def withConfiguration (s : RunState Session Sinks) (configuration : List (String × String)) :
    RunState Session Sinks :=
  { s with configuration }

/-- The state whose lines are kept from the sinks, or are not. -/
def withMuted (s : RunState Session Sinks) (muted : Bool) : RunState Session Sinks :=
  { s with muted }

/-- A line as it will stand in the log. -/
def line (s : RunState Session Sinks) (kind : LogKind) (message : String) : Log :=
  (Log.leaf kind message).moveTo s.log.childIndent

/-- The state with one more line in its log. -/
def withLine (s : RunState Session Sinks) (kind : LogKind) (message : String) :
    RunState Session Sinks :=
  { s with log := s.log.withChild (Log.leaf kind message), depth_nonneg := s.depth_nonneg }

/-- The state inside a scope that is opened here: its log is the scope alone. -/
def enter (s : RunState Session Sinks) (label : String) : RunState Session Sinks :=
  { s with
    log := s.line .context label
    depth_nonneg := Log.childIndent_moveTo_nonneg s.depth_nonneg _
    scopes := s.scopes ++ [label] }

/-- The state after a scope that was opened in `s` and ended in `t`: the log of the scope is
attached to the log around it, and every failure gets the label. -/
def leave (s : RunState Session Sinks) (label : String) (t : RunState Session Sinks) :
    RunState Session Sinks :=
  { t with
    log := s.log.withTree t.log
    depth_nonneg := by rw [Log.childIndent_withTree]; exact s.depth_nonneg
    scopes := s.scopes
    failures := t.failures.map (·.within label) }

/-- The value of a configuration key. -/
def setting? (s : RunState Session Sinks) (key : String) : Option String :=
  s.configuration.lookup key

theorem faulted_eq_false_iff {s : RunState Session Sinks} :
    s.faulted = false ↔ s.failures = [] := by
  simp [faulted]

@[simp] theorem failures_addFailures (s : RunState Session Sinks) (fs : List Failure) :
    (s.addFailures fs).failures = s.failures ++ fs := rfl

theorem addFailures_nil (s : RunState Session Sinks) : s.addFailures [] = s := by
  cases s
  simp [addFailures]

@[simp] theorem failures_withFailures (s : RunState Session Sinks) (fs : List Failure) :
    (s.withFailures fs).failures = fs := rfl

@[simp] theorem failures_withLine (s : RunState Session Sinks) (kind : LogKind)
    (message : String) : (s.withLine kind message).failures = s.failures := rfl

theorem failures_leave_eq_nil_iff (s t : RunState Session Sinks) (label : String) :
    (s.leave label t).failures = [] ↔ t.failures = [] := by
  simp [leave]

/-- A line is never refused: this is what appending it comes to. -/
theorem append_log (s : RunState Session Sinks) (kind : LogKind) (message : String) :
    s.log.append kind message = .ok ((s.withLine kind message).log, s.line kind message) :=
  Log.append_eq_ok s.depth_nonneg kind message

/-- A scope is never refused where it is opened. -/
theorem rebase_log (s : RunState Session Sinks) (label : String) :
    (Log.leaf .context label).rebase s.log.childIndent = .ok (s.enter label).log :=
  Log.rebase_eq_ok s.depth_nonneg _

/-- A scope is never refused where it is closed. -/
theorem merge_log (s t : RunState Session Sinks) (label : String) :
    s.log.merge t.log = .ok (s.leave label t).log :=
  Log.merge_eq_ok s.depth_nonneg t.log

end RunState

end Walkthrough
