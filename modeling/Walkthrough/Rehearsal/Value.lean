import Walkthrough.Snapshot

/-!
# Values of a rehearsal

A rehearsal runs flows that are written down as data against pages that are written down as data.
`Value` is what such flows compute with: plain data, and the things that a run hands around
(durations, failures, states, elements, sessions, snapshots).
-/

namespace Walkthrough.Rehearsal

/-- A page element: the session whose page it stands on, and its number there. -/
structure ElementHandle where
  session : String
  number : Nat
  deriving DecidableEq, Repr, Inhabited

/-- What a rehearsed run does with the failure that ends it. -/
inductive FailurePlan where
  /-- It is written down. -/
  | record
  /-- It is written down, then writing breaks. -/
  | breakDown
  /-- The library's own way: an error line outside of the log. -/
  | usual
  /-- It is told on the console. -/
  | told
  deriving DecidableEq, Repr

/-- Where the lines and failures of a rehearsed run go. -/
structure Sinks where
  /-- Whether log lines are written down. -/
  logging : Bool
  /-- The log line that breaks the logging action. -/
  breaksOn : Option String
  /-- The number of the channel of log records. -/
  channel : Nat
  failures : FailurePlan
  /-- Whether somebody listens to the failure stream. -/
  heard : Bool
  deriving DecidableEq, Repr

/-- The state of a rehearsed run. -/
abbrev State : Type := RunState String Sinks

/-- What rehearsed flows compute with. -/
inductive Value where
  | null
  | bool (b : Bool)
  | int (i : Int)
  | text (s : String)
  | list (items : List Value)
  | map (entries : List (String × Value))
  | duration (d : Duration)
  | failure (f : Failure)
  | fault (f : Fault)
  | state (s : State)
  | element (e : ElementHandle)
  | session (name : String)
  | snapshot (s : Snapshot)
  deriving Inhabited

namespace Value

/-- Whether a value counts as true: nothing, zero and whatever is empty do not. -/
def truthy : Value → Bool
  | null => false
  | bool b => b
  | int i => i != 0
  | text s => !s.isEmpty
  | list items => !items.isEmpty
  | map entries => !entries.isEmpty
  | duration d => d.micros != 0
  | _ => true

/-- The name of the type of a value, as messages give it. -/
def typeName : Value → String
  | null => "NoneType"
  | bool _ => "bool"
  | int _ => "int"
  | text _ => "str"
  | list _ => "list"
  | map _ => "dict"
  | duration _ => "datetime.timedelta"
  | failure f => f.kindName
  | fault f => f.name
  | state _ => "FlowState"
  | element _ => "Element"
  | session _ => "Session"
  | snapshot _ => "ElementSnapshot"

mutual

/-- A value as messages show it. -/
def shown : Value → String
  | null => "None"
  | bool b => Snapshot.truthWord b
  | int i => toString i
  | text s => Text.quote s
  | list items => "[" ++ String.intercalate ", " (shownAll items) ++ "]"
  | map entries => "\x7b" ++ String.intercalate ", " (shownEntries entries) ++ "\x7d"
  | duration d => toString d.micros
  | failure f => f.shown
  | fault f => f.name ++ "(" ++ Text.quote f.text ++ ")"
  | state _ => "FlowState"
  | element e => toString e.number
  | session name => name
  | snapshot s => s.describe

/-- Several values as messages show them. -/
def shownAll : List Value → List String
  | [] => []
  | v :: vs => shown v :: shownAll vs

/-- The entries of a map as messages show them. -/
def shownEntries : List (String × Value) → List String
  | [] => []
  | (k, v) :: es => (Text.quote k ++ ": " ++ shown v) :: shownEntries es

end

/-- The text of a value inside a longer text, if it has one. -/
def plainText? : Value → Option String
  | null => some "null"
  | bool b => some (if b then "true" else "false")
  | int i => some (toString i)
  | text s => some s
  | failure f => some f.text
  | fault f => some f.text
  | _ => none

mutual

/-- Whether two values are equal; inside lists and maps a truth value equals zero or one. -/
def alike : Value → Value → Bool
  | null, null => true
  | bool a, bool b => a == b
  | int a, int b => a == b
  | bool a, int b => (if a then 1 else 0) == b
  | int a, bool b => a == (if b then 1 else 0)
  | text a, text b => a == b
  | list as, list bs => allAlike as bs
  | map as, map bs => as.length == bs.length && entriesAlike as bs
  | duration a, duration b => a == b
  | failure f, failure g => f.same g
  | fault f, fault g => f == g
  | element a, element b => a == b
  | session a, session b => a == b
  | snapshot a, snapshot b => a == b
  | _, _ => false

/-- Whether two lists are equal item by item. -/
def allAlike : List Value → List Value → Bool
  | [], [] => true
  | a :: as, b :: bs => alike a b && allAlike as bs
  | _, _ => false

/-- Whether every entry has an equal one in the other map. -/
def entriesAlike : List (String × Value) → List (String × Value) → Bool
  | [], _ => true
  | (k, a) :: es, bs =>
    (match bs.lookup k with
      | some b => alike a b
      | none => false) && entriesAlike es bs

end

/-- Whether two values have one type and are equal. -/
def same (a b : Value) : Bool := a.typeName == b.typeName && alike a b

end Value

end Walkthrough.Rehearsal
