import Walkthrough.Criterion
import Walkthrough.RunState

/-!
# The host of a run

A flow touches the outside only through its host: a clock, sessions that answer commands, and sinks
for log lines and failures. Everything outside is one `World`, and code that runs there (the
functions that a flow is built from, and the host's own operations) is an `Act`: it may change the
world and either gives a value or throws.

A session may answer at once or hand back something to be awaited; a `Reply` is one of the two.

Mirroring notes:
- `Command` has one constructor for each method of `BrowserCapability`.
- `logLine`, `publish`, `publishFailure` and `reportFailure` are what settings are given for a run:
  the logging action, the two streams and the failure action. They are looked up by a handle
  (`Sinks`), so that settings are plain data.
- `complain` is what the library writes to its own log as a warning or an error.
-/

namespace Walkthrough

universe u v

/-- What a session can be asked to do, with the type of the answer. -/
inductive Command (Element Datum : Type) : Type → Type where
  /-- The elements that match, on the page or inside an element. -/
  | findElements (criterion : Criterion) (within : Option Element) :
      Command Element Datum (List Element)
  | navigate (url : String) : Command Element Datum Unit
  | currentUrl : Command Element Datum String
  | setWindowSize (width height : Int) : Command Element Datum Unit
  | setWindowPosition (x y : Int) : Command Element Datum Unit
  | maximiseWindow : Command Element Datum Unit
  | newTab : Command Element Datum Unit
  | newWindow : Command Element Datum Unit
  | switchTab (position : Int) : Command Element Datum Unit
  | closeTab : Command Element Datum Unit
  | back : Command Element Datum Unit
  | forward : Command Element Datum Unit
  | refresh : Command Element Datum Unit
  | executeScript (script : String) (arguments : List Datum) : Command Element Datum Datum
  | text (element : Element) : Command Element Datum String
  | attribute (element : Element) (name : String) : Command Element Datum (Option String)
  | style (element : Element) (property : String) : Command Element Datum String
  | click (element : Element) : Command Element Datum Unit
  | sendKeys (element : Element) (keys : String) : Command Element Datum Unit
  | clear (element : Element) : Command Element Datum Unit
  | selectByText (element : Element) (option : String) : Command Element Datum Unit
  | selectByValue (element : Element) (option : String) : Command Element Datum Unit
  | selectedOptionText (element : Element) : Command Element Datum String
  | selectedOptionValue (element : Element) : Command Element Datum String
  | tagName (element : Element) : Command Element Datum String
  | isEnabled (element : Element) : Command Element Datum Bool
  | isSelected (element : Element) : Command Element Datum Bool
  | isDisplayed (element : Element) : Command Element Datum Bool
  | location (element : Element) : Command Element Datum Point
  | size (element : Element) : Command Element Datum Size
  | elementId (element : Element) : Command Element Datum String
  | alertPresent : Command Element Datum Bool
  | alertText : Command Element Datum String
  | acceptAlert : Command Element Datum Unit
  | dismissAlert : Command Element Datum Unit
  | alertSendKeys (keys : String) : Command Element Datum Unit
  | quit : Command Element Datum Unit

/-- Code outside of a flow: it runs in a world and gives a value or throws. -/
def Act (World : Type) (α : Type u) : Type u := World → Except Thrown α × World

namespace Act

variable {World : Type} {α : Type u} {β : Type v}

/-- The code that gives a value and changes nothing. -/
def ok (a : α) : Act World α := fun w => (.ok a, w)

/-- The code that throws. -/
def throw (e : Thrown) : Act World α := fun w => (.error e, w)

/-- Runs one piece of code, then the one made from its value, unless the first throws. -/
def andThen (a : Act World α) (f : α → Act World β) : Act World β := fun w =>
  match a w with
  | (.ok x, w) => f x w
  | (.error e, w) => (.error e, w)

/-- Changes the value. -/
def map (f : α → β) (a : Act World α) : Act World β := a.andThen fun x => ok (f x)

/-- Code whose value is changed gives one only when it gave one before. -/
theorem map_eq_ok {f : α → β} {a : Act World α} {w w' : World} {b : β}
    (h : a.map f w = (.ok b, w')) : ∃ x, a w = (.ok x, w') ∧ f x = b := by
  unfold map andThen at h
  rcases ha : a w with ⟨e | x, v⟩
  · rw [ha] at h
    cases h
  · rw [ha] at h
    cases h
    exact ⟨x, rfl, rfl⟩

instance : Monad (Act World : Type u → Type u) where
  pure := ok
  bind := andThen

instance : MonadExceptOf Thrown (Act World : Type u → Type u) where
  throw := throw
  tryCatch a handle := fun w =>
    match a w with
    | (.ok x, w) => (.ok x, w)
    | (.error e, w) => handle e w

end Act

/-- What an outside call hands back: its value, or code to be awaited for it. -/
inductive Reply (World α : Type) where
  | value (a : α)
  | awaitable (code : Act World α)

/-- Changes the value of a reply. -/
def Reply.map {World α β : Type} (f : α → β) : Reply World α → Reply World β
  | value a => value (f a)
  | awaitable code => awaitable (code.map f)

/-- How bad something is that the library itself complains about. -/
inductive Severity where
  | warning
  | error
  deriving DecidableEq, Repr

/-- The outside of a flow. -/
structure Host where
  /-- Everything outside of flows that can change. -/
  World : Type
  /-- What the caller of a run injects for its steps to read. -/
  Env : Type
  /-- Handles of sessions. -/
  Session : Type
  /-- Handles of page elements. -/
  Element : Type
  /-- What scripts take and give. -/
  Datum : Type
  /-- Handles of the places where log lines and failures go. -/
  Sinks : Type
  /-- How exact the clock and the arithmetic of time are. -/
  precision : Precision
  /-- The reading of the clock, in seconds. -/
  now : World → Rat
  /-- Pauses for a number of seconds that is not negative. -/
  sleep : Rat → World → World
  /-- Asks a session to do something. -/
  call : {β : Type} → Session → Command Element Datum β → Act World (Reply World β)
  /-- Hands a message and its indent to the logging action. -/
  logLine : Sinks → String → Int → Act World Unit
  /-- Publishes a record on the log stream. -/
  publish : Sinks → LogRecord → Act World Unit
  /-- Publishes a failure on the failure stream. -/
  publishFailure : Sinks → Failure → Act World Unit
  /-- Hands the failure that ends a run, and the log, to the failure action. -/
  reportFailure : Sinks → Failure → Log → Act World Unit
  /-- Writes down something that the library itself complains about. -/
  complain : Severity → String → World → World
  /-- An element as an argument of a script. -/
  ofElement : Element → Datum
  /-- Whether the answer of a script counts as true. -/
  truthy : Datum → Bool

/-- Pauses for a number of seconds, or not at all when it is negative. -/
def Host.pause (H : Host) (seconds : Rat) : H.World → H.World :=
  H.sleep (if seconds ≤ 0 then 0 else seconds)

/-- The state of a run under a host. -/
abbrev Host.State (H : Host) : Type := RunState H.Session H.Sinks

/-- One thing that a step asks of the host, with the type of the answer. Code outside of the flow
(the functions that steps are built from) is one of them. -/
inductive Effect (H : Host) : Type → Type 1 where
  | call {β : Type} (session : H.Session) (command : Command H.Element H.Datum β) :
      Effect H (Reply H.World β)
  | code {β : Type} (code : Act H.World (Reply H.World β)) : Effect H (Reply H.World β)
  | logLine (sinks : H.Sinks) (message : String) (indent : Int) : Effect H Unit
  | publish (sinks : H.Sinks) (record : LogRecord) : Effect H Unit
  | complain (severity : Severity) (message : String) : Effect H Unit

/-- What the host does about an effect. -/
def Host.perform (H : Host) {β : Type} : Effect H β → Act H.World β
  | .call session command => H.call session command
  | .code code => code
  | .logLine sinks message indent => H.logLine sinks message indent
  | .publish sinks record => H.publish sinks record
  | .complain severity message => fun w => (.ok (), H.complain severity message w)

end Walkthrough
