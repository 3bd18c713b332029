import Walkthrough.Text.Quoted

/-!
# Failures

What goes wrong in a flow is kept as a value. A `Failure` is one failure with the labels of the
scopes around it, several failures folded into one, or the failures that ended a run. A `Fault` is
what code outside of the flow raised, and becomes a failure by `Failure.ofThrown`.

Nesting a failure in a scope (`Failure.within`) pushes the label into every member of a folded
failure, so the text of a folded failure is always the texts of its members side by side
(`text_composite`), and each single failure shows its own path.

Mirroring notes:
- `single` stands for `FlowError` and those of its subclasses that add no fields, told apart by a
  `FailureKind`; `composite` and `group` are `CompositeFailure` and `FlowErrorGroup`.
- `within` has its name, `text` and `shown` are what an error is printed as and quoted as, `same` is
  when two are equal, and `ofThrown` is `as_flow_error`.
- Of an exception only the name of its class and its text are kept (`Fault`). Chains of exceptions
  and where they were raised are left out, since nothing in a run reads them.
-/

namespace Walkthrough

/-- What code outside of a flow raised: the name of its kind and its text. -/
structure Fault where
  name : String
  text : String
  deriving DecidableEq, Repr, Inhabited

/-- The kinds of a single failure. -/
inductive FailureKind where
  /-- A failure of no particular kind. -/
  | general
  /-- An explicit failure, or an assertion that does not hold. -/
  | assertion
  /-- An outside call raised. -/
  | capability
  /-- A wait ran out of time. -/
  | timeout
  /-- An element query gave an unusable result. -/
  | resolution
  /-- A configuration key or the session is missing. -/
  | configuration
  deriving DecidableEq, Repr

/-- The name of a kind of failure. -/
def FailureKind.name : FailureKind → String
  | .general => "FlowError"
  | .assertion => "AssertionFailure"
  | .capability => "CapabilityFailure"
  | .timeout => "FlowTimeoutError"
  | .resolution => "ResolutionFailure"
  | .configuration => "ConfigurationError"

/-- The kind of failure with the given name. -/
def FailureKind.ofName? (s : String) : Option FailureKind :=
  [general, assertion, capability, timeout, resolution, configuration].find? fun k => k.name == s

theorem FailureKind.ofName?_name (k : FailureKind) : ofName? k.name = some k := by
  cases k <;> decide

/-- A failure recorded in the state of a run. `breadcrumb` holds the labels of the scopes around
it, outermost first; `cause` is what was raised to make it. -/
inductive Failure where
  | single (kind : FailureKind) (message : String) (breadcrumb : List String) (cause : Option Fault)
  /-- Several failures of a batch, folded into one. -/
  | composite (members : List Failure) (breadcrumb : List String) (cause : Option Fault)
  /-- The failures that a run ended with, when there is more than one. -/
  | group (members : List Failure) (breadcrumb : List String)
  deriving Repr, Inhabited

/-- What can stop a piece of code outside of the flow: a fault, or a failure that it throws on. -/
inductive Thrown where
  | fault (f : Fault)
  | failure (f : Failure)
  deriving Repr, Inhabited

namespace Failure

/-- The mark between two labels of a breadcrumb. -/
def arrow : String := " → "

/-- A message followed by the path to it, if there is one. -/
def located (message : String) (breadcrumb : List String) : String :=
  if breadcrumb.isEmpty then message
  else message ++ " (" ++ String.intercalate arrow breadcrumb ++ ")"

mutual

/-- The text of a failure: its message and the path to it; a composite shows the paths of its
members only. -/
def text : Failure → String
  | single _ message breadcrumb _ => located message breadcrumb
  | composite members _ _ => String.intercalate "; " (texts members)
  | group members breadcrumb => located (String.intercalate "\n" (texts members)) breadcrumb

/-- The texts of several failures. -/
def texts : List Failure → List String
  | [] => []
  | f :: fs => text f :: texts fs

end

/-- The message of a failure, without the path to it. -/
def message : Failure → String
  | single _ message _ _ => message
  | composite members _ _ => String.intercalate "; " (texts members)
  | group members _ => String.intercalate "\n" (texts members)

/-- The labels of the scopes around a failure, outermost first. -/
def breadcrumb : Failure → List String
  | single _ _ breadcrumb _ => breadcrumb
  | composite _ breadcrumb _ => breadcrumb
  | group _ breadcrumb => breadcrumb

/-- What was raised to make the failure. -/
def cause : Failure → Option Fault
  | single _ _ _ cause => cause
  | composite _ _ cause => cause
  | group _ _ => none

/-- The failures that a failure is made of. -/
def members : Failure → List Failure
  | single .. => []
  | composite members _ _ => members
  | group members _ => members

/-- The name of the kind of a failure. -/
def kindName : Failure → String
  | single kind _ _ _ => kind.name
  | composite .. => "CompositeFailure"
  | group .. => "FlowErrorGroup"

/-- The text of what was raised, empty when nothing was. -/
def detail (f : Failure) : String := (f.cause.map Fault.text).getD ""

mutual

/-- The failure as it is seen from the scope around it. -/
def within (label : String) : Failure → Failure
  | single kind message breadcrumb cause => single kind message (label :: breadcrumb) cause
  | composite members breadcrumb cause =>
    composite (allWithin label members) (label :: breadcrumb) cause
  | group members breadcrumb => group members (label :: breadcrumb)

/-- Several failures as they are seen from the scope around them. -/
def allWithin (label : String) : List Failure → List Failure
  | [] => []
  | f :: fs => within label f :: allWithin label fs

end

/-- Two failures are the same when they are of one kind and have one text. -/
def same (f g : Failure) : Bool := f.kindName == g.kindName && f.text == g.text

/-- The name of the kind and the quoted text. -/
def shown (f : Failure) : String := f.kindName ++ "(" ++ Text.quote f.text ++ ")"

/-- A single failure with no path and no cause. -/
def ofMessage (kind : FailureKind) (message : String) : Failure := single kind message [] none

/-- The failures of a batch, folded into one. -/
def collected (members : List Failure) : Failure := composite members [] none

end Failure

namespace Thrown

/-- The name of the kind of what was thrown. -/
def name : Thrown → String
  | fault f => f.name
  | failure f => f.kindName

/-- The text of what was thrown. -/
def text : Thrown → String
  | fault f => f.text
  | failure f => f.text

/-- What was thrown, seen from outside. -/
def toFault (t : Thrown) : Fault := ⟨t.name, t.text⟩

/-- The text, or the name of the kind when there is no text. -/
def detail (t : Thrown) : String := if t.text.isEmpty then t.name else t.text

end Thrown

namespace Failure

/-- What was thrown as a failure. A failure stays itself when no label is given. Anything else
becomes a capability failure, with a label that is not empty in front of its message. -/
def ofThrown (t : Thrown) (label : Option String) : Failure :=
  match t, label with
  | .failure f, none => f
  | t, label =>
    let message :=
      match label with
      | some l => if l.isEmpty then t.detail else l ++ ": " ++ t.detail
      | none => t.detail
    single .capability message [] (some t.toFault)

/-! ## Laws -/

@[simp] theorem texts_eq_map (fs : List Failure) : texts fs = fs.map text := by
  induction fs with
  | nil => rfl
  | cons f fs ih => simp [texts, ih]

@[simp] theorem allWithin_eq_map (label : String) (fs : List Failure) :
    allWithin label fs = fs.map (within label) := by
  induction fs with
  | nil => rfl
  | cons f fs ih => simp [allWithin, ih]

/-- The text of a composite is the texts of its members side by side. -/
theorem text_composite (members : List Failure) (breadcrumb : List String)
    (cause : Option Fault) :
    text (composite members breadcrumb cause) = String.intercalate "; " (members.map text) := by
  simp [text]

@[simp] theorem breadcrumb_within (label : String) (f : Failure) :
    (f.within label).breadcrumb = label :: f.breadcrumb := by
  cases f <;> rfl

@[simp] theorem kindName_within (label : String) (f : Failure) :
    (f.within label).kindName = f.kindName := by
  cases f <;> rfl

@[simp] theorem cause_within (label : String) (f : Failure) :
    (f.within label).cause = f.cause := by
  cases f <;> rfl

end Failure

end Walkthrough
