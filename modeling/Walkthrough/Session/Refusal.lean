import Walkthrough.Failure
import Walkthrough.Settings

/-!
# What a session refuses

The reasons for which a session does not do what it is asked for, their wording, and the fault that
each of them is seen as from outside. Faults that the browser engine raises are of a kind of their
own, and a session that meets one says what it was doing.

Mirroring notes:
- A `Refusal` is a `SessionError` that the library itself raises, and `message` is its wording;
  `engineFailed` is the one that `_translate` makes of a fault of the engine.
-/

namespace Walkthrough

/-- Why a session does not do what it is asked for. -/
inductive Refusal where
  /-- No page is open. -/
  | notStarted
  /-- Every dialog has been acknowledged. -/
  | noAlert
  /-- There are not that many tabs. -/
  | noTab (position : Int) (count : Nat)
  /-- Nothing is chosen in a list of options. -/
  | noOption
  /-- The window of this engine cannot be moved. -/
  | fixedWindow (engine : BrowserEngine)
  /-- The browser engine raised something. -/
  | engineFailed (action text : String)
  deriving DecidableEq, Repr

/-- The wording of a refusal. -/
def Refusal.message : Refusal → String
  | notStarted => "Browser session is not started"
  | noAlert => "No alert is open"
  | noTab position count => "No tab at position " ++ toString position ++ "; " ++ toString count ++
      " open"
  | noOption => "No option is selected"
  | fixedWindow engine => "Moving the window needs chromium, not " ++ engine.name
  | engineFailed action text => action ++ " failed: " ++ text

/-- A refusal as it is seen from outside. -/
def Refusal.toFault (r : Refusal) : Fault := ⟨"SessionError", r.message⟩

/-- The name of the faults that the browser engine raises. -/
def Fault.engineName : String := "Error"

/-- Whether the browser engine raised a fault. -/
def Fault.ofEngine (f : Fault) : Bool := f.name == Fault.engineName

/-- A refusal is never mistaken for a fault of the browser engine. -/
@[simp] theorem Refusal.ofEngine_toFault (r : Refusal) : r.toFault.ofEngine = false := by
  cases r <;> rfl

end Walkthrough
