import Walkthrough.Host
import Walkthrough.Session.Browsing
import Walkthrough.Session.Elements
import Walkthrough.Session.Lifecycle

/-!
# Commands of a session

What a session does for each command, with the answer as plain data. Alerts are the dialogs that
have not been acknowledged; they were answered when they opened, so dismissing one that was accepted
only earns a warning.

Mirroring notes:
- `perform` is the call of the method of `PlaywrightSession` with the name of the command; the
  methods on alerts stand here, `acknowledge` and `alertText` with the refusals of `DialogTracker`.
- An answer is a document, since a session hands on whatever the engine gave it.
-/

namespace Walkthrough.Session

open Work

variable {Call : Type → Type} {Handle : Type}

/-- The text of the alert. -/
def alertText : Work Call Handle String := do expect (← held).dialogs.text

/-- Acknowledges the alert and gives its text. -/
def acknowledge : Work Call Handle String := do
  let (message, dialogs) ← expect (← held).dialogs.acknowledge
  change fun s => { s with dialogs }
  give message

/-- Dismisses the alert. -/
def dismissAlert : BlockingWork Handle Unit := do
  let message ← acknowledge
  if (← held).dialogs.accept then
    warn ("Dialog " ++ Text.quote message ++ " was already accepted when it opened")

/-- Work without an answer. -/
def silently (work : Work Call Handle Unit) : Work Call Handle (Datum Handle) := do
  work
  give .null

/-- A corner as plain data. -/
def ofPoint (p : Point) : Datum Handle := .map [("x", .int p.x), ("y", .int p.y)]

/-- An extent as plain data. -/
def ofSize (s : Size) : Datum Handle := .map [("width", .int s.width), ("height", .int s.height)]

/-- What a session does for a command. -/
def perform [DecidableEq Handle] {β : Type} :
    Command Handle (Datum Handle) β → BlockingWork Handle (Datum Handle)
  | .findElements criterion within => findElements criterion within
  | .navigate url => silently (navigate url)
  | .currentUrl => currentUrl
  | .setWindowSize width height => silently (setWindowSize ⟨width, height⟩)
  | .setWindowPosition x y => silently (setWindowPosition ⟨x, y⟩)
  | .maximiseWindow => silently maximiseWindow
  | .newTab => silently newTab
  | .newWindow => silently newWindow
  | .switchTab position => silently (switchTab position)
  | .closeTab => silently closeTab
  | .back => silently back
  | .forward => silently forward
  | .refresh => silently refresh
  | .executeScript script arguments => executeScript script arguments
  | .text element => text element
  | .attribute element name => attributeOf element name
  | .style element property => style element property
  | .click element => silently (click element)
  | .sendKeys element keys => silently (sendKeys element keys)
  | .clear element => silently (clear element)
  | .selectByText element option => silently (selectByText element option)
  | .selectByValue element option => silently (selectByValue element option)
  | .selectedOptionText element => selectedOption element "text"
  | .selectedOptionValue element => selectedOption element "value"
  | .tagName element => tagName element
  | .isEnabled element => isEnabled element
  | .isSelected element => do give (.bool (← isSelected element))
  | .isDisplayed element => isDisplayed element
  | .location element => do give (ofPoint (← location element))
  | .size element => do give (ofSize (← size element))
  | .elementId element => elementId element
  | .alertPresent => do give (.bool (← held).dialogs.present)
  | .alertText => do give (.text (← alertText))
  | .acceptAlert => do
    let _ ← acknowledge
    give .null
  | .dismissAlert => silently dismissAlert
  | .alertSendKeys keys =>
    silently (change fun s => { s with dialogs := s.dialogs.stage (some keys) })
  | .quit => silently stop

end Walkthrough.Session
