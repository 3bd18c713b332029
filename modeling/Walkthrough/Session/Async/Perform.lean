import Walkthrough.Session.Async.Browsing
import Walkthrough.Session.Async.Elements
import Walkthrough.Session.Async.Lifecycle
import Walkthrough.Session.Perform

/-!
# Commands of a session, awaiting each call

What a session of the asynchronous flavour does for each command. What it answers from its own
records of dialogs needs no call.

Mirroring notes:
- `perform` is the call of the method of `AsyncPlaywrightSession` with the name of the command.
-/

namespace Walkthrough.Session.Async

open Work

variable {Handle : Type}

/-- Dismisses the alert. -/
def dismissAlert : AsyncWork Handle Unit := do
  let message ← acknowledge
  if (← held).dialogs.accept then
    warn ("Dialog " ++ Text.quote message ++ " was already accepted when it opened")

/-- What a session does for a command. -/
def perform [DecidableEq Handle] {β : Type} :
    Command Handle (Datum Handle) β → AsyncWork Handle (Datum Handle)
  | .findElements criterion within => findElements criterion within
  | .navigate url => silently (navigate url)
  | .currentUrl => currentUrl
  | .setWindowSize width height => silently (setWindowSize ⟨width, height⟩)
  | .setWindowPosition x y => silently (setWindowPosition ⟨x, y⟩)
  | .maximiseWindow => silently maximiseWindow
  | .newTab => silently newTab
  | .newWindow => silently newWindow
  | .switchTab position => silently (switchTab position)
  | .closeTab => silently closeTab
  | .back => silently back
  | .forward => silently forward
  | .refresh => silently refresh
  | .executeScript script arguments => executeScript script arguments
  | .text element => text element
  | .attribute element name => attributeOf element name
  | .style element property => style element property
  | .click element => silently (click element)
  | .sendKeys element keys => silently (sendKeys element keys)
  | .clear element => silently (clear element)
  | .selectByText element option => silently (selectByText element option)
  | .selectByValue element option => silently (selectByValue element option)
  | .selectedOptionText element => selectedOption element "text"
  | .selectedOptionValue element => selectedOption element "value"
  | .tagName element => tagName element
  | .isEnabled element => isEnabled element
  | .isSelected element => do give (.bool (← isSelected element))
  | .isDisplayed element => isDisplayed element
  | .location element => do give (ofPoint (← location element))
  | .size element => do give (ofSize (← size element))
  | .elementId element => elementId element
  | .alertPresent => do give (.bool (← held).dialogs.present)
  | .alertText => do give (.text (← alertText))
  | .acceptAlert => do
    let _ ← acknowledge
    give .null
  | .dismissAlert => silently dismissAlert
  | .alertSendKeys keys =>
    silently (change fun s => { s with dialogs := s.dialogs.stage (some keys) })
  | .quit => silently stop

end Walkthrough.Session.Async
