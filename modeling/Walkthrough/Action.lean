import Walkthrough.Snapshot
import Walkthrough.Text.Digit

/-!
# Actions on a browser

Flows that drive the session of a run: moving around, windows and tabs, alerts, and whatever is done
to a single element. An element action finds its element first and fails unless exactly one matches;
only then does it ask the session to act.

Mirroring notes:
- The flows have their names; `announced` is what they have in common, an information line before
  the call of the session, and `onElement` is `_on_element`.
- `parseZIndex` is the parsing in `z_index`, with the digits that count as such there.
-/

namespace Walkthrough.Action

variable {H : Host} {α : Type}

/-- Writes a line, then asks the session to do something. -/
def announced (line label : String) (command : Command H.Element H.Datum α) : Flow H α :=
  (Flow.info line).andThen (.callSession label command)

/-! ## The browser -/

def navigate (url : String) : Flow H Unit :=
  announced ("Navigate to " ++ url) ("Failed to navigate to " ++ url) (.navigate url)

def currentUrl : Flow H String := .callSession "Failed to read the current url" .currentUrl

def setWindowSize (width height : Int) : Flow H Unit :=
  announced ("Set window size to " ++ toString width ++ "x" ++ toString height)
    "Failed to set the window size" (.setWindowSize width height)

def setWindowPosition (x y : Int) : Flow H Unit :=
  let place := toString x ++ ", " ++ toString y
  announced ("Move window to " ++ place) ("Failed to move the window to " ++ place)
    (.setWindowPosition x y)

def maximiseWindow : Flow H Unit :=
  announced "Maximise window" "Failed to maximise the window" .maximiseWindow

def newTab : Flow H Unit := announced "Open new tab" "Failed to open a new tab" .newTab

def newWindow : Flow H Unit := announced "Open new window" "Failed to open a new window" .newWindow

/-- Makes the tab at a position the current one, counted from zero in opening order. -/
def switchTab (position : Int) : Flow H Unit :=
  announced ("Switch to tab " ++ toString position)
    ("Failed to switch to tab " ++ toString position) (.switchTab position)

def closeTab : Flow H Unit := announced "Close tab" "Failed to close the tab" .closeTab

def back : Flow H Unit := announced "Navigate back" "Failed to navigate back" .back

def forward : Flow H Unit := announced "Navigate forward" "Failed to navigate forward" .forward

def refresh : Flow H Unit := announced "Refresh page" "Failed to refresh" .refresh

/-- Evaluates a script on the page. -/
def evalScript (script : String) (arguments : List H.Datum) : Flow H H.Datum :=
  .callSession "Failed to evaluate script" (.executeScript script arguments)

def alertPresent : Flow H Bool := .callSession "Failed to check for an alert" .alertPresent

def alertText : Flow H String := .callSession "Failed to read the alert text" .alertText

def acceptAlert : Flow H Unit := announced "Accept alert" "Failed to accept the alert" .acceptAlert

def dismissAlert : Flow H Unit :=
  announced "Dismiss alert" "Failed to dismiss the alert" .dismissAlert

def alertSendKeys (keys : String) : Flow H Unit :=
  .callSession "Failed to type into the alert" (.alertSendKeys keys)

def quitSession : Flow H Unit := announced "Quit session" "Failed to quit the session" .quit

/-! ## Elements -/

/-- Finds the only element that matches and asks the session to do something with it. -/
def onElement (a : Selector H) (label : String)
    (command : H.Element → Command H.Element H.Datum α) : Flow H α :=
  a.findOne.bind fun element =>
    .ok (.callSession (label ++ " " ++ a.describe) (command element))

/-- Writes a line, then acts on the only element that matches. -/
def announcedOn (a : Selector H) (line label : String)
    (command : H.Element → Command H.Element H.Datum α) : Flow H α :=
  (Flow.info line).andThen (onElement a label command)

def click (a : Selector H) : Flow H Unit :=
  announcedOn a ("Click " ++ a.describe) "Failed to click" .click

def sendKeys (a : Selector H) (keys : String) : Flow H Unit :=
  announcedOn a ("Send keys \"" ++ keys ++ "\" to " ++ a.describe) "Failed to send keys to"
    (.sendKeys · keys)

def clear (a : Selector H) : Flow H Unit :=
  announcedOn a ("Clear " ++ a.describe) "Failed to clear" .clear

/-- Clears an element, then types into it. -/
def overwrite (a : Selector H) (keys : String) : Flow H Unit :=
  .context ("Overwrite " ++ a.describe) ((clear a).andThen (sendKeys a keys))

def text (a : Selector H) : Flow H String := onElement a "Failed to read text of" .text

def attributeOf (a : Selector H) (name : String) : Flow H (Option String) :=
  onElement a ("Failed to read attribute " ++ name ++ " of") (.attribute · name)

def value (a : Selector H) : Flow H (Option String) := attributeOf a "value"

def style (a : Selector H) (property : String) : Flow H String :=
  onElement a ("Failed to read style " ++ property ++ " of") (.style · property)

/-- What is thrown when a text is not a whole number. -/
def thrownByInt (e : Text.IntError) : Thrown := .fault ⟨"ValueError", e.message⟩

/-- The number that a computed stacking order shows, if it shows one: minus signs, then digits. -/
def parseZIndex (raw : String) : Except Text.IntError (Option Int) :=
  let stripped := Text.strip raw
  let digits := stripped.toList.dropWhile (· = '-')
  if !digits.isEmpty && digits.all Text.isDigit then (Text.readInt stripped).map some
  else .ok none

/-- The computed stacking order of an element, if it is a number. -/
def zIndex (a : Selector H) : Flow H (Option Int) :=
  (style a "z-index").map fun raw =>
    match parseZIndex raw with
    | .ok i => .ok i
    | .error e => .throw (thrownByInt e)

def displayed (a : Selector H) : Flow H Bool :=
  onElement a "Failed to read visibility of" .isDisplayed

def enabled (a : Selector H) : Flow H Bool :=
  onElement a "Failed to read enabled state of" .isEnabled

/-- Whether any element matches. -/
def «exists» (a : Selector H) : Flow H Bool := a.findAll.map fun found => .ok !found.isEmpty

/-- The script that says whether something else lies over the centre of an element. -/
def obscuredScript : String :=
  "([el]) => \x7b\n" ++
  "    const box = el.getBoundingClientRect();\n" ++
  "    const top = document.elementFromPoint(box.left + box.width / 2, " ++
  "box.top + box.height / 2);\n" ++
  "    return top !== null && top !== el && !el.contains(top);\n" ++
  "\x7d"

/-- Whether another element covers the centre of the element. -/
def obscured (a : Selector H) : Flow H Bool :=
  (onElement a "Failed to check whether an element covers" fun element =>
    .executeScript obscuredScript [H.ofElement element]).map fun d => .ok (H.truthy d)

def hasText (a : Selector H) (expected : String) : Flow H Bool :=
  (text a).map fun actual => .ok (actual == expected)

def isCheckboxChecked (a : Selector H) : Flow H Bool :=
  onElement a "Failed to read checked state of" .isSelected

/-- Clicks a checkbox only when it is not in the wanted state. -/
def setCheckbox (a : Selector H) (checked : Bool) : Flow H Unit :=
  let state := if checked then "checked" else "unchecked"
  .context ("Set " ++ a.describe ++ " " ++ state)
    ((isCheckboxChecked a).bind fun current =>
      .ok (if current == checked then .info (a.describe ++ " is already " ++ state) else click a))

def selectByText (a : Selector H) (option : String) : Flow H Unit :=
  announcedOn a ("Select \"" ++ option ++ "\" in " ++ a.describe)
    ("Failed to select \"" ++ option ++ "\" in") (.selectByText · option)

def selectByValue (a : Selector H) (option : String) : Flow H Unit :=
  announcedOn a ("Select value \"" ++ option ++ "\" in " ++ a.describe)
    ("Failed to select value \"" ++ option ++ "\" in") (.selectByValue · option)

def selectedOptionText (a : Selector H) : Flow H String :=
  onElement a "Failed to read the selected option of" .selectedOptionText

def selectedOptionValue (a : Selector H) : Flow H String :=
  onElement a "Failed to read the selected value of" .selectedOptionValue

/-- Gives an element back if it is displayed and enabled, and fails silently if it is not. -/
def ready (a : Selector H) (element : H.Element) : Flow H H.Element :=
  ((Flow.sequence
    [ .callSession ("Failed to read visibility of " ++ a.describe) (.isDisplayed element),
      .callSession ("Failed to read enabled state of " ++ a.describe) (.isEnabled element)
    ]).map fun answers => .ok (answers.all id)).bind fun isReady =>
      .ok (if isReady then .pure element
        else .failure (.ofMessage .assertion (a.describe ++ " is not clickable")) [])

/-- Waits until the only element that matches is displayed and enabled. -/
def waitUntilClickable (a : Selector H) (interval wait : Option Span) : Flow H H.Element :=
  (Flow.info ("Wait until " ++ a.describe ++ " is clickable")).andThen
    ((a.findOne.bind fun element => .ok (ready a element)).waitUntilSucceeds interval wait
      (a.describe ++ " to be clickable"))

/-- Writes one line for each element that matches and gives their snapshots. -/
def prettyPrint (a : Selector H) : Flow H (List Snapshot) :=
  .context ("Elements matching " ++ a.describe)
    (a.snapshot.bind fun snapshots =>
      .ok (if snapshots.isEmpty then (Flow.info "No elements").andThen (.pure snapshots)
        else
          (Flow.sequence (snapshots.map fun s => .info s.describe)).andThen (.pure snapshots)))

end Walkthrough.Action
