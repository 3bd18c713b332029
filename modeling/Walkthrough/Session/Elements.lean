import Walkthrough.Session.Answer
import Walkthrough.Session.Basic
import Walkthrough.Session.Locator
import Walkthrough.Text.Quoted

/-!
# Elements

What a session reads from the elements of a page and does to them. Corners and extents are cut off
to whole numbers, and an element that is not laid out has both at zero.

Mirroring notes:
- The definitions are the methods of `PlaywrightSession` of the same names, and `chosenOption` is
  `chosen_option`.
- `location` and `size` read the bounding box and cut its numbers off towards zero; the box is read
  inside of `translating`, its fields outside of it.
-/

namespace Walkthrough.Session

open Work

variable {Handle : Type}

/-- The script that gives a computed style. -/
def styleScript : String := "(el, prop) => getComputedStyle(el).getPropertyValue(prop)"

/-- The script that says whether an element is selected. -/
def selectedScript : String := "el => Boolean(el.checked || el.selected)"

/-- The script that gives the tag of an element. -/
def tagScript : String := "el => el.tagName.toLowerCase()"

/-- The script that gives a field of the option that is chosen in an element. -/
def selectedOptionScript : String :=
  "(el, field) => el.selectedIndex < 0 ? null : el.options[el.selectedIndex][field]"

/-- The elements that match, on the page or inside an element. -/
def findElements (criterion : Criterion) (within : Option Handle) :
    BlockingWork Handle (Datum Handle) := do
  let root ←
    match within with
    | some element => give element
    | none => currentPage
  translating ("Finding " ++ criterion.describe) (ask (.queryAll root criterion.locator))

/-- The text of an element. -/
def text (element : Handle) : BlockingWork Handle (Datum Handle) :=
  translating "Reading text" (ask (.innerText element))

/-- An attribute of an element. -/
def attributeOf (element : Handle) (name : String) : BlockingWork Handle (Datum Handle) :=
  translating ("Reading attribute " ++ name) (ask (.getAttribute element name))

/-- A computed style of an element. -/
def style (element : Handle) (property : String) : BlockingWork Handle (Datum Handle) :=
  translating ("Reading style " ++ property)
    (ask (.evaluate element styleScript (some (.text property))))

/-- Clicks on an element. -/
def click (element : Handle) : BlockingWork Handle Unit :=
  translating "Click" (ask (.click element))

/-- Types into an element. -/
def sendKeys (element : Handle) (keys : String) : BlockingWork Handle Unit :=
  translating "Typing" (ask (.type element keys))

/-- Empties an element. -/
def clear (element : Handle) : BlockingWork Handle Unit :=
  translating "Clearing" (ask (.fill element ""))

/-- Chooses the option with a text. -/
def selectByText (element : Handle) (label : String) : BlockingWork Handle Unit :=
  translating ("Selecting option " ++ Text.quote label) (ask (.selectLabel element label))

/-- Chooses the option with a value. -/
def selectByValue (element : Handle) (value : String) : BlockingWork Handle Unit :=
  translating ("Selecting option value " ++ Text.quote value) (ask (.selectValue element value))

/-- The answer about a chosen option, unless there is none. -/
def chosenOption : Datum Handle → Except Refusal (Datum Handle)
  | .null => .error .noOption
  | d => .ok d

/-- A field of the option that is chosen in an element. -/
def selectedOption (element : Handle) (field : String) : BlockingWork Handle (Datum Handle) :=
  translating "Reading the selected option" do
    expect (chosenOption (← ask (.evaluate element selectedOptionScript (some (.text field)))))

/-- The tag of an element. -/
def tagName (element : Handle) : BlockingWork Handle (Datum Handle) :=
  translating "Reading tag name" (ask (.evaluate element tagScript none))

/-- Whether an element can be used. -/
def isEnabled (element : Handle) : BlockingWork Handle (Datum Handle) :=
  translating "Reading enabled state" (ask (.isEnabled element))

/-- Whether an element is checked or chosen. -/
def isSelected (element : Handle) : BlockingWork Handle Bool :=
  translating "Reading selected state" do
    give (← ask (.evaluate element selectedScript none)).truthy

/-- Whether an element can be seen. -/
def isDisplayed (element : Handle) : BlockingWork Handle (Datum Handle) :=
  translating "Reading visibility" (ask (.isVisible element))

/-- The corner of an element. -/
def location (element : Handle) : BlockingWork Handle Point := do
  let box ← translating "Reading location" (ask (.boundingBox element))
  if box.truthy then
    let x ← read (box.wholeField "x")
    let y ← read (box.wholeField "y")
    give ⟨x, y⟩
  else give {}

/-- The extent of an element. -/
def size (element : Handle) : BlockingWork Handle Size := do
  let box ← translating "Reading size" (ask (.boundingBox element))
  if box.truthy then
    let width ← read (box.wholeField "width")
    let height ← read (box.wholeField "height")
    give ⟨width, height⟩
  else give {}

/-- The identifier of an element, empty when it has none. -/
def elementId (element : Handle) : BlockingWork Handle (Datum Handle) :=
  translating "Reading id" do
    let id ← ask (.getAttribute element "id")
    give (if id.truthy then id else .text "")

end Walkthrough.Session
