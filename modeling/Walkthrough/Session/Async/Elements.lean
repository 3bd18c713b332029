import Walkthrough.Session.Elements

/-!
# Elements, awaiting each call

What a session of the asynchronous flavour reads from the elements of a page and does to them. Every
call on an element is awaited.

Mirroring notes:
- The definitions are the methods of the same names of `AsyncPlaywrightSession`, written down anew.
-/

namespace Walkthrough.Session.Async

open Work

variable {Handle : Type}

/-- The elements that match, on the page or inside an element. -/
def findElements (criterion : Criterion) (within : Option Handle) :
    AsyncWork Handle (Datum Handle) := do
  let root ←
    match within with
    | some element => give element
    | none => currentPage
  translating ("Finding " ++ criterion.describe) (await (.queryAll root criterion.locator))

/-- The text of an element. -/
def text (element : Handle) : AsyncWork Handle (Datum Handle) :=
  translating "Reading text" (await (.innerText element))

/-- An attribute of an element. -/
def attributeOf (element : Handle) (name : String) : AsyncWork Handle (Datum Handle) :=
  translating ("Reading attribute " ++ name) (await (.getAttribute element name))

/-- A computed style of an element. -/
def style (element : Handle) (property : String) : AsyncWork Handle (Datum Handle) :=
  translating ("Reading style " ++ property)
    (await (.evaluate element styleScript (some (.text property))))

/-- Clicks on an element. -/
def click (element : Handle) : AsyncWork Handle Unit :=
  translating "Click" (await (.click element))

/-- Types into an element. -/
def sendKeys (element : Handle) (keys : String) : AsyncWork Handle Unit :=
  translating "Typing" (await (.type element keys))

/-- Empties an element. -/
def clear (element : Handle) : AsyncWork Handle Unit :=
  translating "Clearing" (await (.fill element ""))

/-- Chooses the option with a text. -/
def selectByText (element : Handle) (label : String) : AsyncWork Handle Unit :=
  translating ("Selecting option " ++ Text.quote label) (await (.selectLabel element label))

/-- Chooses the option with a value. -/
def selectByValue (element : Handle) (value : String) : AsyncWork Handle Unit :=
  translating ("Selecting option value " ++ Text.quote value) (await (.selectValue element value))

/-- A field of the option that is chosen in an element. -/
def selectedOption (element : Handle) (field : String) : AsyncWork Handle (Datum Handle) :=
  translating "Reading the selected option" do
    expect (chosenOption (← await (.evaluate element selectedOptionScript (some (.text field)))))

/-- The tag of an element. -/
def tagName (element : Handle) : AsyncWork Handle (Datum Handle) :=
  translating "Reading tag name" (await (.evaluate element tagScript none))

/-- Whether an element can be used. -/
def isEnabled (element : Handle) : AsyncWork Handle (Datum Handle) :=
  translating "Reading enabled state" (await (.isEnabled element))

/-- Whether an element is checked or chosen. -/
def isSelected (element : Handle) : AsyncWork Handle Bool :=
  translating "Reading selected state" do
    give (← await (.evaluate element selectedScript none)).truthy

/-- Whether an element can be seen. -/
def isDisplayed (element : Handle) : AsyncWork Handle (Datum Handle) :=
  translating "Reading visibility" (await (.isVisible element))

/-- The corner of an element. -/
def location (element : Handle) : AsyncWork Handle Point := do
  let box ← translating "Reading location" (await (.boundingBox element))
  if box.truthy then
    let x ← read (box.wholeField "x")
    let y ← read (box.wholeField "y")
    give ⟨x, y⟩
  else give {}

/-- The extent of an element. -/
def size (element : Handle) : AsyncWork Handle Size := do
  let box ← translating "Reading size" (await (.boundingBox element))
  if box.truthy then
    let width ← read (box.wholeField "width")
    let height ← read (box.wholeField "height")
    give ⟨width, height⟩
  else give {}

/-- The identifier of an element, empty when it has none. -/
def elementId (element : Handle) : AsyncWork Handle (Datum Handle) :=
  translating "Reading id" do
    let id ← await (.getAttribute element "id")
    give (if id.truthy then id else .text "")

end Walkthrough.Session.Async
