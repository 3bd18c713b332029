import Walkthrough.Session.Browsing

/-!
# Pages, tabs and windows, awaiting each call

What a session of the asynchronous flavour does with the page that has the focus and with the tabs
of its context. The context of a page, its open pages, the address, and the readiness for a window
that is going to open are there at once; everything else is awaited.

Mirroring notes:
- The definitions are the methods of the same names of `AsyncPlaywrightSession`, written down anew.
  What is read off a page or a context without an `await` is `glance`.
-/

namespace Walkthrough.Session.Async

open Work

variable {Handle : Type}

/-- Opens an address. -/
def navigate (url : String) : AsyncWork Handle Unit :=
  translating "Navigation" do await (.goto (← currentPage) url)

/-- The address of the page. -/
def currentUrl : AsyncWork Handle (Datum Handle) := do glance (.url (← currentPage))

/-- Gives the page a viewport of some extent. -/
def setWindowSize (extent : Size) : AsyncWork Handle Unit :=
  translating "Resizing the window" do await (.setViewport (← currentPage) extent)

/-- Moves the window of the page. -/
def setWindowPosition (corner : Point) : AsyncWork Handle Unit := do
  expect (movableWindow (← held).config)
  translating "Moving the window" do
    let context ← glance (.contextOf (← currentPage))
    let inspector ← await (.newInspector context (← currentPage))
    let move : AsyncWork Handle Unit := do
      let window ← await (.send inspector "Browser.getWindowForTarget" none)
      for bounds in windowBounds corner do
        let id ← read (window.field "windowId")
        let _ ← await (.send inspector "Browser.setWindowBounds"
          (some (.map [("windowId", id), ("bounds", bounds)])))
    ensuring move (await (.detach inspector))

/-- Gives the page a viewport of the extent of the screen. -/
def maximiseWindow : AsyncWork Handle Unit :=
  translating "Maximising the window" do
    let screen ← await (.evaluate (← currentPage) screenScript none)
    let page ← currentPage
    let width ← read (screen.wholeField "width")
    let height ← read (screen.wholeField "height")
    await (.setViewport page ⟨width, height⟩)

/-- Moves the focus to a page. -/
def focus (page : Handle) : AsyncWork Handle Unit := do
  change fun s => { s with page := some page }
  await (.bringToFront page)

/-- Opens a tab, which gets the focus. -/
def newTab : AsyncWork Handle Unit :=
  translating "Opening a tab" do
    let context ← glance (.contextOf (← currentPage))
    focus (← await (.newPage context))

/-- Opens a window, which gets the focus. -/
def newWindow : AsyncWork Handle Unit :=
  translating "Opening a window" do
    let opener ← currentPage
    glance (.expectPopup opener)
    let _ ← await (.evaluate (← currentPage) popupScript none)
    focus (← await (.popup opener))

/-- Moves the focus to the tab at a position. -/
def switchTab (position : Int) : AsyncWork Handle Unit :=
  translating ("Switching to tab " ++ toString position) do
    let context ← glance (.contextOf (← currentPage))
    let tabs ← glance (.pages context)
    focus (← expect (Tabs.tabAt tabs position))

/-- Closes the tab that has the focus, which goes to the tab before it. -/
def closeTab [DecidableEq Handle] : AsyncWork Handle Unit := do
  let context ← glance (.contextOf (← currentPage))
  translating "Closing the tab" do
    let tabs ← glance (.pages context)
    match tabs.idxOf? (← currentPage) with
    | none => fail strayFocus
    | some closed =>
      await (.closePage (← currentPage))
      let remaining ← glance (.pages context)
      match (Tabs.focusAfterClose closed remaining.length).bind fun n => remaining[n]? with
      | none => change fun s => { s with page := none }
      | some next => focus next

/-- Goes back in the history of the page. -/
def back : AsyncWork Handle Unit := translating "Going back" do await (.goBack (← currentPage))

/-- Goes forward in the history of the page. -/
def forward : AsyncWork Handle Unit :=
  translating "Going forward" do await (.goForward (← currentPage))

/-- Loads the page again. -/
def refresh : AsyncWork Handle Unit := translating "Reloading" do await (.reload (← currentPage))

/-- Runs a script on the page. -/
def executeScript (script : String) (arguments : List (Datum Handle)) :
    AsyncWork Handle (Datum Handle) :=
  translating "Script evaluation" do
    await (.evaluate (← currentPage) script (some (.list arguments)))

end Walkthrough.Session.Async
