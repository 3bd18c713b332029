import Walkthrough.Session.Answer
import Walkthrough.Session.Basic
import Walkthrough.Session.Tabs

/-!
# Pages, tabs and windows

What a session does with the page that has the focus and with the tabs of its context. The focus
moves to a page before that page is brought to the front, so it stays there when the engine cannot
bring it to the front.

Mirroring notes:
- The definitions are the methods of `PlaywrightSession` of the same names; `focus` is `_focus`,
  `movableWindow` is `require_window_bounds`.
- `windowBounds` are the two settings that `set_window_position` sends one after the other.
- In `closeTab` a page that is not among those of its context raises what a search in a list raises
  (`strayFocus`), which is no fault of the engine and is not translated.
-/

namespace Walkthrough.Session

open Work

variable {Handle : Type}

/-- The script that gives the extent of the screen. -/
def screenScript : String :=
  "() => (\x7bwidth: screen.availWidth, height: screen.availHeight\x7d)"

/-- The script that opens a window. -/
def popupScript : String := "() => \x7b window.open('about:blank', '_blank', 'popup'); \x7d"

/-- Opens an address. -/
def navigate (url : String) : BlockingWork Handle Unit :=
  translating "Navigation" do ask (.goto (← currentPage) url)

/-- The address of the page. -/
def currentUrl : BlockingWork Handle (Datum Handle) := do ask (.url (← currentPage))

/-- Gives the page a viewport of some extent. -/
def setWindowSize (extent : Size) : BlockingWork Handle Unit :=
  translating "Resizing the window" do ask (.setViewport (← currentPage) extent)

/-- The messages that move a window: one that is maximised has to be restored first. -/
def windowBounds (corner : Point) : List (Datum Handle) :=
  [.map [("windowState", .text "normal")],
    .map [("left", .int corner.x), ("top", .int corner.y)]]

/-- Only the window of chromium can be moved. -/
def movableWindow (c : BrowserConfig) : Except Refusal Unit :=
  if c.engine = .chromium then .ok () else .error (.fixedWindow c.engine)

/-- Moves the window of the page. -/
def setWindowPosition (corner : Point) : BlockingWork Handle Unit := do
  expect (movableWindow (← held).config)
  translating "Moving the window" do
    let page ← currentPage
    let inspector ← ask (.newInspector (← ask (.contextOf page)) page)
    let move : BlockingWork Handle Unit := do
      let window ← ask (.send inspector "Browser.getWindowForTarget" none)
      for bounds in windowBounds corner do
        let id ← read (window.field "windowId")
        let _ ← ask (.send inspector "Browser.setWindowBounds"
          (some (.map [("windowId", id), ("bounds", bounds)])))
    ensuring move (ask (.detach inspector))

/-- Gives the page a viewport of the extent of the screen. -/
def maximiseWindow : BlockingWork Handle Unit :=
  translating "Maximising the window" do
    let page ← currentPage
    let screen ← ask (.evaluate page screenScript none)
    let width ← read (screen.wholeField "width")
    let height ← read (screen.wholeField "height")
    ask (.setViewport page ⟨width, height⟩)

/-- Moves the focus to a page. -/
def focus (page : Handle) : BlockingWork Handle Unit := do
  change fun s => { s with page := some page }
  ask (.bringToFront page)

/-- Opens a tab, which gets the focus. -/
def newTab : BlockingWork Handle Unit :=
  translating "Opening a tab" do
    let context ← ask (.contextOf (← currentPage))
    focus (← ask (.newPage context))

/-- Opens a window, which gets the focus. -/
def newWindow : BlockingWork Handle Unit :=
  translating "Opening a window" do
    let page ← currentPage
    ask (.expectPopup page)
    let _ ← ask (.evaluate page popupScript none)
    focus (← ask (.popup page))

/-- The open pages of the context of a page. -/
def pagesBeside (page : Handle) : BlockingWork Handle (List Handle) := do
  ask (.pages (← ask (.contextOf page)))

/-- Moves the focus to the tab at a position. -/
def switchTab (position : Int) : BlockingWork Handle Unit :=
  translating ("Switching to tab " ++ toString position) do
    let tabs ← pagesBeside (← currentPage)
    focus (← expect (Tabs.tabAt tabs position))

/-- The fault of a focus on a page that is not open. -/
def strayFocus : Fault := ⟨"ValueError", "the page is not in list"⟩

/-- Closes the tab that has the focus, which goes to the tab before it. -/
def closeTab [DecidableEq Handle] : BlockingWork Handle Unit := do
  let page ← currentPage
  let context ← ask (.contextOf page)
  translating "Closing the tab" do
    match (← ask (.pages context)).idxOf? page with
    | none => fail strayFocus
    | some closed =>
      ask (.closePage page)
      let remaining ← ask (.pages context)
      match (Tabs.focusAfterClose closed remaining.length).bind fun n => remaining[n]? with
      | none => change fun s => { s with page := none }
      | some next => focus next

/-- Goes back in the history of the page. -/
def back : BlockingWork Handle Unit := translating "Going back" do ask (.goBack (← currentPage))

/-- Goes forward in the history of the page. -/
def forward : BlockingWork Handle Unit :=
  translating "Going forward" do ask (.goForward (← currentPage))

/-- Loads the page again. -/
def refresh : BlockingWork Handle Unit := translating "Reloading" do ask (.reload (← currentPage))

/-- Runs a script on the page. -/
def executeScript (script : String) (arguments : List (Datum Handle)) :
    BlockingWork Handle (Datum Handle) :=
  translating "Script evaluation" do
    ask (.evaluate (← currentPage) script (some (.list arguments)))

end Walkthrough.Session
