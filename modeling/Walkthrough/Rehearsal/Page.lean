import Walkthrough.Rehearsal.Value
import Walkthrough.Host

/-!
# Pages of a rehearsal

A page is a tree of elements, an address with its history, tabs, open alerts and the answers of its
scripts. Some of its properties are queues: each reading takes the next entry, and the last one
stays. A page can be told to fail or to take its time at some commands.

`Page.answer` says what a command does to the page and what it answers. The elements are kept in one
list, each before its descendants; an element's number is its place there, and the root has number
zero.
-/

namespace Walkthrough.Rehearsal

/-- Readings that are used up one after the other; the last one stays. -/
structure Queue (α : Type) where
  items : List α := []
  deriving Repr, Inhabited

namespace Queue

variable {α : Type}

/-- The same reading every time. -/
def constant (a : α) : Queue α := ⟨[a]⟩

/-- The next reading, not yet taken. -/
def head? (q : Queue α) : Option α := q.items.head?

/-- Takes the next reading. -/
def take (q : Queue α) : Option α × Queue α :=
  match q.items with
  | [] => (none, q)
  | [a] => (some a, q)
  | a :: rest => (some a, ⟨rest⟩)

end Queue

/-- An element as it is written down, with its children. -/
structure ElementPlan where
  tag : String := "div"
  text : Queue String := .constant ""
  id : String := ""
  classes : List String := []
  attributes : List (String × String) := []
  styles : List (String × String) := []
  enabled : Queue Bool := .constant true
  displayed : Queue Bool := .constant true
  selected : Bool := false
  corner : Point := ⟨10, 20⟩
  extent : Size := ⟨100, 30⟩
  /-- The element can be found from the lookup with this number on, and before the other one. -/
  appears : Int := 0
  vanishes : Int := 1000000000
  deriving Inhabited

/-- A tree of elements as it is written down. -/
inductive TreePlan where
  | node (element : ElementPlan) (children : List TreePlan)

/-- An element of a page. -/
structure Node where
  element : ElementPlan
  /-- The number of the element around it. -/
  parent : Nat
  /-- The number of its last descendant, or its own. -/
  last : Nat
  deriving Inhabited

mutual

/-- The elements of a tree, each before its descendants, counted from `number`. -/
def TreePlan.flatten (parent number : Nat) : TreePlan → List Node
  | .node element children =>
    let below := TreePlan.flattenAll number (number + 1) children
    ⟨element, parent, number + below.length⟩ :: below

/-- The elements of several trees with the same parent, counted from `number`. -/
def TreePlan.flattenAll (parent number : Nat) : List TreePlan → List Node
  | [] => []
  | t :: ts =>
    let first := t.flatten parent number
    first ++ TreePlan.flattenAll parent (number + first.length) ts

end

/-- A page. -/
structure Page where
  nodes : List Node
  url : String := "about:blank"
  history : List String := []
  /-- How many tabs are open, and which one is looked at. -/
  tabs : Nat := 1
  current : Nat := 0
  alerts : List String := []
  /-- What scripts answer. -/
  script : Queue Value := ⟨[]⟩
  /-- What each command throws, one entry per use. -/
  failing : List (String × Queue (Option Thrown)) := []
  /-- How many seconds each command takes. -/
  delays : List (String × Rat) := []
  /-- Whether what commands hand back has to be awaited. -/
  asynchronous : Bool := false
  /-- How many lookups of elements there were. -/
  lookups : Int := 0
  deriving Inhabited

/-- The root of every page. -/
def rootElement : ElementPlan := { tag := "html" }

/-- The elements of a page whose root has these children. -/
def Page.nodesOf (children : List TreePlan) : List Node :=
  (TreePlan.node rootElement children).flatten 0 0

/-- What the session says is wrong. -/
def sessionError (text : String) : Thrown := .fault ⟨"SessionError", text⟩

namespace ElementPlan

/-- The text of an element, not yet taken. -/
def headText (e : ElementPlan) : String := e.text.head?.getD ""

/-- Whether an element meets a criterion. -/
def meets (e : ElementPlan) (c : Criterion) : Bool :=
  let v := c.value
  match c.strategy with
  | .css =>
    v == "*" || v == e.tag || (!e.id.isEmpty && v == "#" ++ e.id) ||
      e.classes.any fun k => v == "." ++ k
  | .xpath => v == "//" ++ e.tag
  | .id => v == e.id
  | .name => e.attributes.lookup "name" == some v
  | .tagName => v == e.tag
  | .className => e.classes.contains v
  | .linkText => e.tag == "a" && e.headText == v
  | .partialLinkText => e.tag == "a" && 1 < (e.headText.splitOn v).length || e.tag == "a" && v == ""

end ElementPlan

namespace Page

/-- An element of the page. -/
def element (p : Page) (n : Nat) : ElementPlan := (p.nodes[n]?.map Node.element).getD default

/-- Changes an element of the page. -/
def change (p : Page) (n : Nat) (f : ElementPlan → ElementPlan) : Page :=
  { p with nodes := p.nodes.modify n fun node => { node with element := f node.element } }

/-- The numbers of the elements below an element, in order. -/
def below (p : Page) (n : Nat) : List Nat :=
  match p.nodes[n]? with
  | some node => List.range' (n + 1) (node.last - n)
  | none => []

/-- The numbers of the elements below an element that meet a criterion and can be found by the
lookup with this number. -/
def search (p : Page) (criterion : Criterion) (within : Nat) (lookup : Int) : List Nat :=
  (p.below within).filter fun n =>
    let e := p.element n
    e.appears ≤ lookup && lookup < e.vanishes && e.meets criterion

/-- The numbers of the options of a list, in order. -/
def options (p : Page) (n : Nat) : List Nat :=
  (p.below n).filter fun m =>
    (p.nodes[m]?.map Node.parent).getD 0 == n && (p.element m).tag == "option"

/-- Selects the first option with a property, and no other. -/
def choose (p : Page) (n : Nat) (complaint : String) (wanted : ElementPlan → Bool) :
    Except Thrown Unit × Page :=
  match (p.options n).find? fun m => wanted (p.element m) with
  | none => (.error (sessionError complaint), p)
  | some chosen =>
    (.ok (), (p.options n).foldl
      (fun p m => p.change m fun e => { e with selected := m == chosen }) p)

/-- The first selected option of a list. -/
def chosen (p : Page) (n : Nat) : Except Thrown ElementPlan :=
  match (p.options n).find? fun m => (p.element m).selected with
  | none => .error (sessionError "No option is selected")
  | some m => .ok (p.element m)

/-- The first open alert. -/
def firstAlert (p : Page) : Except Thrown String :=
  match p.alerts with
  | [] => .error (sessionError "No alert is open")
  | a :: _ => .ok a

/-- Closes the first open alert. -/
def closeAlert (p : Page) : Except Thrown Unit × Page :=
  match p.alerts with
  | [] => (.error (sessionError "No alert is open"), p)
  | _ :: rest => (.ok (), { p with alerts := rest })

/-- Opens a tab and looks at it. -/
def openTab (p : Page) : Page := { p with tabs := p.tabs + 1, current := p.tabs }

/-- What a command that only looks at the page answers, and what one that acts does to it. Elements
are given by their numbers. -/
def answer {β : Type} (p : Page) :
    Command ElementHandle Value β → Except Thrown β × Page
  | .findElements _ _ => (.ok [], p)
  | .navigate url => (.ok (), { p with history := p.url :: p.history, url })
  | .currentUrl => (.ok p.url, p)
  | .back =>
    match p.history with
    | [] => (.ok (), p)
    | url :: history => (.ok (), { p with url, history })
  | .newTab => (.ok (), p.openTab)
  | .newWindow => (.ok (), p.openTab)
  | .switchTab position =>
    if 0 ≤ position && position < p.tabs then (.ok (), { p with current := position.toNat })
    else
      (.error (sessionError
        ("No tab at position " ++ toString position ++ "; " ++ toString p.tabs ++ " open")), p)
  | .closeTab =>
    if p.tabs = 0 then (.error (sessionError "No tab is open"), p)
    else (.ok (), { p with tabs := p.tabs - 1, current := p.current - 1 })
  | .executeScript _ _ =>
    let (answer, script) := p.script.take
    (.ok (answer.getD .null), { p with script })
  | .text e =>
    let (text, rest) := (p.element e.number).text.take
    (.ok (text.getD ""), p.change e.number fun plan => { plan with text := rest })
  | .attribute e name => (.ok ((p.element e.number).attributes.lookup name), p)
  | .style e property => (.ok (((p.element e.number).styles.lookup property).getD ""), p)
  | .click e =>
    (.ok (), p.change e.number fun plan =>
      if plan.attributes.lookup "type" == some "checkbox" then
        { plan with selected := !plan.selected }
      else plan)
  | .sendKeys e keys =>
    (.ok (), p.change e.number fun plan => { plan with text := .constant (plan.headText ++ keys) })
  | .clear e => (.ok (), p.change e.number fun plan => { plan with text := .constant "" })
  | .selectByText e option =>
    p.choose e.number ("No option with text " ++ option) fun plan => plan.headText == option
  | .selectByValue e option =>
    p.choose e.number ("No option with value " ++ option) fun plan =>
      plan.attributes.lookup "value" == some option
  | .selectedOptionText e => ((p.chosen e.number).map ElementPlan.headText, p)
  | .selectedOptionValue e =>
    ((p.chosen e.number).map fun plan => (plan.attributes.lookup "value").getD "", p)
  | .tagName e => (.ok (p.element e.number).tag, p)
  | .isEnabled e =>
    let (enabled, rest) := (p.element e.number).enabled.take
    (.ok (enabled.getD false), p.change e.number fun plan => { plan with enabled := rest })
  | .isSelected e => (.ok (p.element e.number).selected, p)
  | .isDisplayed e =>
    let (displayed, rest) := (p.element e.number).displayed.take
    (.ok (displayed.getD false), p.change e.number fun plan => { plan with displayed := rest })
  | .location e => (.ok (p.element e.number).corner, p)
  | .size e => (.ok (p.element e.number).extent, p)
  | .elementId e => (.ok (p.element e.number).id, p)
  | .alertPresent => (.ok !p.alerts.isEmpty, p)
  | .alertText => (p.firstAlert, p)
  | .acceptAlert => p.closeAlert
  | .dismissAlert => p.closeAlert
  | .setWindowSize .. => (.ok (), p)
  | .setWindowPosition .. => (.ok (), p)
  | .maximiseWindow => (.ok (), p)
  | .forward => (.ok (), p)
  | .refresh => (.ok (), p)
  | .alertSendKeys _ => (.ok (), p)
  | .quit => (.ok (), p)

end Page

end Walkthrough.Rehearsal
