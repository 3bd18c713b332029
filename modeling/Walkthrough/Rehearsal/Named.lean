import Walkthrough.Assertion
import Walkthrough.Rehearsal.Expression

/-!
# Actions by name

The words that scripts use for actions and for the commands of a session, and the values that the
answers become.
-/

namespace Walkthrough.Rehearsal

/-- A flow of a rehearsal. -/
abbrev RFlow (α : Type) : Type 1 := Flow host α

/-- The selector of a rehearsal. -/
abbrev RSelector : Type 1 := Selector host

namespace Value

/-- The value of something that gives nothing. -/
def ofUnit (_ : Unit) : Value := null

/-- The value of elements. -/
def ofElements (es : List ElementHandle) : Value := list (es.map element)

/-- The value of something that may be missing. -/
def ofOption {α : Type} (f : α → Value) : Option α → Value
  | some a => f a
  | none => null

/-- The value of snapshots. -/
def ofSnapshots (ss : List Snapshot) : Value := list (ss.map snapshot)

/-- The value of a corner. -/
def ofPoint (p : Point) : Value := map [("x", int p.x), ("y", int p.y)]

/-- The value of an extent. -/
def ofSize (s : Size) : Value := map [("width", int s.width), ("height", int s.height)]

end Value

/-- The action on an element with this name and these arguments. -/
def elementAction? (name : String) (a : RSelector) (arguments : List Value)
    (interval wait : Option Span) : Option (RFlow Value) :=
  match name, arguments with
  | "click", [] => some ((Action.click a).retype Value.ofUnit)
  | "send_keys", [.text t] => some ((Action.sendKeys a t).retype Value.ofUnit)
  | "clear", [] => some ((Action.clear a).retype Value.ofUnit)
  | "overwrite", [.text t] => some ((Action.overwrite a t).retype Value.ofUnit)
  | "text", [] => some ((Action.text a).retype Value.text)
  | "attribute", [.text n] => some ((Action.attributeOf a n).retype (Value.ofOption Value.text))
  | "value", [] => some ((Action.value a).retype (Value.ofOption Value.text))
  | "style", [.text n] => some ((Action.style a n).retype Value.text)
  | "z_index", [] => some ((Action.zIndex a).retype (Value.ofOption Value.int))
  | "displayed", [] => some ((Action.displayed a).retype Value.bool)
  | "enabled", [] => some ((Action.enabled a).retype Value.bool)
  | "exists", [] => some ((Action.exists a).retype Value.bool)
  | "obscured", [] => some ((Action.obscured a).retype Value.bool)
  | "has_text", [.text t] => some ((Action.hasText a t).retype Value.bool)
  | "is_checkbox_checked", [] => some ((Action.isCheckboxChecked a).retype Value.bool)
  | "set_checkbox", [.bool b] => some ((Action.setCheckbox a b).retype Value.ofUnit)
  | "select_by_text", [.text t] => some ((Action.selectByText a t).retype Value.ofUnit)
  | "select_by_value", [.text t] => some ((Action.selectByValue a t).retype Value.ofUnit)
  | "selected_option_text", [] => some ((Action.selectedOptionText a).retype Value.text)
  | "selected_option_value", [] => some ((Action.selectedOptionValue a).retype Value.text)
  | "wait_until_clickable", [] =>
    some ((Action.waitUntilClickable a interval wait).retype Value.element)
  | "find", [] => some (a.findAll.retype Value.ofElements)
  | "find1", [] => some (a.findOne.retype Value.element)
  | "pretty_print", [] => some ((Action.prettyPrint a).retype Value.ofSnapshots)
  | _, _ => none

/-- The action on the browser with this name and these arguments. -/
def browserAction? (name : String) (arguments : List Value) : Option (RFlow Value) :=
  match name, arguments with
  | "navigate", [.text url] => some ((Action.navigate url).retype Value.ofUnit)
  | "current_url", [] => some (Action.currentUrl.retype Value.text)
  | "set_window_size", [.int w, .int h] => some ((Action.setWindowSize w h).retype Value.ofUnit)
  | "set_window_position", [.int x, .int y] =>
    some ((Action.setWindowPosition x y).retype Value.ofUnit)
  | "maximise_window", [] => some (Action.maximiseWindow.retype Value.ofUnit)
  | "new_tab", [] => some (Action.newTab.retype Value.ofUnit)
  | "new_window", [] => some (Action.newWindow.retype Value.ofUnit)
  | "switch_tab", [.int n] => some ((Action.switchTab n).retype Value.ofUnit)
  | "close_tab", [] => some (Action.closeTab.retype Value.ofUnit)
  | "back", [] => some (Action.back.retype Value.ofUnit)
  | "forward", [] => some (Action.forward.retype Value.ofUnit)
  | "refresh", [] => some (Action.refresh.retype Value.ofUnit)
  | "eval_js", .text script :: arguments => some (Action.evalScript script arguments)
  | "alert_present", [] => some (Action.alertPresent.retype Value.bool)
  | "alert_text", [] => some (Action.alertText.retype Value.text)
  | "accept_alert", [] => some (Action.acceptAlert.retype Value.ofUnit)
  | "dismiss_alert", [] => some (Action.dismissAlert.retype Value.ofUnit)
  | "alert_send_keys", [.text t] => some ((Action.alertSendKeys t).retype Value.ofUnit)
  | "quit_session", [] => some (Action.quitSession.retype Value.ofUnit)
  | _, _ => none

/-- A command and what its answer becomes. -/
structure NamedCommand where
  {α : Type}
  command : Command ElementHandle Value α
  answer : α → Value

/-- The criterion that a value is. -/
def criterionOf? : Value → Option Criterion
  | .map entries =>
    match entries.lookup "by", entries.lookup "value" with
    | some (.text by_), some (.text value) =>
      (Strategy.ofWords? by_).map fun strategy => ⟨strategy, value⟩
    | _, _ => none
  | _ => none

/-- The command with this name and these arguments. -/
def NamedCommand.of? (name : String) (arguments : List Value) : Option NamedCommand :=
  match name, arguments with
  | "find_elements", [c] =>
    (criterionOf? c).map fun c => ⟨.findElements c none, Value.ofElements⟩
  | "navigate", [.text url] => some ⟨.navigate url, Value.ofUnit⟩
  | "current_url", [] => some ⟨.currentUrl, Value.text⟩
  | "set_window_size", [.int w, .int h] => some ⟨.setWindowSize w h, Value.ofUnit⟩
  | "set_window_position", [.int x, .int y] => some ⟨.setWindowPosition x y, Value.ofUnit⟩
  | "maximise_window", [] => some ⟨.maximiseWindow, Value.ofUnit⟩
  | "new_tab", [] => some ⟨.newTab, Value.ofUnit⟩
  | "new_window", [] => some ⟨.newWindow, Value.ofUnit⟩
  | "switch_tab", [.int n] => some ⟨.switchTab n, Value.ofUnit⟩
  | "close_tab", [] => some ⟨.closeTab, Value.ofUnit⟩
  | "back", [] => some ⟨.back, Value.ofUnit⟩
  | "forward", [] => some ⟨.forward, Value.ofUnit⟩
  | "refresh", [] => some ⟨.refresh, Value.ofUnit⟩
  | "execute_script", .text script :: arguments => some ⟨.executeScript script arguments, id⟩
  | "text", [.element e] => some ⟨.text e, Value.text⟩
  | "attribute", [.element e, .text n] => some ⟨.attribute e n, Value.ofOption Value.text⟩
  | "style", [.element e, .text n] => some ⟨.style e n, Value.text⟩
  | "click", [.element e] => some ⟨.click e, Value.ofUnit⟩
  | "send_keys", [.element e, .text t] => some ⟨.sendKeys e t, Value.ofUnit⟩
  | "clear", [.element e] => some ⟨.clear e, Value.ofUnit⟩
  | "select_by_text", [.element e, .text t] => some ⟨.selectByText e t, Value.ofUnit⟩
  | "select_by_value", [.element e, .text t] => some ⟨.selectByValue e t, Value.ofUnit⟩
  | "selected_option_text", [.element e] => some ⟨.selectedOptionText e, Value.text⟩
  | "selected_option_value", [.element e] => some ⟨.selectedOptionValue e, Value.text⟩
  | "tag_name", [.element e] => some ⟨.tagName e, Value.text⟩
  | "is_enabled", [.element e] => some ⟨.isEnabled e, Value.bool⟩
  | "is_selected", [.element e] => some ⟨.isSelected e, Value.bool⟩
  | "is_displayed", [.element e] => some ⟨.isDisplayed e, Value.bool⟩
  | "location", [.element e] => some ⟨.location e, Value.ofPoint⟩
  | "size", [.element e] => some ⟨.size e, Value.ofSize⟩
  | "element_id", [.element e] => some ⟨.elementId e, Value.text⟩
  | "alert_present", [] => some ⟨.alertPresent, Value.bool⟩
  | "alert_text", [] => some ⟨.alertText, Value.text⟩
  | "accept_alert", [] => some ⟨.acceptAlert, Value.ofUnit⟩
  | "dismiss_alert", [] => some ⟨.dismissAlert, Value.ofUnit⟩
  | "alert_send_keys", [.text t] => some ⟨.alertSendKeys t, Value.ofUnit⟩
  | "quit", [] => some ⟨.quit, Value.ofUnit⟩
  | _, _ => none

end Walkthrough.Rehearsal
