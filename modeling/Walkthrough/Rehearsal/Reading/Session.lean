import Walkthrough.Rehearsal.Engine
import Walkthrough.Rehearsal.Reading.Basic

/-!
# Reading steps of a session

A step of a rehearsed session is a list of a word and its arguments. An element of the scripted
engine is written as a map that holds its name; in the answers of the engine a list of elements may
be written as a map that holds their names.
-/

namespace Walkthrough.Rehearsal.Reading

variable {Atom : Type}

mutual

/-- What scripts take and give. -/
def datum : Document Atom → Reading (Datum Piece)
  | .null => .ok .null
  | .bool b => .ok (.bool b)
  | .int i => .ok (.int i)
  | .real r => .ok (.real r)
  | .text s => .ok (.text s)
  | .list items => (data items).map .list
  | .map [("el", .text name)] => .ok (.atom (.element name))
  | .map [("els", .list names)] => do
    return .list ((← names.mapM text).map fun name => .atom (.element name))
  | .map entries => (datumEntries entries).map .map
  | .atom _ => expected "plain data"

/-- Several things that scripts take and give. -/
def data : List (Document Atom) → Reading (List (Datum Piece))
  | [] => .ok []
  | d :: ds => do return (← datum d) :: (← data ds)

/-- The entries of a map that scripts take and give. -/
def datumEntries : List (String × Document Atom) → Reading (List (String × Datum Piece))
  | [] => .ok []
  | (key, d) :: rest => do return (key, ← datum d) :: (← datumEntries rest)

end

/-- An answer of the engine: a fault under a key of its own, or what it looks like. -/
def response (d : Document Atom) : Reading (Except Fault (Datum Piece)) :=
  if has d "raise" then (fault (part d "raise")).map .error else (datum d).map .ok

/-- The answers to each kind of call. -/
def responses (d : Document Atom) :
    Reading (List (String × Queue (Except Fault (Datum Piece)))) :=
  table (fun d => (listOf response d).map Queue.mk) d

/-- An element of the scripted engine. -/
def handle (d : Document Atom) : Reading Piece := do
  return .element (← text (part d "el"))

/-- A step that has only an element as its argument. -/
def elementStep (word : String) (e : Piece) : Reading SessionStep :=
  match word with
  | "text" => .ok (.command (.text e))
  | "click" => .ok (.command (.click e))
  | "clear" => .ok (.command (.clear e))
  | "selected_option_text" => .ok (.command (.selectedOptionText e))
  | "selected_option_value" => .ok (.command (.selectedOptionValue e))
  | "tag_name" => .ok (.command (.tagName e))
  | "is_enabled" => .ok (.command (.isEnabled e))
  | "is_selected" => .ok (.command (.isSelected e))
  | "is_displayed" => .ok (.command (.isDisplayed e))
  | "location" => .ok (.command (.location e))
  | "size" => .ok (.command (.size e))
  | "element_id" => .ok (.command (.elementId e))
  | _ => expected ("a step on an element instead of " ++ word)

/-- A step that has an element and a text as its arguments. -/
def elementTextStep (word : String) (e : Piece) (t : String) : Reading SessionStep :=
  match word with
  | "attribute" => .ok (.command (.attribute e t))
  | "style" => .ok (.command (.style e t))
  | "send_keys" => .ok (.command (.sendKeys e t))
  | "select_by_text" => .ok (.command (.selectByText e t))
  | "select_by_value" => .ok (.command (.selectByValue e t))
  | _ => expected ("a step on an element instead of " ++ word)

/-- A step without arguments. -/
def bareStep (word : String) : Reading SessionStep :=
  match word with
  | "current_url" => .ok (.command .currentUrl)
  | "maximise_window" => .ok (.command .maximiseWindow)
  | "new_tab" => .ok (.command .newTab)
  | "new_window" => .ok (.command .newWindow)
  | "close_tab" => .ok (.command .closeTab)
  | "back" => .ok (.command .back)
  | "forward" => .ok (.command .forward)
  | "refresh" => .ok (.command .refresh)
  | "alert_present" => .ok (.command .alertPresent)
  | "alert_text" => .ok (.command .alertText)
  | "accept_alert" => .ok (.command .acceptAlert)
  | "dismiss_alert" => .ok (.command .dismissAlert)
  | "quit" => .ok (.command .quit)
  | "start" => .ok (.turn .start)
  | "stop" => .ok (.turn .stop)
  | "page" => .ok .page
  | _ => expected ("a step instead of " ++ word)

/-- A step of a session. -/
def sessionStep (d : Document Atom) : Reading SessionStep :=
  match items d with
  | [.text word] => bareStep word
  | [.text "find_elements", c] => make (fun c => .command (.findElements c none)) (criterion c)
  | [.text "find_elements", c, e] =>
    make₂ (fun c e => .command (.findElements c e)) (criterion c) (optional handle e)
  | [.text "navigate", url] => make (fun url => .command (.navigate url)) (text url)
  | [.text "set_window_size", w, h] =>
    make₂ (fun w h => .command (.setWindowSize w h)) (whole w) (whole h)
  | [.text "set_window_position", x, y] =>
    make₂ (fun x y => .command (.setWindowPosition x y)) (whole x) (whole y)
  | [.text "switch_tab", n] => make (fun n => .command (.switchTab n)) (whole n)
  | [.text "alert_send_keys", t] => make (fun t => .command (.alertSendKeys t)) (text t)
  | .text "execute_script" :: script :: given =>
    make₂ (fun script given => .command (.executeScript script given)) (text script)
      (given.mapM datum)
  | [.text "pages", n] => make (fun n => .pages n.toNat) (whole n)
  | [.text "dialog", _, message] =>
    make (fun message => .turn (.dialogOpens .dialog message)) (text message)
  | [.text "accept", b] => .ok (.accept (flag false b))
  | [.text word, e] =>
    match handle e with
    | .ok e => elementStep word e
    | .error m => .error m
  | [.text word, e, t] =>
    match handle e, text t with
    | .ok e, .ok t => elementTextStep word e t
    | .error m, _ => .error m
    | _, .error m => .error m
  | _ => expected "a step"

end Walkthrough.Rehearsal.Reading
