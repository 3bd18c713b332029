import Walkthrough.Rehearsal.Reading.Expression
import Walkthrough.Rehearsal.Script

/-!
# Reading scripts

A map with the key `c` is a script of the kind that the key says; every other document is an
expression. The value of a key of a script may be a script again, so the readers of scripts are
built from the readers of the scripts inside them. `parts` builds them to a depth, and the depth of
a document is always enough for it.
-/

namespace Walkthrough.Rehearsal.Reading

variable {Atom : Type}

/-- What becomes of the failure that ends a run. -/
def failurePlan : Document Atom → FailurePlan
  | .text "raise" => .breakDown
  | .text "default" => .usual
  | _ => .record

/-- A length of time in seconds, as a duration. -/
def seconds : Document Atom → Reading Duration
  | .int i => .ok ⟨i * 1000000⟩
  | d => (number d).map (Duration.ofSeconds precision)

/-- The settings of a run. -/
def settingsPlan (d : Document Atom) : Reading SettingsPlan := do
  return {
    wait := ← optional seconds (part d "wait")
    interval := ← optional seconds (part d "interval")
    dispose := flag false (part d "dispose")
    logging := flag true (part d "log")
    breaksOn := ← optional text (part d "log_raise")
    stream := flag false (part d "stream")
    failures := failurePlan (part d "failure") }

/-- How a loop goes on. -/
def pace (d : Document Atom) : Reading Pace := do
  return {
    interval := ← optional span (part d "interval")
    wait := ← optional span (part d "wait") }

/-- What is raised about a document that should be a script, when its key `c` is asked for. -/
def noScript : Document Atom → Fault
  | .list _ => ⟨"TypeError", "list indices must be integers or slices, not str"⟩
  | .text _ => ⟨"TypeError", "string indices must be integers, not 'str'"⟩
  | .map _ => ⟨"KeyError", "'c'"⟩
  | .bool _ => unsubscriptable "bool"
  | .int _ => unsubscriptable "int"
  | .real _ | .atom _ => unsubscriptable "float"
  | .null => unsubscriptable "NoneType"
where
  /-- What is raised about a value that has no parts. -/
  unsubscriptable (typeName : String) : Fault :=
    ⟨"TypeError", "'" ++ typeName ++ "' object is not subscriptable"⟩

/-- The readers of scripts and selectors. -/
structure Parts (Atom : Type) where
  script : Document Atom → Reading Script
  selector : Document Atom → Reading SelectorPlan

namespace Parts

variable (inner : Parts Atom)

/-- A function of one argument: the name of its variable, and its body at a key. -/
def callback (d : Document Atom) (key : String) : Reading Callback := do
  return .mk (← textOr "x" (part d "var")) (← inner.script (part d key))

/-- A function of one argument, if its key is there. -/
def callback? (d : Document Atom) (key : String) : Reading (Option Callback) :=
  if has d key then (inner.callback d key).map some else .ok none

/-- A function of one argument that makes a flow. A body that is no script is refused when the
function is called, and not before. -/
def maker (d : Document Atom) (key : String) : Reading Callback := do
  let body := part d key
  if has body "c" then inner.callback d key
  else
    let fault := noScript body
    return .mk (← textOr "x" (part d "var"))
      (.expr (.raise (.fault fault.name) (.lit (.text fault.text))))

/-- A step of a flow that is written as a list of steps. -/
def doStep (d : Document Atom) : Reading DoStep := do
  if has d "run" then return .run (← inner.script (part d "run")) (← optional text (part d "var"))
  else if has d "yield" then return .stray (← expr (part d "yield"))
  else if has d "return_if" then
    return .returnIf (← expr (part d "return_if")) (← expr (part d "return"))
  else return .eval (← optional text (part d "let")) (← expr (part d "expr"))

/-- A step of a program that asks its driver itself. -/
def programStep (d : Document Atom) : Reading ProgramStep := do
  let var ← optional text (part d "var")
  if has d "run" then
    let env ← if has d "env" then (expr (part d "env")).map some else .ok none
    return .run (← inner.script (part d "run")) var env (isSet (part d "from_start"))
  else if has d "sleep" then return .sleep (← number (part d "sleep"))
  else if has d "await" then return .await (← expr (part d "await")) (isSet (part d "catch")) var
  else if has d "request" then return .request (← expr (part d "request"))
  else return .eval (← expr (part d "expr"))

/-- The steps of a flow that is written as code. -/
def code (d : Document Atom) : Reading Script := do
  match part d "style" with
  | .text "plain" => return .plainCode (← expr (part d "return"))
  | .text "computation" => return .flowCode (← inner.script (part d "of"))
  | _ =>
    let closing ← if has d "closing" then (value (part d "closing")).map some else .ok none
    return .steps (← listOf inner.doStep (part d "steps")) (← expr (part d "return")) closing

/-- A program that asks its driver itself. -/
def program (d : Document Atom) : Reading Script := do
  let fault ← if has d "fault" then (expr (part d "fault")).map some else .ok none
  return .program (← listOf inner.programStep (part d "steps")) (← expr (part d "return")) fault

/-- Outside code that may fail, with the label of the failure. -/
def tryCall (d : Document Atom) : Reading Script := do
  let code ← expr (part d "expr")
  let asynchronous := isSet (part d "async")
  if has d "label_expr" then
    return .tryCallWith code asynchronous (← textOr "x" (part d "var"))
      (← expr (part d "label_expr"))
  else return .tryCall code asynchronous (← expr (part d "label"))

/-- The changes of a state: an expression for each field. -/
def changes (d : Document Atom) : Reading (List (StateField × Expr)) :=
  (entries d).mapM fun (key, d) => do
    return (← stateField (.text key : Document Atom), ← expr d)

/-- The words for the actions on the browser; every other action is one on an element. -/
def browserWords : List String :=
  ["navigate", "current_url", "set_window_size", "set_window_position", "maximise_window",
    "new_tab", "new_window", "switch_tab", "close_tab", "back", "forward", "refresh", "eval_js",
    "alert_present", "alert_text", "accept_alert", "dismiss_alert", "alert_send_keys",
    "quit_session"]

/-- An action by its name. -/
def action (name : String) (given : List (Document Atom)) : Reading Script := do
  if browserWords.contains name then return .act name none (← given.mapM expr) {}
  else
    match given with
    | [] => expected "a selector"
    | first :: rest =>
      let selector ← inner.selector first
      if name = "wait_until_clickable" then
        let spans ← rest.mapM (optional span)
        return .act name (some selector) [] { interval := spans[0]?.join, wait := spans[1]?.join }
      else return .act name (some selector) (← rest.mapM expr) {}

/-- Loops over a flow. -/
def loop (kind : String) (d : Document Atom) : Reading Script := do
  let flow ← inner.script (part d "of")
  match kind with
  | "wait_until" =>
    return .waitUntil flow (← inner.callback d "while") (← pace d)
      (← exprOr "condition" (part d "label")) (← inner.callback? d "describe")
  | "wait_until_succeeds" =>
    return .waitUntilSucceeds flow (← pace d) (← exprOr "step to succeed" (part d "label"))
  | "do_while" =>
    let most ← optional whole (part d "max")
    return .doWhile flow (← inner.callback d "while") (most.getD 100)
  | "do_while_or_fail" =>
    let most ← optional whole (part d "max")
    return .doWhileOrFail flow (← inner.callback d "while") (most.getD 100)
      (← optional span (part d "interval"))
      (← exprOr "do while reached the max-attempts" (part d "message"))
  | _ => expected "a loop"

/-- Lookups of elements, and assertions on them. -/
def lookUp (kind : String) (d : Document Atom) : Reading Script := do
  let selector ← inner.selector (part d "selector")
  match kind with
  | "find_all" => return .find .all selector
  | "find_one" => return .find .one selector
  | "find_first" => return .find .first selector
  | "find_first_or_none" => return .find .firstOrNone selector
  | "snapshot" => return .find .snapshot selector
  | "find_inside" => return .findInside (← expr (part d "element")) selector
  | "find_within" => return .findInside (← expr (part d "element")) selector
  | "snapshot_element" =>
    let index ← optional whole (part d "index")
    return .snapshotElement (← expr (part d "element")) selector (index.getD 0)
  | "assert_text" => return .assertText selector (← expr (part d "expected"))
  | "assert_displayed" => return .assertDisplayed selector
  | _ => expected "a lookup of elements"

/-- A script of the kind that is said. -/
def flow (d : Document Atom) : Reading Script := do
  let sub (key : String) : Reading Script := inner.script (part d key)
  let subs (key : String) : Reading (List Script) := listOf inner.script (part d key)
  let ex (key : String) : Reading Expr := expr (part d key)
  let var ← textOr "x" (part d "var")
  match ← text (part d "c") with
  | "pure" => return .pure (← ex "value")
  | "unit" => return .pure (.lit .null)
  | "fail" =>
    let kind ← optional failureKind (part d "kind")
    return .fail (← ex "error") (kind.getD .assertion)
  | "failure" => return .failure (← ex "errors")
  | "info" => return .line .info (← ex "message")
  | "warn" => return .line .warn (← ex "message")
  | "error_log" => return .line .error (← ex "message")
  | "bind" => return .bind (← sub "of") (← inner.callback d "to")
  | "map" => return .map (← sub "of") var (← ex "expr")
  | "then" => return .andThen (← sub "of") (← sub "next")
  | "chain" => return .chain (← subs "items") false
  | "chain_right" => return .chain (← subs "items") true
  | "repeat" => return .replicate (← sub "of") (← whole (part d "n")) (isSet (part d "right"))
  | "or_else" => return .orElse (← sub "of") (← sub "alt")
  | "or_else_with" => return .orElseWith (← sub "of") (← inner.maker d "alt")
  | "pipe" => return .pipe (← subs "items")
  | "map_fail" => return .mapFail (← sub "of") var (← ex "expr")
  | "bimap" => return .bimap (← sub "of") var (← ex "succ") (← ex "fail")
  | "do" => inner.code d
  | "program" => inner.program d
  | "get_state" => return .getState
  | "put_state" => return .putState (← ex "state")
  | "lift_state" => return .liftState var (← ex "expr")
  | "modify_state" => return .modifyState var (← changes (part d "changes"))
  | "lift" => return .lift (← ex "expr") (isSet (part d "async"))
  | "try_call" => tryCall d
  | "require" => return .require (← ex "value") (← ex "label")
  | "ask" => return .ask
  | "asks" => return .asks var (← ex "expr")
  | "local" => return .local var (← ex "expr") (← sub "of")
  | "init_config" => return .initConfig (← ex "configuration")
  | "config" => return .config (← ex "key")
  | "init_settings" => return .initSettings (← settingsPlan (part d "settings"))
  | "default_wait" => return .defaultWait
  | "default_interval" => return .defaultInterval
  | "context" => return .context (← ex "label") (← sub "of")
  | "mute" => return .mute (← sub "of")
  | "sequence" => return .sequence (← subs "items")
  | "collect" => return .collect (← subs "items")
  | "for_each" => return .forEach (← ex "values") (← inner.callback d "body")
  | "use" =>
    return .use (← ex "resource") var (← ex "release") (isSet (part d "async")) (← sub "body")
  | "session" => return .session
  | "call_session" =>
    return .callSession (← ex "label") (← text (part d "method")) (← listOf expr (part d "args"))
  | "with_session" => return .withSession (← ex "session") (← sub "of")
  | "stopwatch" => return .stopwatch (← sub "of")
  | "pause" => return .pause (← span (part d "interval"))
  | "wait_until" => inner.loop "wait_until" d
  | "wait_until_succeeds" => inner.loop "wait_until_succeeds" d
  | "do_while" => inner.loop "do_while" d
  | "do_while_or_fail" => inner.loop "do_while_or_fail" d
  | "if" => return .choose (← ex "cond") (← sub "then") (← sub "else")
  | "as_computation" =>
    return .asFlow (← if has d "of" then sub "of" else (ex "value").map .expr)
  | "assert_that" =>
    return .assertThat (← if has d "of" then sub "of" else (ex "value").map .expr) (← ex "label")
  | "act" => inner.action (← text (part d "name")) (items (part d "args"))
  | kind => inner.lookUp kind d

/-- The strategy of a selector step. -/
def strategy : String → Reading Strategy
  | "css" => .ok .css
  | "xpath" => .ok .xpath
  | "element_id" => .ok .id
  | "name" => .ok .name
  | "tag_name" => .ok .tagName
  | "class_name" => .ok .className
  | "link_text" => .ok .linkText
  | "partial_link_text" => .ok .partialLinkText
  | _ => expected "a step of a selector"

/-- A step of a selector. -/
def selectorStep (d : Document Atom) : Reading SelectorStep := do
  match d with
  | .text "at_least_one" => return .atLeastOne
  | .text "single" => return .single
  | .text "wait_exists" => return .waitExists
  | d =>
    let description ← textOr "custom" (part d "description")
    if has d "at" then return .pick (← whole (part d "at"))
    else if has d "wait_exists_for" then
      match items (part d "wait_exists_for") with
      | [i, w] => return .waitExistsFor { interval := ← optional span i, wait := ← optional span w }
      | _ => expected "an interval and a wait"
    else if has d "filter" then return .filter (← inner.callback d "filter") description
    else if has d "wait_for" then
      return .waitFor (← inner.callback d "wait_for") description (← pace d)
    else if has d "plus" then return .plus (← inner.selector (part d "plus"))
    else
      match entries d with
      | [(name, v)] => return .lookUp (← strategy name) (← text v)
      | _ => expected "a step of a selector"

/-- The readers of scripts and selectors that hold scripts and selectors. -/
def outer : Parts Atom where
  script d := if has d "c" then inner.flow d else (expr d).map .expr
  selector d :=
    match d with
    | .text s => .ok (.criterion ⟨.css, s⟩)
    | d =>
      if has d "sel" then (listOf inner.selectorStep (part d "sel")).map .steps
      else (criterion d).map .criterion

end Parts

/-- The readers of scripts and selectors up to a depth. -/
def parts : Nat → Parts Atom
  | 0 => ⟨fun _ => expected "the end", fun _ => expected "the end"⟩
  | depth + 1 => (parts depth).outer

/-- A script. -/
def script (d : Document Atom) : Reading Script := (parts (d.depth + 1)).script d

/-- A selector. -/
def selector (d : Document Atom) : Reading SelectorPlan := (parts (d.depth + 1)).selector d

end Walkthrough.Rehearsal.Reading
