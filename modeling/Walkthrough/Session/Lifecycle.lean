import Walkthrough.Session.Basic

/-!
# From start to stop

A session opens the driver, a browser, a context and a page, one after the other, and keeps each as
soon as it has it, so that a session that fails half-way can still be stopped. Stopping closes the
context, and then the browser and the driver whether or not the context could be closed; what the
session holds is let go of only when all of that went well.

Dialogs are answered as they open.

Mirroring notes:
- `start`, `stop` and `dialogOpens` are `start`, `stop` and `_on_dialog` of `PlaywrightSession`, and
  its `quit` is `stop`. The `finally` in `stop` is `ensuring`: when both closings fail, the later
  fault is the one that is seen, and a browser that cannot be closed leaves its driver running.
- `watchPages` is the listening to the pages of the context and to the dialogs of each page
  (`_watch_page`). A dialog that opens is a turn of its own in the life of a session
  (`Turn.dialogOpens`).
- The kind of browser is picked by the name of its engine; here `launch` takes the engine.
- What is only written to the debug log is left out.
-/

namespace Walkthrough.Session

open Work

variable {Handle : Type}

/-- Starts a session. -/
def start : BlockingWork Handle Unit := do
  let config := (← held).config
  let driver ← ask .start
  change fun s => { s with driver := some driver }
  let browser ← ask (.launch driver config.engine config.launchOptions)
  change fun s => { s with browser := some browser }
  let context ← ask (.newContext browser ⟨config.viewportWidth, config.viewportHeight⟩)
  change fun s => { s with context := some context }
  ask (.watchPages context)
  let page ← ask (.newPage context)
  change fun s => { s with page := some page }

/-- Closes the context that the session holds. -/
def closeContext : BlockingWork Handle Unit := do withHeld (← held).context .closeContext

/-- Closes the browser that the session holds, and then its driver. -/
def closeBrowser : BlockingWork Handle Unit := do
  withHeld (← held).browser .closeBrowser
  withHeld (← held).driver .stopDriver

/-- Lets go of all that the session holds. -/
def release (s : Session Handle) : Session Handle :=
  { s with driver := none, browser := none, context := none, page := none }

/-- Stops a session. -/
def stop : BlockingWork Handle Unit := do
  ensuring closeContext closeBrowser
  change release

/-- A dialog opens on a page of the session. -/
def dialogOpens (dialog : Handle) (message : String) : BlockingWork Handle Unit := do
  let ((accept, text), dialogs) := (← held).dialogs.opened message
  change fun s => { s with dialogs }
  if accept then ask (.acceptDialog dialog text) else ask (.dismissDialog dialog)

end Walkthrough.Session
