import Walkthrough.Session.Basic

/-!
# From start to stop, awaiting each call

A session of the asynchronous flavour keeps each thing as soon as the call that gives it has been
awaited. Stopping awaits the end of the context before that of the browser and the driver. A dialog
is put on record before its answer is awaited.

Mirroring notes:
- The definitions are the methods of the same names of `AsyncPlaywrightSession`, written down anew
  and not taken from those of the flavour that blocks. A call under an `await` is `await` here, any
  other one is `glance`; the two flavours are compared in `Session.liveAsync_twin`.
-/

namespace Walkthrough.Session.Async

open Work

variable {Handle : Type}

/-- Starts a session. -/
def start : AsyncWork Handle Unit := do
  let config := (← held).config
  let driver ← await .start
  change fun s => { s with driver := some driver }
  let browser ← await (.launch driver config.engine config.launchOptions)
  change fun s => { s with browser := some browser }
  let context ← await (.newContext browser ⟨config.viewportWidth, config.viewportHeight⟩)
  change fun s => { s with context := some context }
  glance (.watchPages context)
  let page ← await (.newPage context)
  change fun s => { s with page := some page }

/-- Closes the context that the session holds. -/
def closeContext : AsyncWork Handle Unit := do
  withHeld (← held).context fun context => .awaited (.closeContext context) rfl

/-- Closes the browser that the session holds, and then its driver. -/
def closeBrowser : AsyncWork Handle Unit := do
  withHeld (← held).browser fun browser => .awaited (.closeBrowser browser) rfl
  withHeld (← held).driver fun driver => .awaited (.stopDriver driver) rfl

/-- Stops a session. -/
def stop : AsyncWork Handle Unit := do
  ensuring closeContext closeBrowser
  change fun s => { s with context := none, browser := none, driver := none, page := none }

/-- A dialog opens on a page of the session. -/
def dialogOpens (dialog : Handle) (message : String) : AsyncWork Handle Unit := do
  let ((accept, text), dialogs) := (← held).dialogs.opened message
  change fun s => { s with dialogs }
  if accept then await (.acceptDialog dialog text) else await (.dismissDialog dialog)

end Walkthrough.Session.Async
