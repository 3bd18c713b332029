import Walkthrough.Session.Refusal

/-!
# Dialogs of a page

A page waits for the answer to each dialog that it opens, so a dialog is answered as soon as it
opens: it is accepted, with the text that was staged for it, or dismissed. Its message stays pending
until it is acknowledged, the oldest one first. A staged text is used for one dialog only.

Mirroring notes:
- `Dialogs` is `DialogTracker`: `opened` is `answer`, `stage` sets `prompt_text`, and `present`,
  `text` and `acknowledge` have their names. Answering the dialog itself is the part of the session
  (`Session.dialogOpens`).
-/

namespace Walkthrough

/-- The dialogs of a page. -/
structure Dialogs where
  /-- Whether dialogs are accepted as they open. -/
  accept : Bool := true
  /-- The text for the next dialog. -/
  staged : Option String := none
  /-- The messages that have not been acknowledged, the oldest first. -/
  pending : List String := []
  deriving DecidableEq, Repr

namespace Dialogs

/-- A dialog opens: whether it is accepted, and with which text. -/
def opened (d : Dialogs) (message : String) : (Bool × Option String) × Dialogs :=
  ((d.accept, d.staged), { d with staged := none, pending := d.pending ++ [message] })

/-- Whether a message is pending. -/
def present (d : Dialogs) : Bool := !d.pending.isEmpty

/-- The oldest pending message. -/
def text (d : Dialogs) : Except Refusal String :=
  match d.pending with
  | [] => .error .noAlert
  | message :: _ => .ok message

/-- Takes the oldest pending message away. -/
def acknowledge (d : Dialogs) : Except Refusal (String × Dialogs) :=
  match d.pending with
  | [] => .error .noAlert
  | message :: rest => .ok (message, { d with pending := rest })

/-- Stages a text for the next dialog. -/
def stage (d : Dialogs) (text : Option String) : Dialogs := { d with staged := text }

/-! ## Laws -/

theorem present_iff (d : Dialogs) : d.present = true ↔ d.pending ≠ [] := by
  simp [present]

end Dialogs

end Walkthrough
