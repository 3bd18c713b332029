import Walkthrough.Selector

/-!
# Snapshots of elements

A snapshot holds what can be seen of an element at one moment. `Selector.snapshotElement` asks the
session for one property after the other; an element whose identifier cannot be read has an empty
one. `Selector.snapshot` takes one snapshot of each element that matches, in order.

Mirroring notes:
- `snapshotElement` is `snapshot_element`, with the eight probes in the order in which they are
  made; `describe` is `describe` of `ElementSnapshot`.
-/

namespace Walkthrough

/-- What could be seen of an element. -/
structure Snapshot where
  selector : String
  index : Int
  elementId : String := ""
  tag : String := ""
  text : String := ""
  enabled : Bool := false
  selected : Bool := false
  location : Point := {}
  size : Size := {}
  displayed : Bool := false
  deriving DecidableEq, Repr, Inhabited

namespace Snapshot

/-- The word for a truth value. -/
def truthWord (b : Bool) : String := if b then "True" else "False"

/-- A snapshot in one line. -/
def describe (s : Snapshot) : String :=
  let ident := if s.elementId.isEmpty then "" else "#" ++ s.elementId
  "[" ++ toString s.index ++ "] <" ++ s.tag ++ ident ++ "> text=" ++ Text.quote s.text ++
    " enabled=" ++ truthWord s.enabled ++ " selected=" ++ truthWord s.selected ++
    " displayed=" ++ truthWord s.displayed ++ " at (" ++ toString s.location.x ++ ", " ++
    toString s.location.y ++ ") size " ++ toString s.size.width ++ "x" ++ toString s.size.height

end Snapshot

namespace Selector

variable {H : Host}

/-- Asks for one property of an element and says how it is filled into a snapshot. -/
def probe {α : Type} (label property : String) (command : Command H.Element H.Datum α)
    (fill : α → Snapshot → Snapshot) : Flow H (Snapshot → Snapshot) :=
  (Flow.callSession ("Failed to read " ++ property ++ " of " ++ label) command).retype fill

/-- The properties that a snapshot asks for, in order. -/
def probes (label : String) (element : H.Element) : List (Flow H (Snapshot → Snapshot)) :=
  [ (probe label "element id" (.elementId element) fun a s => { s with elementId := a }).orElse
      (.pure fun s => { s with elementId := "" }),
    probe label "tag name" (.tagName element) fun a s => { s with tag := a },
    probe label "text" (.text element) fun a s => { s with text := a },
    probe label "is enabled" (.isEnabled element) fun a s => { s with enabled := a },
    probe label "is selected" (.isSelected element) fun a s => { s with selected := a },
    probe label "location" (.location element) fun a s => { s with location := a },
    probe label "size" (.size element) fun a s => { s with size := a },
    probe label "is displayed" (.isDisplayed element) fun a s => { s with displayed := a } ]

/-- A snapshot of an element that was found by the selector. -/
def snapshotElement (element : H.Element) (a : Selector H) (index : Int) : Flow H Snapshot :=
  (Flow.sequence (probes a.describe element)).map fun fills =>
    .ok (fills.foldl (fun s fill => fill s) { selector := a.describe, index })

/-- A snapshot of each element that matches. -/
def snapshot (a : Selector H) : Flow H (List Snapshot) :=
  a.findAll.bind fun found =>
    .ok (Flow.sequence
      (found.zipIdx.map fun (element, index) => a.snapshotElement element (index : Nat)))

end Selector

end Walkthrough
