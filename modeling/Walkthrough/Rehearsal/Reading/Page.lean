import Walkthrough.Rehearsal.Page
import Walkthrough.Rehearsal.Reading.Basic

/-!
# Reading pages

A page is a map with a list of elements, and each element is a map that may have a list of children.
A reading that changes in the course of a rehearsal is written as a list.
-/

namespace Walkthrough.Rehearsal.Reading

variable {Atom α : Type}

/-- Readings that are used up one after the other: a list of them, or a single one. -/
def queue (read : Document Atom → Reading α) : Document Atom → Reading (Queue α)
  | .list items => do return ⟨← items.mapM read⟩
  | d => do return .constant (← read d)

/-- Readings that are used up one after the other, or always the same one for nothing. -/
def queueOr (default : α) (read : Document Atom → Reading α) :
    Document Atom → Reading (Queue α)
  | .null => .ok (.constant default)
  | d => queue read d

/-- Whether something is so; it is not when nothing is said. -/
def truth (d : Document Atom) : Reading Bool := .ok (flag false d)

/-- An element without its children. -/
def element (d : Document Atom) : Reading ElementPlan := do
  let box ← listOf whole (part d "box")
  return {
    tag := ← textOr "div" (part d "tag")
    text := ← queueOr "" text (part d "text")
    id := ← textOr "" (part d "id")
    classes := ← texts (part d "classes")
    attributes := ← table text (part d "attrs")
    styles := ← table text (part d "styles")
    enabled := ← queueOr true truth (part d "enabled")
    displayed := ← queueOr true truth (part d "displayed")
    selected := flag false (part d "selected")
    corner := match box with | [x, y, _, _] => ⟨x, y⟩ | _ => ⟨10, 20⟩
    extent := match box with | [_, _, w, h] => ⟨w, h⟩ | _ => ⟨100, 30⟩
    appears := (← optional whole (part d "appears")).getD 0
    vanishes := (← optional whole (part d "vanishes")).getD 1000000000 }

/-- An element with its children, down to a depth. -/
def treeTo : Nat → Document Atom → Reading TreePlan
  | 0, _ => expected "the end"
  | depth + 1, d => do
    return .node (← element d) (← listOf (treeTo depth) (part d "children"))

/-- An element with its children. -/
def tree (d : Document Atom) : Reading TreePlan := treeTo (d.depth + 1) d

/-- A page. -/
def page (d : Document Atom) : Reading Page := do
  return {
    nodes := Page.nodesOf (← listOf tree (part d "elements"))
    url := ← textOr "about:blank" (part d "url")
    alerts := ← texts (part d "alerts")
    script := ← queue value (part d "script")
    failing := ← table (queue (optional thrown)) (part d "fail")
    delays := ← table number (part d "delay")
    asynchronous := flag false (part d "async") }

end Walkthrough.Rehearsal.Reading
