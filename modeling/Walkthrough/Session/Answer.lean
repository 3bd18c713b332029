import Walkthrough.Document
import Walkthrough.Failure
import Walkthrough.Text.Digit

/-!
# Reading answers

What scripts and elements answer is plain data of any shape. A session reads fields and whole
numbers out of it, and an answer of another shape is a fault.

Mirroring notes:
- Reading a field of what is no map, or one that is missing, raises what subscripting raises;
  `toWhole` is the cutting off of a number to a whole one.
-/

namespace Walkthrough.Document

variable {Atom : Type}

/-- The value at a key of an answer. -/
def field (d : Document Atom) (key : String) : Except Fault (Document Atom) :=
  match d with
  | map entries =>
    match entries.lookup key with
    | some d => .ok d
    | none => .error ⟨"KeyError", Text.quote key⟩
  | _ => .error ⟨"TypeError", "an answer without keys"⟩

/-- An answer as a whole number; a fraction is cut off. -/
def toWhole : Document Atom → Except Fault Int
  | bool b => .ok (if b then 1 else 0)
  | int i => .ok i
  | real r => .ok (Int.tdiv r.num r.den)
  | text s =>
    match Text.readInt s with
    | .ok i => .ok i
    | .error e => .error ⟨"ValueError", e.message⟩
  | _ => .error ⟨"TypeError", "an answer that is no number"⟩

/-- The whole number at a key of an answer. -/
def wholeField (d : Document Atom) (key : String) : Except Fault Int := do
  (← d.field key).toWhole

end Walkthrough.Document
