import Walkthrough.Document
import Walkthrough.Rehearsal.Expression

/-!
# Reading rehearsals

A rehearsal is written down as a document: plain data, in which a map with certain keys stands for a
flow, an element or a page, and a list that begins with a word stands for an expression. Reading
takes such a document apart, and either gives what was meant or says what was expected instead.

This module reads what all kinds of documents are made of. A key that a map does not have counts as
nothing.
-/

namespace Walkthrough.Rehearsal

universe u

/-- A document is not what was expected. -/
structure Misread where
  expected : String
  deriving DecidableEq, Repr

/-- What to say about a document that is not what was expected. -/
def Misread.message (m : Misread) : String := "expected " ++ m.expected

/-- What a document was read as, unless it is something else. -/
abbrev Reading (α : Type u) : Type u := Except Misread α

namespace Reading

variable {Atom α β : Type}

/-- Something else was expected. -/
def expected {α : Type u} (what : String) : Reading α := .error ⟨what⟩

/-- What is made from what was read. -/
def make {γ : Type u} (f : α → γ) : Reading α → Reading γ
  | .ok a => .ok (f a)
  | .error m => .error m

/-- What is made from two things that were read. -/
def make₂ {γ : Type u} (f : α → β → γ) : Reading α → Reading β → Reading γ
  | .ok a, b => make (f a) b
  | .error m, _ => .error m

/-- The value at a key. -/
def part (d : Document Atom) (key : String) : Document Atom := (d.find? [key]).getD .null

/-- Whether a document has a key. -/
def has (d : Document Atom) (key : String) : Bool := (d.find? [key]).isSome

/-- The entries of a map; anything else has none. -/
def entries : Document Atom → Document.Entries Atom
  | .map entries => entries
  | _ => []

/-- The items of a list; anything else has none. -/
def items : Document Atom → List (Document Atom)
  | .list items => items
  | _ => []

/-- A text. -/
def text : Document Atom → Reading String
  | .text s => .ok s
  | _ => expected "a text"

/-- A text, or another one for nothing. -/
def textOr (default : String) : Document Atom → Reading String
  | .null => .ok default
  | d => text d

/-- A truth value, or another one for anything else. -/
def flag (default : Bool) : Document Atom → Bool
  | .bool b => b
  | _ => default

/-- Whether something is said that is not denied. -/
def isSet : Document Atom → Bool
  | .null => false
  | .bool b => b
  | _ => true

/-- A whole number. -/
def whole : Document Atom → Reading Int
  | .int i => .ok i
  | _ => expected "a whole number"

/-- A number, kept in the precision of a rehearsal. -/
def number : Document Atom → Reading Rat
  | .int i => .ok (precision.round i)
  | .real r => .ok (precision.round r)
  | .bool b => .ok (if b then 1 else 0)
  | _ => expected "a number"

/-- What a reader gives, or nothing for nothing. -/
def optional (read : Document Atom → Reading α) : Document Atom → Reading (Option α)
  | .null => .ok none
  | d => (read d).map some

/-- What a reader gives for each item of a list. -/
def listOf (read : Document Atom → Reading α) (d : Document Atom) : Reading (List α) :=
  (items d).mapM read

/-- What a reader gives for each value of a map. -/
def table (read : Document Atom → Reading α) (d : Document Atom) : Reading (List (String × α)) :=
  (entries d).mapM fun (key, d) => (read d).map fun a => (key, a)

/-- A list of texts. -/
def texts (d : Document Atom) : Reading (List String) := listOf text d

/-- A length of time: a number of seconds, or a map that holds a number of microseconds. -/
def span (d : Document Atom) : Reading Span :=
  if d.isMap then (whole (part d "us")).map fun us => .duration ⟨us⟩
  else (number d).map .seconds

mutual

/-- A value of plain data. -/
def value : Document Atom → Reading Value
  | .null => .ok .null
  | .bool b => .ok (.bool b)
  | .int i => .ok (.int i)
  | .text s => .ok (.text s)
  | .list items => (values items).map .list
  | .map entries => (valueEntries entries).map .map
  | .real _ => expected "a whole number"
  | .atom _ => expected "plain data"

/-- Several values of plain data. -/
def values : List (Document Atom) → Reading (List Value)
  | [] => .ok []
  | d :: ds => do return (← value d) :: (← values ds)

/-- The entries of a map of plain data. -/
def valueEntries : List (String × Document Atom) → Reading (List (String × Value))
  | [] => .ok []
  | (key, d) :: rest => do return (key, ← value d) :: (← valueEntries rest)

end

/-- The kind of failure with a name. -/
def failureKind (d : Document Atom) : Reading FailureKind := do
  match FailureKind.ofName? (← text d) with
  | some kind => .ok kind
  | none => expected "a kind of failure"

/-- A kind of failure, or else the name of a fault. -/
def throwKind (d : Document Atom) : Reading ThrowKind := do
  let name ← text d
  match FailureKind.ofName? name with
  | some kind => .ok (.failure kind)
  | none => .ok (.fault name)

/-- Something that is thrown: its kind and its text. -/
def thrown (d : Document Atom) : Reading Thrown := do
  match items d with
  | [kind, t] => return (← throwKind kind).make (← text t)
  | _ => expected "a kind and a text"

/-- A fault: its name and its text. -/
def fault (d : Document Atom) : Reading Fault := do
  match items d with
  | [name, t] => return ⟨← text name, ← text t⟩
  | _ => expected "a name and a text"

/-- A failure that has only just been made: its kind and its text. -/
def plainFailure (d : Document Atom) : Reading Failure := do
  match items d with
  | [kind, t] => return .ofMessage (← failureKind kind) (← text t)
  | _ => expected "a kind of failure and a text"

/-- A criterion: a strategy and a value. -/
def criterion (d : Document Atom) : Reading Criterion := do
  match Strategy.ofWords? (← text (part d "by")) with
  | some strategy => return ⟨strategy, ← text (part d "value")⟩
  | none => expected "a strategy"

end Reading

end Walkthrough.Rehearsal
