import Walkthrough.Log

/-!
# Lines on the console

What a text looks like when it is printed on the console: control characters that would move the
cursor are left out, a tab moves to the next stop, and every line break begins a new line. A log is
printed node by node, without its blank nodes, and a failure after a word of introduction.

Mirroring notes:
- `linesOfLog` and `failureText` are what `render_log` and `report_failure` print. Colours are left
  out, and so are the widths at which a terminal folds lines.
-/

namespace Walkthrough.Console

/-- The control characters that are not printed: bell, backspace, vertical tab, form feed and
carriage return. -/
def silent : List Char := ['\x07', '\x08', '\x0b', '\x0c', '\x0d']

/-- How far apart the tab stops are. -/
def tabWidth : Nat := 8

/-- A line with blanks in the place of tabs, from a column on. -/
def expandTabs (column : Nat) : List Char → List Char
  | [] => []
  | '\t' :: rest =>
    let width := tabWidth - column % tabWidth
    List.replicate width ' ' ++ expandTabs (column + width) rest
  | c :: rest => c :: expandTabs (column + 1) rest

/-- The lines of a text, where `line` holds the line under way in reverse. -/
def splitLines (line : List Char) : List Char → List (List Char)
  | [] => [line.reverse]
  | '\n' :: rest => line.reverse :: splitLines [] rest
  | c :: rest => splitLines (c :: line) rest

/-- The lines that printing a text adds to the console. -/
def lines (s : String) : List String :=
  (splitLines [] (s.toList.filter fun c => !silent.contains c)).map fun line =>
    String.ofList (expandTabs 0 line)

/-- The lines that printing a finished log adds. -/
def linesOfLog (l : Log) : List String := l.lines.flatMap lines

/-- What is printed about a failure. -/
def failureText (f : Failure) : String := "Flow failed: " ++ f.text

/-- The lines that printing a failure adds. -/
def linesOfFailure (f : Failure) : List String := lines (failureText f)

/-! ## Laws -/

/-- Printing a text always adds a line. -/
theorem splitLines_ne_nil (line cs : List Char) : splitLines line cs ≠ [] := by
  induction cs generalizing line with
  | nil => simp [splitLines]
  | cons c rest ih =>
    unfold splitLines
    split
    · simp_all
    · simp
    · simp_all

/-- A text without tabs stays as it is. -/
theorem expandTabs_eq_self {cs : List Char} (h : '\t' ∉ cs) (column : Nat) :
    expandTabs column cs = cs := by
  induction cs generalizing column with
  | nil => rfl
  | cons c rest ih =>
    obtain ⟨hc, hrest⟩ : c ≠ '\t' ∧ '\t' ∉ rest := by
      simp only [List.mem_cons, not_or] at h
      exact ⟨fun e => h.1 e.symm, h.2⟩
    unfold expandTabs
    split
    · simp_all
    · simp_all
    · simp_all

end Walkthrough.Console
