import Walkthrough.Number.Decimal
import Walkthrough.Form.DurationText
import Walkthrough.Form.Problem
import Walkthrough.Text.Blank

/-!
# Fields of settings

How each kind of field is read from a document. Texts stand for values where environments and
command lines can only give texts: a truth value may be written as `yes`, `off`, `1` and so on, a
whole number as its digits. Whole numbers and numbers without a fraction stand for one another, and
a truth value counts as zero or one.
-/

namespace Walkthrough.Field

/-- The precision of numbers in settings. -/
def precision : Precision := .double

/-! ## Truth values -/

/-- The words for no and for yes. -/
def noWords : List String := ["0", "f", "n", "no", "off", "false"]

@[inherit_doc noWords]
def yesWords : List String := ["1", "t", "y", "on", "yes", "true"]

/-- The truth value of a word, in capitals or not. -/
def boolOfWord? (s : String) : Option Bool :=
  let word := s.map Char.toLower
  if noWords.contains word then some false
  else if yesWords.contains word then some true
  else none

/-- The truth value of a number. -/
def boolOfInt : Int → Checked Bool
  | 0 => .ok false
  | 1 => .ok true
  | _ => Checked.problem .boolText

/-- Reads a truth value. -/
def bool : SettingsDocument → Checked Bool
  | .bool b => .ok b
  | .int i => boolOfInt i
  | .real r => if r.den = 1 then boolOfInt r.num else Checked.problem .boolType
  | .text s =>
    match boolOfWord? s with
    | some b => .ok b
    | none => Checked.problem .boolText
  | _ => Checked.problem .boolType

/-! ## Numbers -/

/-- A text without the underscores in it; none may be at an end or beside another one. -/
def withoutUnderscores? (cs : List Char) : Option (List Char) :=
  let doubled := (cs.zip (cs.drop 1)).any fun p => p.1 = '_' && p.2 = '_'
  if cs.head? = some '_' || cs.getLast? = some '_' || doubled then none
  else some (cs.filter (· ≠ '_'))

/-- A text without a fraction that is zero. -/
def withoutZeroFraction? (cs : List Char) : Option (List Char) :=
  match cs.dropWhile (· ≠ '.') with
  | [] => some cs
  | _ :: places => if places.all (· = '0') then some (cs.takeWhile (· ≠ '.')) else none

/-- The most characters that a whole number may be written with. -/
def intLength : Nat := 4300

/-- The whole number that a text stands for. -/
def intOfText? (s : String) : Option Int := do
  let cs ← withoutZeroFraction? (Text.stripChars s.toList)
  let cs ← withoutUnderscores? cs
  let (negative, digits) := Number.splitSign cs
  if digits.isEmpty || !digits.all Number.isPlainDigit || intLength < digits.length then none
  else
    let n := Number.ofPlainDigits digits
    some (if negative then -(n : Int) else n)

/-- Reads a whole number. -/
def int : SettingsDocument → Checked Int
  | .bool b => .ok (if b then 1 else 0)
  | .int i => .ok i
  | .real r => if r.den = 1 then .ok r.num else Checked.problem .intFraction
  | .text s =>
    match intOfText? s with
    | some i => .ok i
    | none => Checked.problem .intText
  | .atom .notFinite => Checked.problem .finiteNumber
  | _ => Checked.problem .intType

/-- The number that a text stands for. -/
def realOfText? (s : String) : Option Rat := do
  let cs ← withoutUnderscores? (Text.stripChars s.toList)
  (Number.readDecimal? cs).map precision.round

/-- Reads a number. -/
def real : SettingsDocument → Checked Rat
  | .bool b => .ok (if b then 1 else 0)
  | .int i => .ok (precision.round i)
  | .real r => .ok r
  | .text s =>
    match realOfText? s with
    | some r => .ok r
    | none => Checked.problem .realText
  | .atom .notFinite => Checked.problem .finiteNumber
  | _ => Checked.problem .realType

/-! ## Durations and choices -/

/-- A duration that was read, unless it is too long or its text stands for none. -/
def durationOf : Option Duration → Checked Duration
  | some d => .ok d
  | none => Checked.problem .durationText

/-- Reads a duration: a text for one, or a number of seconds. -/
def duration : SettingsDocument → Checked Duration
  | .bool b => durationOf (Duration.ofNumber? precision (if b then 1 else 0))
  | .int i => durationOf (Duration.ofNumber? precision i)
  | .real r => durationOf (Duration.ofNumber? precision r)
  | .text s => durationOf (Duration.ofText? precision s)
  | .atom (.duration d) => .ok d
  | .atom .notFinite => Checked.problem .durationText
  | _ => Checked.problem .durationType

/-- Reads the word for an engine. -/
def engine : SettingsDocument → Checked BrowserEngine
  | .text s =>
    match BrowserEngine.ofName? s with
    | some e => .ok e
    | none => Checked.problem .choice
  | _ => Checked.problem .choice

/-- Reads the field with a key, or takes its default when it is missing. -/
def named {α : Type} (key : String) (read : SettingsDocument → Checked α) (default : α)
    (entries : Document.Entries Extra) : Checked α :=
  match entries.lookup key with
  | some d => (read d).at_ key
  | none => .ok default

end Walkthrough.Field
