import Walkthrough.Text.Quoted

/-!
# Digits of all scripts

Whole numbers in texts may be written with the decimal digits of any script. `digitValue?` reads
one digit. `isDigit` is wider: it also admits the superscripts, circled digits and their like,
which stand for a digit but do not take part in positional numbers. `readInt` reads a whole number
and says what is wrong with a text that holds none.
-/

namespace Walkthrough.Text

/-- The zeros of the decimal systems; the digits one to nine follow each of them. -/
def zeros : List Nat :=
  [
    0x30, 0x660, 0x6F0, 0x7C0, 0x966, 0x9E6, 0xA66, 0xAE6, 0xB66, 0xBE6, 0xC66, 0xCE6, 0xD66,
    0xDE6, 0xE50, 0xED0, 0xF20, 0x1040, 0x1090, 0x17E0, 0x1810, 0x1946, 0x19D0, 0x1A80, 0x1A90,
    0x1B50, 0x1BB0, 0x1C40, 0x1C50, 0xA620, 0xA8D0, 0xA900, 0xA9D0, 0xA9F0, 0xAA50, 0xABF0,
    0xFF10, 0x104A0, 0x10D30, 0x11066, 0x110F0, 0x11136, 0x111D0, 0x112F0, 0x11450, 0x114D0,
    0x11650, 0x116C0, 0x11730, 0x118E0, 0x11950, 0x11C50, 0x11D50, 0x11DA0, 0x16A60, 0x16AC0,
    0x16B50, 0x1D7CE, 0x1D7D8, 0x1D7E2, 0x1D7EC, 0x1D7F6, 0x1E140, 0x1E2F0, 0x1E950, 0x1FBF0
  ]

/-- The ranges of digits that are not part of a decimal system, first and last of each. -/
def loneDigits : List (Nat × Nat) :=
  [
    (0xB2, 0xB3), (0xB9, 0xB9), (0x1369, 0x1371), (0x19DA, 0x19DA), (0x2070, 0x2070),
    (0x2074, 0x2079), (0x2080, 0x2089), (0x2460, 0x2468), (0x2474, 0x247C), (0x2488, 0x2490),
    (0x24EA, 0x24EA), (0x24F5, 0x24FD), (0x24FF, 0x24FF), (0x2776, 0x277E), (0x2780, 0x2788),
    (0x278A, 0x2792), (0x10A40, 0x10A43), (0x10E60, 0x10E68), (0x11052, 0x1105A),
    (0x1F100, 0x1F10A)
  ]

/-- The value of a decimal digit of any script. -/
def digitValue? (c : Char) : Option Nat :=
  let n := c.toNat
  (zeros.find? fun z => z ≤ n && n ≤ z + 9).map fun z => n - z

/-- Decimal digits of any script, and the characters that only stand for a digit. -/
def isDigit (c : Char) : Bool :=
  (digitValue? c).isSome || loneDigits.any fun r => r.1 ≤ c.toNat && c.toNat ≤ r.2

/-- A digit value is at most nine. -/
theorem digitValue?_le {c : Char} {d : Nat} (h : digitValue? c = some d) : d ≤ 9 := by
  obtain ⟨z, hz, rfl⟩ := Option.map_eq_some_iff.1 h
  have := List.find?_some hz
  simp only [Bool.and_eq_true, decide_eq_true_eq] at this
  omega

/-! ## Whole numbers -/

/-- The digits of a number with single underscores between them, as their values; `none` when
another character, a doubled underscore or one at an end stands among them. `after` says whether
a digit came just before. -/
def digitRun (after : Bool) : List Char → Option (List Nat)
  | [] => if after then some [] else none
  | c :: cs =>
    if c = '_' then
      if after then digitRun false cs else none
    else
      match digitValue? c with
      | some d => (digitRun true cs).map (d :: ·)
      | none => none

/-- The number with these decimal digits, most significant first. -/
def ofDigits (ds : List Nat) : Nat := ds.foldl (fun n d => 10 * n + d) 0

/-- The most digits that a whole number may be written with. -/
def digitLimit : Nat := 4300

/-- What is wrong with a text that was to be read as a whole number. -/
inductive IntError where
  /-- The text is not an optional sign and digits. -/
  | malformed (text : String)
  /-- The text has more digits than `digitLimit`. -/
  | tooLong (digits : Nat)
  deriving DecidableEq, Repr

/-- The wording of an `IntError`; a quoted text is cut after two hundred characters. -/
def IntError.message : IntError → String
  | .malformed t =>
    "invalid literal for int() with base 10: " ++ String.ofList ((quote t).toList.take 200)
  | .tooLong n =>
    "Exceeds the limit (4300 digits) for integer string conversion: value has " ++ toString n ++
      " digits; use sys.set_int_max_str_digits() to increase the limit"

/-- Reads a whole number: blanks around it, an optional sign, then digits. -/
def readInt (s : String) : Except IntError Int :=
  let body := stripChars s.toList
  let (negative, digits) :=
    match body with
    | '-' :: r => (true, r)
    | '+' :: r => (false, r)
    | r => (false, r)
  match digitRun false digits with
  | none => .error (.malformed s)
  | some ds =>
    if ds.length > digitLimit then .error (.tooLong ds.length)
    else .ok (if negative then -(ofDigits ds : Int) else ofDigits ds)

end Walkthrough.Text
