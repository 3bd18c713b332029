import Walkthrough.Number.Rounding

/-!
# Reading decimal numbers

`readDecimal?` reads a number as it is written in settings and data files: a sign, digits with a
point somewhere among them, and an exponent of ten. It gives the exact value, as long as the
exponent is within `exponentLimit`; exponents beyond it count as the limit, where every double is
zero or out of range.
-/

namespace Walkthrough.Number

/-- Whether a character is one of the ten digits. -/
def isPlainDigit (c : Char) : Bool := '0' ≤ c && c ≤ '9'

/-- The number with these digits. -/
def ofPlainDigits (digits : List Char) : Nat :=
  digits.foldl (fun n c => 10 * n + (c.toNat - 48)) 0

/-- A sign in front of a text, and the rest. -/
def splitSign : List Char → Bool × List Char
  | '-' :: rest => (true, rest)
  | '+' :: rest => (false, rest)
  | cs => (false, cs)

/-- A number with its sign. -/
def withSign (negative : Bool) (r : Rat) : Rat := if negative then -r else r

/-- The greatest exponent that makes a difference. -/
def exponentLimit : Nat := 9999

/-- The exponent at the end of a number, zero when there is none. -/
def exponent? : List Char → Option Int
  | [] => some 0
  | e :: rest =>
    let (negative, digits) := splitSign rest
    if (e = 'e' || e = 'E') && !digits.isEmpty && digits.all isPlainDigit then
      let n := min (ofPlainDigits digits) exponentLimit
      some (if negative then -(n : Int) else n)
    else none

/-- The product of a number and a power of ten. -/
def shifted (r : Rat) (e : Int) : Rat :=
  let unit : Nat := Nat.pow 10 e.natAbs
  if e < 0 then r / (unit : Rat) else r * (unit : Rat)

/-- The exact value of a decimal number. -/
def readDecimal? (cs : List Char) : Option Rat :=
  let (negative, body) := splitSign cs
  let whole := body.takeWhile isPlainDigit
  let afterWhole := body.dropWhile isPlainDigit
  let (places, afterPlaces) :=
    match afterWhole with
    | '.' :: rest => (rest.takeWhile isPlainDigit, rest.dropWhile isPlainDigit)
    | rest => ([], rest)
  if whole.isEmpty && places.isEmpty then none
  else
    (exponent? afterPlaces).map fun e =>
      withSign negative (shifted (ofPlainDigits (whole ++ places)) (e - places.length))

end Walkthrough.Number
