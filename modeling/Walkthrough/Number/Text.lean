import Walkthrough.Number.Rounding

/-!
# Numbers as text

Two ways of writing a rational number: `fixed` with a given count of decimal places, and `general`
with at most six significant digits, without trailing zeros, in scientific notation when the
number is very small or has more than six places before the point. Both round the exact value, a
tie to the even digit.
-/

namespace Walkthrough.Number

/-- A natural number as decimal text, with zeros in front up to the given width. -/
def paddedNat (width n : Nat) : String :=
  let digits := Nat.repr n
  String.ofList (List.replicate (width - digits.length) '0') ++ digits

/-- The number `m / 10 ^ places`, written with that many decimal places. -/
def scaled (places m : Nat) : String :=
  let whole := Nat.repr (m / Nat.pow 10 places)
  if places = 0 then whole else whole ++ "." ++ paddedNat places (m % Nat.pow 10 places)

/-- A number with exactly `places` decimal places. -/
def fixed (places : Nat) (r : Rat) : String :=
  let m := roundDiv ((r.num.natAbs * Nat.pow 10 places : Nat) : Int) r.den
  (if r.num < 0 then "-" else "") ++ scaled places m.toNat

/-- A text with zeros in front up to the given width. -/
def zeroPadded (width : Nat) (s : String) : String :=
  String.ofList (List.replicate (width - s.length) '0') ++ s

/-- The significant digits of general notation. -/
def significant : Nat := 6

/-- The exponent `e` with `10 ^ e ≤ n / d < 10 ^ (e + 1)`, for positive `n` and `d`. -/
def decimalExponent (n d : Nat) : Int :=
  let e : Int := ((Nat.repr n).length : Int) - (Nat.repr d).length
  let unit : Nat := Nat.pow 10 e.natAbs
  let reached := if e < 0 then d ≤ n * unit else d * unit ≤ n
  if reached then e else e - 1

/-- The digits of `n / d` as a whole number of `significant` digits, and the exponent of the first
of them. Rounding up to the next power of ten moves the exponent. -/
def leadingDigits (n d : Nat) : Nat × Int :=
  let e := decimalExponent n d
  let shift := (significant : Int) - 1 - e
  let unit : Nat := Nat.pow 10 shift.natAbs
  let m :=
    if shift < 0 then roundDiv (n : Int) (d * unit) else roundDiv ((n * unit : Nat) : Int) d
  if m.toNat = Nat.pow 10 significant then (Nat.pow 10 (significant - 1), e + 1) else (m.toNat, e)

/-- A text with a decimal point loses its trailing zeros, and the point if no digit is left. -/
def dropTrailingZeros (s : String) : String :=
  if s.contains '.' then
    let kept := s.toList.reverse.dropWhile (· = '0')
    String.ofList (kept.dropWhile (· = '.')).reverse
  else s

/-- A number in general notation. -/
def general (r : Rat) : String :=
  if r.num = 0 then "0"
  else
    let (m, e) := leadingDigits r.num.natAbs r.den
    let sign := if r.num < 0 then "-" else ""
    if e < -4 || (significant : Int) ≤ e then
      let exponent := (if e < 0 then "-" else "+") ++ paddedNat 2 e.natAbs
      sign ++ dropTrailingZeros (scaled (significant - 1) m) ++ "e" ++ exponent
    else
      let places := ((significant : Int) - 1 - e).toNat
      sign ++ dropTrailingZeros (scaled places m)

end Walkthrough.Number
