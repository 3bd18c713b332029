import Walkthrough.Number.Text

/-!
# Durations

A duration is a whole number of microseconds. Clock readings are rational numbers of seconds, kept
to some precision by a rounding function; `Precision.exact` keeps every number as it is,
`Precision.double` rounds to 53 bits.

Mirroring notes:
- `clockText` is `_format_elapsed`. Seconds become a duration by rounding to microseconds, ties to
  even.
- `Span` is what waits take for their length and their pauses: a duration, or a number of seconds.
-/

namespace Walkthrough

/-- How far numbers of seconds are rounded after each operation on them. -/
structure Precision where
  round : Rat → Rat

namespace Precision

/-- Numbers of seconds are kept as they are. -/
def exact : Precision := ⟨id⟩

/-- Numbers of seconds are rounded to the nearest double. -/
def double : Precision := ⟨Number.nearestDouble⟩

/-- The difference of two numbers of seconds. -/
def sub (p : Precision) (a b : Rat) : Rat := p.round (a - b)

/-- A number of seconds from a whole number of microseconds. -/
def ofMicros (p : Precision) (us : Int) : Rat := p.round (mkRat us 1000000)

end Precision

/-- A duration, in microseconds. -/
structure Duration where
  micros : Int
  deriving DecidableEq, Repr

namespace Duration

/-- The duration of no time at all. -/
def zero : Duration := ⟨0⟩

/-- A whole number of milliseconds. -/
def ofMillis (n : Int) : Duration := ⟨n * 1000⟩

/-- A duration as a number of seconds. -/
def seconds (p : Precision) (d : Duration) : Rat := p.ofMicros d.micros

/-- The duration nearest to a number of seconds: whole seconds are exact, and the fraction is
rounded to microseconds, a tie to the even one. -/
def ofSeconds (p : Precision) (s : Rat) : Duration :=
  let whole := Int.tdiv s.num s.den
  ⟨whole * 1000000 + Number.nearestInt (p.round ((s - whole) * 1000000))⟩

/-- A duration as minutes and seconds with three decimal places. -/
def clockText (p : Precision) (d : Duration) : String :=
  let s := d.seconds p
  let minutes := (s / 60).floor
  toString minutes ++ ":" ++ Number.zeroPadded 6 (Number.fixed 3 (s - 60 * minutes))

end Duration

/-- A length of time as it is handed to a flow: a duration, or a number of seconds. -/
inductive Span where
  | duration (d : Duration)
  | seconds (s : Rat)
  deriving DecidableEq

namespace Span

/-- The number of seconds of a span. -/
def toSeconds (p : Precision) : Span → Rat
  | .duration d => d.seconds p
  | .seconds s => p.round s

/-- The number of seconds of a span, or of a default duration when none is given. -/
def toSecondsOr (p : Precision) (default : Duration) : Option Span → Rat
  | some s => s.toSeconds p
  | none => default.seconds p

end Span

end Walkthrough
