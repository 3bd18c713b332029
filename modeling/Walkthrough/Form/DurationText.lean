import Walkthrough.Duration
import Walkthrough.Number.Decimal

/-!
# Durations as text

Three ways of writing a duration: `P1DT2H30M` with a letter for each unit, `1 day, 02:30:00` with a
count of days, and `02:30:00` alone. A sign may stand in front. Years count 365 days, months 30 and
weeks 7. In the first way the last number may have a fraction; in the others the seconds may.

`Duration.ofText?` reads all three, `Duration.ofNumber?` takes a number of seconds.
-/

namespace Walkthrough.Duration

/-- The microseconds of a second. -/
def second : Nat := 1000000

/-- The seconds of a day. -/
def daySeconds : Nat := 86400

/-- The longest duration has this many days. -/
def dayLimit : Nat := 999999999

/-- A number of seconds from zero on in microseconds: the fraction is rounded, a half up. -/
def microsOf (p : Precision) (seconds : Rat) : Nat :=
  let whole := seconds.floor.toNat
  let fraction := p.round ((seconds - whole) * second)
  whole * second + (fraction + 1 / 2).floor.toNat

/-- The duration of so many microseconds in one direction, unless it is too long. -/
def signed? (negative : Bool) (micros : Nat) : Option Duration :=
  if micros / (daySeconds * second) ≤ dayLimit then
    some ⟨if negative then -(micros : Int) else micros⟩
  else none

/-- The duration of a number of seconds, unless it is too long. -/
def ofNumber? (p : Precision) (seconds : Rat) : Option Duration :=
  signed? (seconds < 0) (microsOf p (if seconds < 0 then -seconds else seconds))

/-! ## Reading digits -/

/-- The digits in front of a text, and the rest. -/
def spanDigits (cs : List Char) : List Char × List Char :=
  (cs.takeWhile Number.isPlainDigit, cs.dropWhile Number.isPlainDigit)

/-- A whole number in front of a text, and the rest. -/
def number? (cs : List Char) : Option (Nat × List Char) :=
  match spanDigits cs with
  | ([], _) => none
  | (digits, rest) => some (Number.ofPlainDigits digits, rest)

/-- A fraction in front of a text, after a point or a comma, and the rest. The fraction may have no
digits. -/
def fraction (p : Precision) : List Char → Option Rat × List Char
  | c :: cs =>
    if c = '.' || c = ',' then
      let (digits, rest) := spanDigits cs
      (some (p.round (mkRat (Number.ofPlainDigits digits) (Nat.pow 10 digits.length))), rest)
    else (none, c :: cs)
  | [] => (none, [])

theorem length_spanDigits (cs : List Char) : (spanDigits cs).2.length ≤ cs.length :=
  (List.dropWhile_sublist _).length_le

theorem length_number? {cs rest : List Char} {n : Nat} (h : number? cs = some (n, rest)) :
    rest.length < cs.length := by
  unfold number? at h
  cases hs : spanDigits cs with
  | mk digits r =>
    rw [hs] at h
    cases digits with
    | nil => simp at h
    | cons d ds =>
      simp only [Option.some.injEq, Prod.mk.injEq] at h
      obtain ⟨-, rfl⟩ := h
      have hcs : cs = (spanDigits cs).1 ++ (spanDigits cs).2 := by
        simp [spanDigits]
      rw [hs] at hcs
      have hlen := congrArg List.length hcs
      simp only [List.length_append, List.length_cons] at hlen
      omega

/-! ## Days and clock times -/

/-- Two digits in front of a text, for a number below sixty, and the rest. -/
def sixtieth? : List Char → Option (Nat × List Char)
  | a :: b :: rest =>
    let n := Number.ofPlainDigits [a, b]
    if Number.isPlainDigit a && Number.isPlainDigit b && n < 60 then some (n, rest) else none
  | _ => none

/-- The microseconds that the digits after a decimal point stand for; at least one is needed. -/
def places? (cs : List Char) : Option Nat :=
  match spanDigits cs with
  | ([], _) => none
  | (digits, []) => some (Number.ofPlainDigits ((digits ++ List.replicate 6 '0').take 6))
  | _ => none

/-- Minutes, and perhaps seconds and a fraction of them, in microseconds. -/
def minutes? (cs : List Char) : Option Nat := do
  let (minutes, rest) ← sixtieth? cs
  match rest with
  | [] => some (minutes * 60 * second)
  | ':' :: rest =>
    let (seconds, rest) ← sixtieth? rest
    let whole := (minutes * 60 + seconds) * second
    match rest with
    | [] => some whole
    | c :: rest => if c = '.' || c = ',' then (places? rest).map (whole + ·) else none
  | _ => none

/-- The most hours of a clock time. -/
def hourLimit : Nat := 2400000000

/-- How much is read of a clock time after the hours; what follows does not count. -/
def clockLength : Nat := 12

/-- A clock time in microseconds: hours, minutes, and perhaps seconds. -/
def clock? (cs : List Char) : Option Nat :=
  if cs.length < 5 then none
  else
    match spanDigits cs with
    | (hours, ':' :: rest) =>
      if Number.ofPlainDigits hours ≤ hourLimit then
        (minutes? (rest.take clockLength)).map (Number.ofPlainDigits hours * 3600 * second + ·)
      else none
    | _ => none

/-- A letter in front of a text, small or capital, or nothing of it. -/
def skipLetter (letter : Char) : List Char → List Char
  | c :: rest => if c = letter || c.toLower = letter then rest else c :: rest
  | [] => []

/-- What may follow a count of days: the word, a comma, and a clock time after a blank. -/
def days? (cs : List Char) : Option Nat := do
  let (days, rest) ← number? cs
  let whole := days * daySeconds * second
  let rest := skipLetter ' ' rest
  match rest with
  | d :: rest =>
    if d.toLower = 'd' then
      let rest ←
        match rest with
        | a :: y :: more =>
          if a.toLower = 'a' then (if y.toLower = 'y' then some more else none) else some rest
        | [a] => if a.toLower = 'a' then none else some rest
        | [] => some []
      match skipLetter ',' (skipLetter 's' rest) with
      | [] => some whole
      | [' '] => some whole
      | ' ' :: time => (clock? time).map (whole + ·)
      | _ => none
    else none
  | [] => none

/-! ## Units by letter -/

/-- A unit of time: a number of seconds or of days. -/
structure TimeUnit where
  count : Nat
  days : Bool

namespace TimeUnit

/-- The seconds that a unit counts. -/
def base (u : TimeUnit) : Nat := if u.days then daySeconds else 1

/-- The unit with a letter, before or after the mark of the times. -/
def ofLetter? (time : Bool) (letter : Char) : Option TimeUnit :=
  if time then
    match letter with
    | 'H' => some ⟨3600, false⟩
    | 'M' => some ⟨60, false⟩
    | 'S' => some ⟨1, false⟩
    | _ => none
  else
    match letter with
    | 'Y' => some ⟨365, true⟩
    | 'M' => some ⟨30, true⟩
    | 'W' => some ⟨7, true⟩
    | 'D' => some ⟨1, true⟩
    | _ => none

/-- A whole number of units in microseconds. -/
def micros (u : TimeUnit) (n : Nat) : Nat := n * u.count * u.base * second

/-- A fraction of a unit in microseconds. -/
def partMicros (p : Precision) (u : TimeUnit) (part : Rat) : Nat :=
  let amount := p.round (part * u.count)
  let whole := amount.floor.toNat
  whole * u.base * second + microsOf p (p.round ((amount - whole) * u.base))

end TimeUnit

/-- A duration with a letter for each unit, in microseconds. `time` says whether the mark of the
times has been read, `last` whether no number may follow because one with a fraction was read. -/
def units? (p : Precision) (time last : Bool) (cs : List Char) : Option Nat :=
  match cs with
  | [] => some 0
  | 'T' :: rest => if time then none else units? p true last rest
  | c :: rest =>
    match _h : number? (c :: rest) with
    | none => none
    | some (n, after) =>
      if last then none
      else
        let part := (fraction p after).1
        match _hu : (fraction p after).2 with
        | [] => none
        | unit :: more =>
          match TimeUnit.ofLetter? time unit with
          | none => none
          | some u =>
            let extra := (part.map (u.partMicros p)).getD 0
            (units? p time part.isSome more).map (u.micros n + extra + ·)
termination_by cs.length
decreasing_by
  · simp
  · have h₁ := length_number? _h
    have h₂ : (fraction p after).2.length ≤ after.length := by
      unfold fraction
      split
      · split
        · have := length_spanDigits ‹_›
          simp only [List.length_cons]
          omega
        · exact Nat.le_refl _
      · exact Nat.le_refl _
    rw [_hu] at h₂
    simp only [List.length_cons] at h₁ h₂ ⊢
    omega

/-- The microseconds of a duration without its sign. `whole` is the text with the sign. -/
def body? (p : Precision) (whole cs : List Char) : Option Nat :=
  match cs with
  | 'P' :: rest => if whole.length < 3 then none else units? p false false rest
  | cs =>
    if whole.any (fun c => c = 'd' || c = 'D') || whole.length < 5 then days? cs else clock? cs

/-- The duration that a text stands for. -/
def ofText? (p : Precision) (s : String) : Option Duration :=
  let cs := s.toList
  match cs with
  | '+' :: rest => (body? p cs rest).bind (signed? false)
  | '-' :: rest => (body? p cs rest).bind (signed? true)
  | _ => (body? p cs cs).bind (signed? false)

end Walkthrough.Duration
