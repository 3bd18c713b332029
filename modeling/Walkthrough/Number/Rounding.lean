/-!
# Rounding

Rounding a quotient to the nearest whole number, where a tie goes to the even neighbour, and
rounding a rational number to the nearest binary floating-point number with 53 bits.

`two_mul_roundDiv_le` and `le_two_mul_roundDiv` say that `roundDiv` is off by at most one half.
-/

namespace Walkthrough.Number

/-- The whole number nearest to `n / d`; a tie goes to the even one. -/
def roundDiv (n : Int) (d : Nat) : Int :=
  let q := n / (d : Int)
  let r := n % (d : Int)
  if 2 * r < d then q
  else if 2 * r = d then (if q % 2 = 0 then q else q + 1)
  else q + 1

/-- The smaller of two rational numbers. -/
def smaller (a b : Rat) : Rat := if a ≤ b then a else b

/-- The whole number nearest to a rational number; a tie goes to the even one. -/
def nearestInt (r : Rat) : Int := roundDiv r.num r.den

/-- The exponent `e` of the binade of `n / d`, so that `n / d` is at least `2 ^ (e + 52)` and less
than `2 ^ (e + 53)`, but never below the exponent of the subnormal numbers. -/
def binadeExponent (n d : Nat) : Int :=
  let e : Int := (n.log2 : Int) - d.log2 - 52
  let reached :=
    if e < 0 then d * Nat.pow 2 52 ≤ n * Nat.pow 2 (-e).toNat
    else d * Nat.pow 2 e.toNat * Nat.pow 2 52 ≤ n
  max (if reached then e else e - 1) (-1074)

/-- The nearest number of the form `m * 2 ^ e` with `|m| ≤ 2 ^ 53` and `-1074 ≤ e`; of two equally
near ones the one with even `m`. -/
def nearestDouble (r : Rat) : Rat :=
  if r.num = 0 then 0
  else
    let e := binadeExponent r.num.natAbs r.den
    let unit : Nat := Nat.pow 2 e.natAbs
    if e < 0 then mkRat (roundDiv (r.num * (unit : Int)) r.den) unit
    else (roundDiv r.num (r.den * unit) * (unit : Int) : Int)

/-! ## Laws -/

/-- Rounding is off by at most one half, seen from above. -/
theorem two_mul_roundDiv_le {n : Int} {d : Nat} (hd : 0 < d) :
    2 * (roundDiv n d * d) ≤ 2 * n + d := by
  have h := Int.emod_add_mul_ediv n d
  have h₀ := Int.emod_nonneg n (b := (d : Int)) (by omega)
  have h₁ := Int.emod_lt_of_pos n (b := (d : Int)) (by omega)
  have hc : (d : Int) * (n / d) = n / d * d := Int.mul_comm _ _
  unfold roundDiv
  simp only
  split
  · omega
  · split
    · split
      · omega
      · rw [Int.add_mul]; omega
    · rw [Int.add_mul]; omega

/-- Rounding is off by at most one half, seen from below. -/
theorem le_two_mul_roundDiv {n : Int} {d : Nat} (hd : 0 < d) :
    2 * n ≤ 2 * (roundDiv n d * d) + d := by
  have h := Int.emod_add_mul_ediv n d
  have h₀ := Int.emod_nonneg n (b := (d : Int)) (by omega)
  have h₁ := Int.emod_lt_of_pos n (b := (d : Int)) (by omega)
  have hc : (d : Int) * (n / d) = n / d * d := Int.mul_comm _ _
  unfold roundDiv
  simp only
  split
  · omega
  · split
    · split
      · omega
      · rw [Int.add_mul]; omega
    · rw [Int.add_mul]; omega

end Walkthrough.Number
