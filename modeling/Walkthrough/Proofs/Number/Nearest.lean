import Mathlib.Algebra.Order.Field.Power
import Mathlib.Algebra.Order.Ring.Abs
import Mathlib.Data.Rat.Cast.Order
import Mathlib.Tactic.FieldSimp
import Mathlib.Tactic.Linarith
import Mathlib.Tactic.NormNum
import Mathlib.Tactic.Positivity
import Mathlib.Tactic.Ring
import Walkthrough.Number.Rounding

/-!
# Nearest numbers

What is meant by the nearest whole number (`Number.IsNearest`): it is off by one half at most, and
even where another one is as near. There is only one, and it grows with the number that is rounded
(`IsNearest.mono`). `roundDiv` finds it.

The nearest double is the nearest whole number of units, where the unit belongs to the binade
(`exists_isNearest`). For numbers that are not negative this gives the laws that are used of it: it
grows with the number (`nearestDouble_mono`), whole numbers of 53 bits are kept as they are
(`nearestDouble_natCast`), and what is lost is a `2 ^ 53`rd part at most
(`abs_nearestDouble_sub_le`).
-/

namespace Walkthrough.Number

/-! ## Whole numbers -/

/-- A whole number is off by one half at most, and even where another one is as near. -/
structure IsNearest (q : Int) (x : Rat) : Prop where
  lower : (q : Rat) - 1 / 2 ≤ x
  upper : x ≤ q + 1 / 2
  even_of_tie : x = q - 1 / 2 ∨ x = q + 1 / 2 → q % 2 = 0

namespace IsNearest

variable {p q : Int} {x y : Rat}

/-- A whole number is nearest to itself. -/
theorem intCast (n : Int) : IsNearest n n := by
  refine ⟨by linarith, by linarith, ?_⟩
  rintro (h | h) <;> linarith

/-- Of two numbers the greater one has the greater nearest whole number, or the same. -/
theorem mono (hp : IsNearest p x) (hq : IsNearest q y) (h : x ≤ y) : p ≤ q := by
  by_contra hlt
  have hstep : (q : Rat) + 1 ≤ p := by exact_mod_cast Int.not_le.mp hlt
  have hlower := hp.lower
  have hupper := hq.upper
  -- both are ties at the middle between two neighbours, which cannot both be even
  have hpeven : p % 2 = 0 := hp.even_of_tie (.inl (by linarith))
  have hqeven : q % 2 = 0 := hq.even_of_tie (.inr (by linarith))
  have hnext : p ≤ q + 1 := by
    have : (p : Rat) ≤ q + 1 := by linarith
    exact_mod_cast this
  omega

/-- There is one nearest whole number, since a tie goes to the even one. -/
theorem unique (hp : IsNearest p x) (hq : IsNearest q x) : p = q :=
  Int.le_antisymm (hp.mono hq le_rfl) (hq.mono hp le_rfl)

/-- Rounding does not go above a whole number that is not below. -/
theorem le_of_le {n : Int} (hq : IsNearest q x) (h : x ≤ n) : q ≤ n := hq.mono (intCast n) h

/-- Nor below one that is not above. -/
theorem ge_of_ge {n : Int} (hq : IsNearest q x) (h : (n : Rat) ≤ x) : n ≤ q :=
  (intCast n).mono hq h

/-- Moving by an even number keeps ties. -/
theorem add_even (hq : IsNearest q x) {k : Int} (hk : k % 2 = 0) : IsNearest (q + k) (x + k) := by
  have hlower := hq.lower
  have hupper := hq.upper
  refine ⟨by push_cast; linarith, by push_cast; linarith, fun htie => ?_⟩
  have hqeven : q % 2 = 0 := by
    refine hq.even_of_tie (htie.imp ?_ ?_) <;> intro h <;> push_cast at h <;> linarith
  omega

end IsNearest

/-- Where another whole number is as near, the even one is taken. -/
theorem roundDiv_even_of_tie {n : Int} {d : Nat} (hd : 0 < d)
    (h : 2 * n = 2 * (roundDiv n d * d) - d ∨ 2 * n = 2 * (roundDiv n d * d) + d) :
    roundDiv n d % 2 = 0 := by
  have hdivision := Int.emod_add_mul_ediv n d
  have hnonneg := Int.emod_nonneg n (b := (d : Int)) (by omega)
  have hlt := Int.emod_lt_of_pos n (b := (d : Int)) (by omega)
  have hcomm : (d : Int) * (n / d) = n / d * d := Int.mul_comm _ _
  have hnext : (n / d + 1) * (d : Int) = n / d * d + d := by rw [Int.add_mul, Int.one_mul]
  unfold roundDiv at h ⊢
  simp only at h ⊢
  split at h
  · omega
  · split at h
    · split at h
      · rename_i h₁ h₂ h₃
        rw [if_neg h₁, if_pos h₂, if_pos h₃]
        exact h₃
      · rename_i h₁ h₂ h₃
        rw [if_neg h₁, if_pos h₂, if_neg h₃]
        omega
    · omega

/-- `roundDiv` is the nearest whole number to a quotient. -/
theorem isNearest_roundDiv (n : Int) {d : Nat} (hd : 0 < d) :
    IsNearest (roundDiv n d) (n / d) := by
  have hdpos : (0 : Rat) < d := by exact_mod_cast hd
  have hupper : 2 * ((roundDiv n d : Rat) * d) ≤ 2 * n + d := by
    exact_mod_cast two_mul_roundDiv_le (n := n) hd
  have hlower : 2 * (n : Rat) ≤ 2 * (roundDiv n d * d) + d := by
    exact_mod_cast le_two_mul_roundDiv (n := n) hd
  refine ⟨?_, ?_, fun htie => roundDiv_even_of_tie hd ?_⟩
  · rw [le_div_iff₀ hdpos]
    linarith
  · rw [div_le_iff₀ hdpos]
    linarith
  · rcases htie with htie | htie
    · left
      rw [div_eq_iff hdpos.ne'] at htie
      have : 2 * (n : Rat) = 2 * (roundDiv n d * d) - d := by linarith
      exact_mod_cast this
    · right
      rw [div_eq_iff hdpos.ne'] at htie
      have : 2 * (n : Rat) = 2 * (roundDiv n d * d) + d := by linarith
      exact_mod_cast this

/-! ## Doubles -/

/-- The unit in the last place of the doubles in a binade. -/
def unit (e : Int) : Rat := (2 : Rat) ^ e

/-- A unit in the last place is positive. -/
theorem unit_pos (e : Int) : 0 < unit e := zpow_pos (by norm_num) e

/-- Units double with the exponent. -/
theorem unit_add (e : Int) (k : Nat) : unit (e + k) = unit e * 2 ^ k := by
  rw [unit, zpow_add₀ (by norm_num), zpow_natCast]
  rfl

/-- A larger exponent has a larger unit. -/
theorem unit_le_unit {e f : Int} (h : e ≤ f) : unit e ≤ unit f :=
  zpow_le_zpow_right₀ (by norm_num) h

/-- Opposite exponents cancel. -/
theorem unit_neg_mul (e : Int) : unit (-e) * unit e = 1 := by
  rw [unit, unit, ← zpow_add₀ (by norm_num), neg_add_cancel, zpow_zero]

/-- The unit of a negative exponent, as a fraction. -/
theorem unit_of_neg {e : Int} (h : e < 0) : unit e = 1 / (Nat.pow 2 e.natAbs : Nat) := by
  have hnat : e = -(e.natAbs : Int) := by omega
  rw [unit]
  conv_lhs => rw [hnat]
  rw [zpow_neg, zpow_natCast, one_div]
  norm_cast

/-- The unit of any other one, as a whole number. -/
theorem unit_of_nonneg {e : Int} (h : 0 ≤ e) : unit e = (Nat.pow 2 e.natAbs : Nat) := by
  have hnat : e = (e.natAbs : Int) := by omega
  rw [unit]
  conv_lhs => rw [hnat]
  rw [zpow_natCast]
  norm_cast

/-- The binade of a quotient lies between those of its smallest and its greatest value, given the
counts of the binary digits. -/
theorem log2_bounds {n d : Nat} (hn : 0 < n) (hd : 0 < d) :
    unit ((n.log2 : Int) - d.log2 - 1) ≤ (n : Rat) / d ∧
      (n : Rat) / d < unit ((n.log2 : Int) - d.log2 + 1) := by
  have hdpos : (0 : Rat) < d := by exact_mod_cast hd
  have hnlower : unit n.log2 ≤ n := by
    rw [unit, zpow_natCast]
    exact_mod_cast Nat.log2_self_le (by omega)
  have hnupper : (n : Rat) < unit (n.log2 + 1 : Nat) := by
    rw [unit, zpow_natCast]
    exact_mod_cast Nat.lt_log2_self
  have hdlower : unit d.log2 ≤ d := by
    rw [unit, zpow_natCast]
    exact_mod_cast Nat.log2_self_le (by omega)
  have hdupper : (d : Rat) < unit (d.log2 + 1 : Nat) := by
    rw [unit, zpow_natCast]
    exact_mod_cast Nat.lt_log2_self
  have hsplit (i j : Int) : unit (i - j) * unit j = unit i := by
    rw [unit, unit, ← zpow_add₀ (by norm_num), sub_add_cancel]
    rfl
  constructor
  · rw [le_div_iff₀ hdpos]
    have hexponent : (n.log2 : Int) - d.log2 - 1 = n.log2 - ((d.log2 + 1 : Nat) : Int) := by
      push_cast
      ring
    rw [hexponent]
    calc unit (n.log2 - ((d.log2 + 1 : Nat) : Int)) * d
        ≤ unit (n.log2 - ((d.log2 + 1 : Nat) : Int)) * unit ((d.log2 + 1 : Nat) : Int) :=
          mul_le_mul_of_nonneg_left hdupper.le (unit_pos _).le
      _ = unit n.log2 := hsplit _ _
      _ ≤ n := hnlower
  · rw [div_lt_iff₀ hdpos]
    have hexponent : (n.log2 : Int) - d.log2 + 1 = ((n.log2 + 1 : Nat) : Int) - d.log2 := by
      push_cast
      ring
    rw [hexponent]
    calc (n : Rat) < unit ((n.log2 + 1 : Nat) : Int) := hnupper
      _ = unit (((n.log2 + 1 : Nat) : Int) - d.log2) * unit d.log2 := (hsplit _ _).symm
      _ ≤ unit (((n.log2 + 1 : Nat) : Int) - d.log2) * d :=
          mul_le_mul_of_nonneg_left hdlower (unit_pos _).le

/-- Whether a quotient reaches a binade is decided on whole numbers. -/
theorem unit_le_div_iff {e : Int} {n d : Nat} (hd : 0 < d) :
    unit (e + 52) ≤ (n : Rat) / d ↔
      if e < 0 then d * Nat.pow 2 52 ≤ n * Nat.pow 2 (-e).toNat
      else d * Nat.pow 2 e.toNat * Nat.pow 2 52 ≤ n := by
  have hdpos : (0 : Rat) < d := by exact_mod_cast hd
  have hunit : unit (e + 52) = unit e * 2 ^ 52 := unit_add e 52
  rw [hunit, le_div_iff₀ hdpos]
  by_cases hneg : e < 0
  · have hnat : (-e).toNat = e.natAbs := by omega
    have hpow : (0 : Rat) < (Nat.pow 2 e.natAbs : Nat) := by
      exact_mod_cast Nat.pow_pos (by norm_num)
    rw [if_pos hneg, hnat, unit_of_neg hneg]
    have hscale : 1 / ((Nat.pow 2 e.natAbs : Nat) : Rat) * 2 ^ 52 * d =
        d * 2 ^ 52 / (Nat.pow 2 e.natAbs : Nat) := by ring
    rw [hscale, div_le_iff₀ hpow]
    norm_cast
  · have hnat : e.toNat = e.natAbs := by omega
    rw [if_neg hneg, hnat, unit_of_nonneg (by omega)]
    have hscale : ((Nat.pow 2 e.natAbs : Nat) : Rat) * 2 ^ 52 * d =
        d * (Nat.pow 2 e.natAbs : Nat) * 2 ^ 52 := by ring
    rw [hscale]
    norm_cast

/-- A quotient lies below the end of its binade, and not below its beginning, unless the binade is
the one of the subnormal numbers. -/
theorem binadeExponent_spec {n d : Nat} (hn : 0 < n) (hd : 0 < d) :
    (n : Rat) / d < unit (binadeExponent n d + 53) ∧
      (binadeExponent n d = -1074 ∨ unit (binadeExponent n d + 52) ≤ (n : Rat) / d) := by
  obtain ⟨hlower, hupper⟩ := log2_bounds hn hd
  have hreached := unit_le_div_iff (e := (n.log2 : Int) - d.log2 - 52) (n := n) hd
  -- the exponent of the binade, before it is seen whether it is subnormal
  have hbinade : ∃ e, binadeExponent n d = max e (-1074) ∧
      (n : Rat) / d < unit (e + 53) ∧ unit (e + 52) ≤ (n : Rat) / d := by
    by_cases h : unit ((n.log2 : Int) - d.log2 - 52 + 52) ≤ (n : Rat) / d
    · have htop : (n.log2 : Int) - d.log2 - 52 + 53 = n.log2 - d.log2 + 1 := by omega
      refine ⟨(n.log2 : Int) - d.log2 - 52, ?_, ?_, h⟩
      · simp only [binadeExponent, if_pos (hreached.mp h)]
      · rw [htop]
        exact hupper
    · have htop : (n.log2 : Int) - d.log2 - 53 + 53 = n.log2 - d.log2 - 52 + 52 := by omega
      have hbottom : (n.log2 : Int) - d.log2 - 53 + 52 = n.log2 - d.log2 - 1 := by omega
      refine ⟨(n.log2 : Int) - d.log2 - 53, ?_, ?_, ?_⟩
      · simp only [binadeExponent, if_neg (mt hreached.mpr h)]
        omega
      · rw [htop]
        exact not_le.mp h
      · rw [hbottom]
        exact hlower
  obtain ⟨e, heq, habove, hbelow⟩ := hbinade
  rw [heq]
  rcases le_total e (-1074) with hsmall | hlarge
  · rw [max_eq_right hsmall]
    exact ⟨lt_of_lt_of_le habove (unit_le_unit (by omega)), .inl rfl⟩
  · rw [max_eq_left hlarge]
    exact ⟨habove, .inr hbelow⟩

/-- The nearest double is the nearest whole number of units of its binade. -/
theorem exists_isNearest {r : Rat} (hr : r ≠ 0) :
    ∃ q : Int, nearestDouble r = q * unit (binadeExponent r.num.natAbs r.den) ∧
      IsNearest q (r / unit (binadeExponent r.num.natAbs r.den)) := by
  have hnum : r.num ≠ 0 := by simpa using hr
  generalize he : binadeExponent r.num.natAbs r.den = e
  have hden : (0 : Rat) < r.den := by exact_mod_cast r.den_pos
  have hpow : 0 < Nat.pow 2 e.natAbs := Nat.pow_pos (by norm_num)
  have hpowRat : (0 : Rat) < (Nat.pow 2 e.natAbs : Nat) := by exact_mod_cast hpow
  simp only [nearestDouble, if_neg hnum, he]
  by_cases hneg : e < 0
  · refine ⟨roundDiv (r.num * (Nat.pow 2 e.natAbs : Nat)) r.den, ?_, ?_⟩
    · rw [if_pos hneg, Rat.mkRat_eq_div, unit_of_neg hneg, mul_one_div]
    · have h := isNearest_roundDiv (r.num * (Nat.pow 2 e.natAbs : Nat)) r.den_pos
      convert h using 1
      rw [unit_of_neg hneg]
      push_cast
      rw [div_div_eq_mul_div, div_one]
      conv_lhs => rw [← Rat.num_div_den r]
      ring
  · refine ⟨roundDiv r.num (r.den * Nat.pow 2 e.natAbs), ?_, ?_⟩
    · rw [if_neg hneg, unit_of_nonneg (by omega)]
      push_cast
      ring
    · have h := isNearest_roundDiv r.num (Nat.mul_pos r.den_pos hpow)
      convert h using 1
      rw [unit_of_nonneg (by omega)]
      conv_lhs => rw [← Rat.num_div_den r]
      push_cast
      rw [div_div]

/-- No exponent is below that of the smallest doubles. -/
theorem neg_le_binadeExponent (n d : Nat) : -1074 ≤ binadeExponent n d := le_max_right _ _

/-- A number above zero, and its binade. -/
theorem binade_of_pos {r : Rat} (hr : 0 < r) :
    r < unit (binadeExponent r.num.natAbs r.den + 53) ∧
      (binadeExponent r.num.natAbs r.den = -1074 ∨
        unit (binadeExponent r.num.natAbs r.den + 52) ≤ r) := by
  have hnum : 0 < r.num := Rat.num_pos.mpr hr
  have hquotient : (r.num.natAbs : Rat) / r.den = r := by
    have habs : (r.num.natAbs : Rat) = r.num := by
      have hint : (r.num.natAbs : Int) = r.num := Int.natAbs_of_nonneg hnum.le
      simpa only [Int.cast_natCast] using congrArg (fun z : Int => (z : Rat)) hint
    rw [habs, Rat.num_div_den]
  have hspec := binadeExponent_spec (n := r.num.natAbs) (by omega) r.den_pos
  rwa [hquotient] at hspec

/-- Zero is a double. -/
theorem nearestDouble_zero : nearestDouble 0 = 0 := rfl

/-- Rounding keeps the sign. -/
theorem nearestDouble_nonneg {r : Rat} (hr : 0 ≤ r) : 0 ≤ nearestDouble r := by
  rcases hr.eq_or_lt with rfl | hpos
  · exact le_rfl
  obtain ⟨q, hdouble, hq⟩ := exists_isNearest hpos.ne'
  have hqnonneg : (0 : Int) ≤ q := by
    refine hq.ge_of_ge ?_
    push_cast
    exact (div_pos hpos (unit_pos _)).le
  rw [hdouble]
  exact mul_nonneg (by exact_mod_cast hqnonneg) (unit_pos _).le

/-- Rounded up, a number stays within its binade and the beginning of the next one. -/
theorem mul_unit_le {q e : Int} {r : Rat} (hq : IsNearest q (r / unit e))
    (h : r ≤ unit (e + 53)) : q * unit e ≤ unit (e + 53) := by
  have hunit : unit (e + 53) = unit e * 2 ^ 53 := unit_add e 53
  have hle : q ≤ 2 ^ 53 := by
    refine hq.le_of_le ?_
    rw [div_le_iff₀ (unit_pos e)]
    push_cast
    linarith
  have hleRat : (q : Rat) ≤ 2 ^ 53 := by exact_mod_cast hle
  calc (q : Rat) * unit e ≤ 2 ^ 53 * unit e := mul_le_mul_of_nonneg_right hleRat (unit_pos e).le
    _ = unit (e + 53) := by rw [hunit, mul_comm]

/-- Rounded down, a number does not leave its binade. -/
theorem le_mul_unit {q e : Int} {r : Rat} (hq : IsNearest q (r / unit e))
    (h : unit (e + 52) ≤ r) : unit (e + 52) ≤ q * unit e := by
  have hunit : unit (e + 52) = unit e * 2 ^ 52 := unit_add e 52
  have hle : 2 ^ 52 ≤ q := by
    refine hq.ge_of_ge ?_
    rw [le_div_iff₀ (unit_pos e)]
    push_cast
    linarith
  have hleRat : (2 : Rat) ^ 52 ≤ q := by exact_mod_cast hle
  calc unit (e + 52) = 2 ^ 52 * unit e := by rw [hunit, mul_comm]
    _ ≤ q * unit e := mul_le_mul_of_nonneg_right hleRat (unit_pos e).le

/-- Of two numbers the greater one has the greater nearest double, or the same. -/
theorem nearestDouble_mono {r r' : Rat} (hr : 0 ≤ r) (h : r ≤ r') :
    nearestDouble r ≤ nearestDouble r' := by
  rcases hr.eq_or_lt with rfl | hpos
  · exact nearestDouble_nonneg h
  have hpos' : 0 < r' := lt_of_lt_of_le hpos h
  obtain ⟨q, hdouble, hq⟩ := exists_isNearest hpos.ne'
  obtain ⟨q', hdouble', hq'⟩ := exists_isNearest hpos'.ne'
  obtain ⟨hbelow, hfrom⟩ := binade_of_pos hpos
  obtain ⟨hbelow', hfrom'⟩ := binade_of_pos hpos'
  have hlowest := neg_le_binadeExponent r.num.natAbs r.den
  have hlowest' := neg_le_binadeExponent r'.num.natAbs r'.den
  generalize binadeExponent r.num.natAbs r.den = e at *
  generalize binadeExponent r'.num.natAbs r'.den = e' at *
  rw [hdouble, hdouble']
  rcases lt_trichotomy e e' with hlt | rfl | hgt
  · -- the end of the lower binade is not above the beginning of the higher one
    have hnormal : unit (e' + 52) ≤ r' := hfrom'.resolve_left (by omega)
    calc q * unit e ≤ unit (e + 53) := mul_unit_le hq hbelow.le
      _ ≤ unit (e' + 52) := unit_le_unit (by omega)
      _ ≤ q' * unit e' := le_mul_unit hq' hnormal
  · have hle : q ≤ q' := hq.mono hq' (div_le_div_of_nonneg_right h (unit_pos _).le)
    exact mul_le_mul_of_nonneg_right (by exact_mod_cast hle) (unit_pos _).le
  · -- the greater number would lie below the binade of the smaller one
    have hnormal : unit (e + 52) ≤ r := hfrom.resolve_left (by omega)
    have hover : unit (e' + 53) ≤ unit (e + 52) := unit_le_unit (by omega)
    linarith

/-- A whole number of 53 bits is a double. -/
theorem nearestDouble_natCast {n : Nat} (h : n < 2 ^ 53) : nearestDouble n = n := by
  rcases Nat.eq_zero_or_pos n with rfl | hpos
  · exact nearestDouble_zero
  have hposRat : (0 : Rat) < n := by exact_mod_cast hpos
  obtain ⟨q, hdouble, hq⟩ := exists_isNearest hposRat.ne'
  obtain ⟨-, hfrom⟩ := binade_of_pos hposRat
  generalize binadeExponent (n : Rat).num.natAbs (n : Rat).den = e at *
  have he : e ≤ 0 := by
    by_contra hgt
    have hnormal : unit (e + 52) ≤ n := hfrom.resolve_left (by omega)
    have hbits : unit 53 ≤ unit (e + 52) := unit_le_unit (by omega)
    have hlarge : (n : Rat) < unit 53 := by
      rw [unit]
      exact_mod_cast h
    linarith
  -- the unit divides the number
  have hwhole : (n : Rat) / unit e = ((n * Nat.pow 2 (-e).natAbs : Nat) : Int) := by
    have hinverse : unit (-e) * unit e = 1 := unit_neg_mul e
    rw [unit_of_nonneg (by omega)] at hinverse
    rw [div_eq_iff (unit_pos e).ne']
    push_cast at hinverse ⊢
    rw [mul_assoc, hinverse, mul_one]
  rw [hwhole] at hq
  rw [hdouble, hq.unique (IsNearest.intCast _), ← hwhole, div_mul_cancel₀ _ (unit_pos e).ne']

/-- Rounding to a double loses a `2 ^ 53`rd part at most, if the number is not subnormal. -/
theorem abs_nearestDouble_sub_le {r : Rat} (hr : unit (-1022) ≤ r) :
    |nearestDouble r - r| ≤ r / 2 ^ 53 := by
  have hpos : 0 < r := lt_of_lt_of_le (unit_pos _) hr
  obtain ⟨q, hdouble, hq⟩ := exists_isNearest hpos.ne'
  obtain ⟨-, hfrom⟩ := binade_of_pos hpos
  generalize binadeExponent r.num.natAbs r.den = e at *
  have hbinade : unit (e + 52) ≤ r := by
    rcases hfrom with rfl | hfrom
    · exact hr
    · exact hfrom
  have hunit : unit (e + 52) = unit e * 2 ^ 52 := unit_add e 52
  have hlower := hq.lower
  have hupper := hq.upper
  rw [le_div_iff₀ (unit_pos e)] at hlower
  rw [div_le_iff₀ (unit_pos e)] at hupper
  have hhalf : unit e / 2 ≤ r / 2 ^ 53 := by linarith
  rw [hdouble, abs_le]
  constructor <;> linarith

end Walkthrough.Number
