import Walkthrough.Duration
import Walkthrough.Proofs.Number.Nearest

/-!
# Readings of a clock

The text of a duration is a reading of a clock, `m:ss.mmm`: minutes, and seconds with three decimal
places. `Duration.Reading.read?` takes such a text apart.

The minutes are split off before the seconds are rounded. So the seconds of the last half
millisecond of a minute are rounded up to sixty, with no minute carried: just before one minute is
over, the text is `0:60.000` (`Duration.clockText_reads_sixty`). `Duration.clockText_reads` says for
every duration how far its reading is from it, and when this happens; taken in milliseconds the
readings are in the order of the durations.
-/

namespace Walkthrough

namespace Duration

open Number

/-! ## Readings -/

/-- Minutes, and thousandths of a second. -/
structure Reading where
  minutes : Nat
  millis : Nat
  deriving DecidableEq, Repr

namespace Reading

/-- All of the reading, in thousandths of a second. -/
def total (r : Reading) : Nat := 60000 * r.minutes + r.millis

/-- The number that is written with these digits. -/
def number? (cs : List Char) : Option Nat :=
  if !cs.isEmpty && cs.all Char.isDigit then some (Nat.ofDigitChars 10 cs 0) else none

/-- The seconds of a reading in milliseconds: two digits, a point, and three digits. -/
def millis? (cs : List Char) : Option Nat :=
  match cs.splitOn '.' with
  | [whole, places] =>
    match number? whole, number? places with
    | some s, some t =>
      if whole.length = 2 && places.length = 3 then some (1000 * s + t) else none
    | _, _ => none
  | _ => none

/-- The reading that a text shows. -/
def read? (text : String) : Option Reading :=
  match text.toList.splitOn ':' with
  | [before, after] =>
    match number? before, millis? after with
    | some m, some f => some ⟨m, f⟩
    | _, _ => none
  | _ => none

end Reading

/-! ## Digits -/

/-- The digits of a number, with zeros in front up to a width. -/
def digits (width n : Nat) : List Char :=
  List.replicate (width - (Nat.toDigits 10 n).length) '0' ++ Nat.toDigits 10 n

theorem isDigit_of_mem_digits {width n : Nat} {c : Char} (h : c ∈ digits width n) :
    c.isDigit = true := by
  rcases List.mem_append.mp h with h | h
  · rw [List.eq_of_mem_replicate h]
    rfl
  · exact Nat.isDigit_of_mem_toDigits (by omega) (by omega) h

theorem length_digits {width n : Nat} (hwidth : 0 < width) (hn : n < 10 ^ width) :
    (digits width n).length = width := by
  have hle : (Nat.toDigits 10 n).length ≤ width :=
    (Nat.length_toDigits_le_iff (by omega) hwidth).mpr hn
  rw [digits, List.length_append, List.length_replicate]
  omega

theorem number?_digits (width n : Nat) : Reading.number? (digits width n) = some n := by
  have hne : (digits width n).isEmpty = false := by
    simp [digits, Nat.toDigits_ne_nil]
  have hall : (digits width n).all Char.isDigit = true :=
    List.all_eq_true.mpr fun c hc => isDigit_of_mem_digits hc
  have hzeros (k : Nat) (cs : List Char) :
      Nat.ofDigitChars 10 (List.replicate k '0' ++ cs) 0 = Nat.ofDigitChars 10 cs 0 := by
    induction k with
    | zero => rfl
    | succ k ih => exact ih
  have hvalue : Nat.ofDigitChars 10 (digits width n) 0 = n := by
    rw [digits, hzeros, Nat.ofDigitChars_toDigits (by omega) (by omega)]
  simp [Reading.number?, hne, hall, hvalue]

theorem not_mem_digits {width n : Nat} {c : Char} (h : c.isDigit = false) :
    c ∉ digits width n := by
  intro hmem
  rw [isDigit_of_mem_digits hmem] at h
  cases h

theorem toList_paddedNat (width n : Nat) : (paddedNat width n).toList = digits width n := by
  simp [paddedNat, digits, String.length]

/-- A number with three decimal places, padded to two digits before them. -/
theorem toList_zeroPadded_scaled (f : Nat) :
    (zeroPadded 6 (scaled 3 f)).toList =
      digits 2 (f / 1000) ++ '.' :: digits 3 (f % 1000) := by
  have hscaled : (scaled 3 f).toList =
      Nat.toDigits 10 (f / 1000) ++ '.' :: digits 3 (f % 1000) := by
    simp [scaled, toList_paddedNat]
  have hplaces : (digits 3 (f % 1000)).length = 3 := length_digits (by omega) (by omega)
  have hwidth : 6 - (scaled 3 f).length = 2 - (Nat.toDigits 10 (f / 1000)).length := by
    rw [← String.length_toList, hscaled, List.length_append, List.length_cons, hplaces]
    omega
  rw [zeroPadded, String.toList_append, String.toList_ofList, hwidth, hscaled]
  exact (List.append_assoc ..).symm

theorem millis?_zeroPadded {f : Nat} (h : f < 100000) :
    Reading.millis? (zeroPadded 6 (scaled 3 f)).toList = some f := by
  have hsplit : (digits 2 (f / 1000) ++ '.' :: digits 3 (f % 1000)).splitOn '.' =
      [digits 2 (f / 1000), digits 3 (f % 1000)] := by
    rw [List.splitOn_append_cons_self, List.splitOn_eq_singleton (not_mem_digits rfl),
      List.splitOn_eq_singleton (not_mem_digits rfl)]
    rfl
  have hwhole : (digits 2 (f / 1000)).length = 2 := length_digits (by omega) (by omega)
  have hplaces : (digits 3 (f % 1000)).length = 3 := length_digits (by omega) (by omega)
  have hvalue : 1000 * (f / 1000) + f % 1000 = f := by omega
  rw [toList_zeroPadded_scaled, Reading.millis?, hsplit]
  simp [number?_digits, hwhole, hplaces, hvalue]

/-- Minutes and padded seconds are read back. -/
theorem read?_text (m : Nat) {f : Nat} (h : f < 100000) :
    Reading.read? (Nat.repr m ++ ":" ++ zeroPadded 6 (scaled 3 f)) = some ⟨m, f⟩ := by
  have hminutes : (Nat.repr m).toList = digits 0 m := by simp [digits]
  have htext : (Nat.repr m ++ ":" ++ zeroPadded 6 (scaled 3 f)).toList =
      digits 0 m ++ ':' :: (zeroPadded 6 (scaled 3 f)).toList := by
    simp [← hminutes]
  have hafter : ':' ∉ (zeroPadded 6 (scaled 3 f)).toList := by
    rw [toList_zeroPadded_scaled, List.mem_append, List.mem_cons]
    rintro (hmem | hmem | hmem)
    · exact not_mem_digits rfl hmem
    · cases hmem
    · exact not_mem_digits rfl hmem
  rw [Reading.read?, htext, List.splitOn_append_cons_self,
    List.splitOn_eq_singleton (not_mem_digits rfl), List.splitOn_eq_singleton hafter]
  simp [number?_digits, millis?_zeroPadded h]

/-! ## The text of a duration -/

/-- A number that is not negative is written as the nearest whole number of thousandths. -/
theorem fixed_of_nonneg {x : Rat} (h : 0 ≤ x) :
    ∃ f : Nat, IsNearest f (1000 * x) ∧ fixed 3 x = scaled 3 f := by
  have hnum : 0 ≤ x.num := Rat.num_nonneg.mpr h
  have hnearest : IsNearest (roundDiv ((x.num.natAbs * Nat.pow 10 3 : Nat) : Int) x.den)
      (1000 * x) := by
    have hround := isNearest_roundDiv ((x.num.natAbs * Nat.pow 10 3 : Nat) : Int) x.den_pos
    have hquotient : (((x.num.natAbs * Nat.pow 10 3 : Nat) : Int) : Rat) / x.den = 1000 * x := by
      have habs : ((x.num.natAbs * Nat.pow 10 3 : Nat) : Int) = x.num * 1000 := by
        have hint : (x.num.natAbs : Int) = x.num := Int.natAbs_of_nonneg hnum
        rw [Nat.cast_mul, hint]
        rfl
      rw [habs]
      conv_rhs => rw [← Rat.num_div_den x]
      push_cast
      ring
    rwa [hquotient] at hround
  have hnonneg : 0 ≤ roundDiv ((x.num.natAbs * Nat.pow 10 3 : Nat) : Int) x.den :=
    hnearest.ge_of_ge (by push_cast; linarith)
  refine ⟨(roundDiv ((x.num.natAbs * Nat.pow 10 3 : Nat) : Int) x.den).toNat, ?_, ?_⟩
  · rwa [Int.toNat_of_nonneg hnonneg]
  · simp [fixed, not_lt.mpr h]

variable {p : Precision} {d : Duration}

/-- The minutes and the milliseconds that the text of a duration is made of. The milliseconds are
those of sixty seconds at most, and all of the reading is the nearest number of milliseconds. -/
theorem read?_clockText (h : 0 ≤ d.seconds p) :
    ∃ r, Reading.read? (d.clockText p) = some r ∧ (r.minutes : Int) = (d.seconds p / 60).floor ∧
      r.millis ≤ 60000 ∧ IsNearest r.total (1000 * d.seconds p) := by
  have hfloor : 0 ≤ (d.seconds p / 60).floor := by
    rw [Rat.le_floor_iff]
    push_cast
    linarith
  obtain ⟨m, hm⟩ := Int.eq_ofNat_of_zero_le hfloor
  have hlower : (m : Rat) ≤ d.seconds p / 60 := by
    exact_mod_cast Rat.le_floor_iff.mp hm.ge
  have hupper : d.seconds p / 60 < m + 1 := by
    have hlt : (d.seconds p / 60).floor < (m : Int) + 1 := by omega
    exact_mod_cast Rat.floor_lt_iff.mp hlt
  obtain ⟨f, hf, hfixed⟩ := fixed_of_nonneg (x := d.seconds p - 60 * m) (by linarith)
  have hsixty : f ≤ 60000 := by
    have hle : (f : Int) ≤ 60000 := hf.le_of_le (by push_cast; linarith)
    omega
  refine ⟨⟨m, f⟩, ?_, hm.symm, hsixty, ?_⟩
  · have htext : d.clockText p = Nat.repr m ++ ":" ++ zeroPadded 6 (scaled 3 f) := by
      simp only [clockText, hm]
      push_cast
      rw [hfixed]
      rfl
    rw [htext]
    exact read?_text m (by omega)
  · -- the milliseconds of whole minutes are even
    have htotal := hf.add_even (k := 60000 * m) (by omega)
    have hsum : ((Reading.total ⟨m, f⟩ : Nat) : Int) = f + 60000 * m := by
      simp only [Reading.total]
      push_cast
      ring
    have hseconds : 1000 * d.seconds p =
        1000 * (d.seconds p - 60 * m) + ((60000 * m : Int) : Rat) := by
      push_cast
      ring
    rw [hsum, hseconds]
    exact htotal

/-! ## Whole numbers of microseconds -/

theorem seconds_double (us : Nat) :
    (⟨us⟩ : Duration).seconds .double = nearestDouble (us / 1000000) := by
  show nearestDouble (mkRat us 1000000) = _
  rw [Rat.mkRat_eq_div]
  push_cast
  rfl

theorem seconds_double_nonneg (us : Nat) : 0 ≤ (⟨us⟩ : Duration).seconds .double := by
  rw [seconds_double]
  exact nearestDouble_nonneg (by positivity)

theorem seconds_double_mono {us us' : Nat} (h : us ≤ us') :
    (⟨us⟩ : Duration).seconds .double ≤ (⟨us'⟩ : Duration).seconds .double := by
  have hRat : (us : Rat) ≤ us' := by exact_mod_cast h
  rw [seconds_double, seconds_double]
  exact nearestDouble_mono (by positivity) (by linarith)

/-- A number of seconds is off by a `2 ^ 53`rd part at most. -/
theorem abs_seconds_double_sub_le (us : Nat) :
    |(⟨us⟩ : Duration).seconds .double - us / 1000000| ≤ us / 1000000 / 2 ^ 53 := by
  rw [seconds_double]
  rcases Nat.eq_zero_or_pos us with rfl | hpos
  · simp [nearestDouble_zero]
  · refine abs_nearestDouble_sub_le ?_
    have hone : (1 : Rat) ≤ us := by exact_mod_cast hpos
    -- a microsecond is far from the subnormal numbers
    calc unit (-1022) ≤ unit (-20) := unit_le_unit (by omega)
      _ = 1 / 1048576 := by norm_num [unit]
      _ ≤ us / 1000000 := by linarith

/-- Up to 53 bits the minutes are those of the duration itself. -/
theorem floor_seconds_double {us : Nat} (h : us < 2 ^ 53) :
    ((⟨us⟩ : Duration).seconds .double / 60).floor = (us / 60000000 : Nat) := by
  have hloss := abs_le.mp (abs_seconds_double_sub_le us)
  have husRat : (us : Rat) < 2 ^ 53 := by exact_mod_cast h
  have hdivision : 60000000 * (us / 60000000) + us % 60000000 = us := Nat.div_add_mod us 60000000
  have hmod : us % 60000000 < 60000000 := Nat.mod_lt _ (by omega)
  generalize us / 60000000 = k at hdivision ⊢
  have hfrom : 60000000 * (k : Rat) ≤ us := by
    have : 60000000 * k ≤ us := by omega
    exact_mod_cast this
  have hbefore : (us : Rat) + 1 ≤ 60000000 * (k + 1) := by
    have : us + 1 ≤ 60000000 * (k + 1) := by omega
    exact_mod_cast this
  -- whole minutes are numbers of seconds without loss
  have hminutes : ((60 * k : Nat) : Rat) ≤ (⟨us⟩ : Duration).seconds .double := by
    have hexact : nearestDouble ((60 * k : Nat) : Rat) = (60 * k : Nat) :=
      nearestDouble_natCast (by omega)
    rw [seconds_double, ← hexact]
    refine nearestDouble_mono (by positivity) ?_
    push_cast
    linarith
  have hnext : (⟨us⟩ : Duration).seconds .double < 60 * (k + 1) := by linarith [hloss.2]
  apply le_antisymm
  · have hlt : ((⟨us⟩ : Duration).seconds .double / 60).floor < (k : Int) + 1 := by
      rw [Rat.floor_lt_iff]
      push_cast
      linarith
    omega
  · rw [Rat.le_floor_iff]
    push_cast at hminutes ⊢
    linarith

/-- The text of a duration is a reading of a clock. All of the reading is off by half a millisecond
at most, next to what is lost when the duration is made a number of seconds; and readings of longer
durations are not smaller. Up to 53 bits nothing is lost: the minutes are those that are over, and
the seconds are off by half a millisecond at most. They are less than sixty, except in the last half
millisecond of a minute, where they are rounded up to sixty. -/
theorem clockText_reads (us : Nat) :
    ∃ r, Reading.read? ((⟨us⟩ : Duration).clockText .double) = some r ∧ r.millis ≤ 60000 ∧
      |1000 * (r.total : Rat) - us| ≤ 500 + us / 2 ^ 53 ∧
      (us < 2 ^ 53 → r.minutes = us / 60000000 ∧
        |1000 * (r.total : Int) - us| ≤ 500 ∧
        (us % 60000000 < 59999500 → r.millis < 60000) ∧
        (59999500 < us % 60000000 → r.millis = 60000)) ∧
      ∀ us' r', us ≤ us' →
        Reading.read? ((⟨us'⟩ : Duration).clockText .double) = some r' → r.total ≤ r'.total := by
  obtain ⟨r, hread, hminutes, hmillis, htotal⟩ := read?_clockText (seconds_double_nonneg us)
  have hbound : |1000 * (r.total : Rat) - us| ≤ 500 + us / 2 ^ 53 := by
    have hloss := abs_le.mp (abs_seconds_double_sub_le us)
    have hlower := htotal.lower
    have hupper := htotal.upper
    push_cast at hlower hupper
    rw [abs_le]
    constructor <;> linarith [hloss.1, hloss.2]
  refine ⟨r, hread, hmillis, hbound, fun hbits => ?_, fun us' r' hle hread' => ?_⟩
  · have hover : r.minutes = us / 60000000 := by
      have hfloor := hminutes.trans (floor_seconds_double hbits)
      exact_mod_cast hfloor
    have hwhole : |1000 * (r.total : Int) - us| ≤ 500 := by
      have husRat : (us : Rat) < 2 ^ 53 := by exact_mod_cast hbits
      have hlt : |1000 * (r.total : Rat) - us| < 501 := by linarith
      have hltInt : |1000 * (r.total : Int) - us| < 501 := by exact_mod_cast hlt
      omega
    have hsum : r.total = 60000 * r.minutes + r.millis := rfl
    have hnear := abs_le.mp hwhole
    refine ⟨hover, hwhole, fun hearly => ?_, fun hlate => ?_⟩
    · omega
    · omega
  · obtain ⟨r'', hread'', -, -, htotal'⟩ := read?_clockText (seconds_double_nonneg us')
    obtain rfl : r'' = r' := by
      rw [hread'] at hread''
      exact (Option.some.inj hread'').symm
    have hmono : (r.total : Int) ≤ r''.total :=
      htotal.mono htotal' (by linarith [seconds_double_mono hle])
    omega

/-- Before the last half millisecond of the second minute. -/
theorem clockText_reads_early :
    119999499 < 2 ^ 53 ∧ 119999499 % 60000000 < 59999500 ∧
      ∃ r, Reading.read? ((⟨(119999499 : Nat)⟩ : Duration).clockText .double) = some r ∧
        r.minutes = 1 ∧ r.millis < 60000 ∧ |1000 * (r.total : Int) - 119999499| ≤ 500 := by
  obtain ⟨r, hread, -, -, hbits, -⟩ := clockText_reads 119999499
  obtain ⟨hminutes, hnear, hearly, -⟩ := hbits (by norm_num)
  exact ⟨by norm_num, by norm_num, r, hread, hminutes, hearly (by norm_num), hnear⟩

/-- A little less than a minute is read as sixty seconds. -/
theorem clockText_reads_sixty :
    (⟨59999600⟩ : Duration).clockText .double = "0:60.000" ∧
      Reading.read? "0:60.000" = some ⟨0, 60000⟩ := by
  decide +kernel

end Duration

end Walkthrough
