import Mathlib.Algebra.Field.Rat
import Mathlib.Algebra.Order.Ring.Rat
import Mathlib.Tactic.Linarith
import Walkthrough.Proofs.Waiting.Attempts

/-!
# Waits under a clock that advances

A wait is repeated only while there is time left. When its readings of the clock move by half a
microsecond or more from each attempt to the next (`Wait.Advances`), each repeat uses up as much of
the time, so there are at most twice as many as there are microseconds in the timeout
(`Wait.Advances.length_le`). That is fewer than `Flow.attemptLimit`, so such a wait is never cut
(`Wait.Advances.not_overruns`).

Half a microsecond stands for a microsecond that is read with an error: nothing is said here about
the precision of the readings.
-/

namespace Walkthrough.Wait

variable {H : Host} {α : Type} {d : Driver H} {x : Wait H α}

/-- A wait that starts its first attempt in a world reads a clock that advances: it never reads less
than at the start, and from each attempt that is repeated to the next half a microsecond more. -/
structure Advances (d : Driver H) (x : Wait H α) (w : H.World) : Prop where
  first : 0 ≤ x.elapsed d w
  step : ∀ {ws : List H.World} {v v' : H.World}, x.Retried d w ws v → x.Again d v v' →
    x.elapsed d v + 1 / 2000000 ≤ x.elapsed d v'

namespace Advances

variable {w w' last : H.World} {ws : List H.World}

/-- The clock advances from a later attempt on as well. -/
theorem next (h : x.Advances d w) (again : x.Again d w w') : x.Advances d w' where
  first := by linarith [h.first, h.step (.here w) again]
  step retried := h.step (.again again retried)

/-- Every repeat uses up half a microsecond of the time that is left. -/
theorem length_le_of_left (h : x.Advances d w) (retried : x.Retried d w ws last) (n : Nat)
    (hn : (x.timeout - x.elapsed d w) * 2000000 ≤ n) : ws.length ≤ n := by
  induction retried generalizing n with
  | here w => exact Nat.zero_le n
  | @again w w' last ws first rest ih =>
    have hstep := h.step (.here w) first
    obtain ⟨-, early, -⟩ := id first
    cases n with
    | zero =>
      -- there was time left after the first attempt
      push_cast at hn
      linarith
    | succ m =>
      push_cast at hn
      exact Nat.succ_le_succ (ih (h.next first) m (by linarith))

/-- There are at most twice as many repeats as there are microseconds in the timeout. -/
theorem length_le (h : x.Advances d w) (retried : x.Retried d w ws last) :
    ws.length ≤ 2 * (x.timeout * 1000000).ceil.toNat := by
  have hceil : x.timeout * 1000000 ≤ ((x.timeout * 1000000).ceil : Rat) := Rat.le_ceil
  have htoNat : ((x.timeout * 1000000).ceil : Rat) ≤ ((x.timeout * 1000000).ceil.toNat : Nat) := by
    exact_mod_cast Int.self_le_toNat _
  refine h.length_le_of_left retried _ ?_
  push_cast
  linarith [h.first]

/-- A wait under a clock that advances is never cut. -/
theorem not_overruns (h : x.Advances d w) : ¬ x.Overruns d w := by
  rintro ⟨retried, spent, -, -⟩
  have hlength := h.length_le retried
  rw [spent, Flow.attemptLimit] at hlength
  omega

end Advances

end Walkthrough.Wait
