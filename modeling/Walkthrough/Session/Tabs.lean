import Walkthrough.Session.Refusal

/-!
# Positions of tabs

Which tab a position means, and which tab has the focus when the one that had it is gone.

Mirroring notes:
- `tabAt` and `focusAfterClose` are `tab_at` and `focus_after_close`.
-/

namespace Walkthrough.Tabs

/-- The tab at a position, counted from zero. -/
def tabAt {Tab : Type} (tabs : List Tab) (position : Int) : Except Refusal Tab :=
  if position < 0 then .error (.noTab position tabs.length)
  else
    match tabs[position.toNat]? with
    | some tab => .ok tab
    | none => .error (.noTab position tabs.length)

/-- The position of the tab that gets the focus when the one at `closed` is gone: the one before it,
or the first; never one beyond the last. -/
def focusAfterClose (closed : Int) (remaining : Nat) : Option Nat :=
  if remaining = 0 then none else some (min (closed - 1).toNat (remaining - 1))

/-- The focus goes to a tab that is there. -/
theorem focusAfterClose_lt {closed : Int} {remaining n : Nat}
    (h : focusAfterClose closed remaining = some n) : n < remaining := by
  unfold focusAfterClose at h
  split at h
  · simp at h
  · simp only [Option.some.injEq] at h
    omega

/-- A tab is found exactly at the positions from zero to below the count of tabs. -/
theorem tabAt_isOk_iff {Tab : Type} (tabs : List Tab) (position : Int) :
    (∃ tab, tabAt tabs position = .ok tab) ↔ 0 ≤ position ∧ position < tabs.length := by
  unfold tabAt
  by_cases h : position < 0
  · simp only [h, if_true, reduceCtorEq, exists_false, false_iff]
    omega
  · by_cases h' : position.toNat < tabs.length
    · simp [h, h']; omega
    · simp [h, h']; omega

end Walkthrough.Tabs
