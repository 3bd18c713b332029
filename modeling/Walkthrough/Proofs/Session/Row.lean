import Mathlib.Data.List.Nodup
import Walkthrough.Session.Tabs

/-!
# A row of tabs with a cursor

What the tabs of a session look like to whoever uses it: a row of tabs, and a cursor at the one that
has the focus. A tab that is opened goes to the end of the row and gets the cursor; when the tab at
the cursor is closed, the cursor moves one place to the left, or stays at the first place. Nothing
can be done to a row without tabs.

`Row.Step` says what each operation does, and `Row.Steps` what several do one after the other.
-/

namespace Walkthrough

/-- What can be done to the tabs of a session. -/
inductive TabOperation where
  | newTab
  | newWindow
  | switchTab (position : Int)
  | closeTab
  deriving DecidableEq, Repr

/-- A row of tabs, and the position of the one that has the focus. -/
structure Row (Tab : Type) where
  tabs : List Tab
  cursor : Nat

namespace Row

variable {Tab : Type}

/-- The tab that has the focus. -/
def current (r : Row Tab) : Option Tab := r.tabs[r.cursor]?

/-- Opens a tab, which gets the focus. -/
def push (r : Row Tab) (tab : Tab) : Row Tab := ⟨r.tabs ++ [tab], r.tabs.length⟩

/-- Closes the tab that has the focus; a cursor at the first place stays there. -/
def close (r : Row Tab) : Row Tab := ⟨r.tabs.eraseIdx r.cursor, r.cursor - 1⟩

/-- What an operation answers, and the row that it leaves. A tab that is opened is not in the row
yet. -/
inductive Step : Row Tab → TabOperation → Except Refusal Unit → Row Tab → Prop where
  | noTabs {r : Row Tab} {op : TabOperation} (empty : r.tabs = []) :
      Step r op (.error .notStarted) r
  | newTab {r : Row Tab} {tab : Tab} (nonempty : r.tabs ≠ []) (unused : tab ∉ r.tabs) :
      Step r .newTab (.ok ()) (r.push tab)
  | newWindow {r : Row Tab} {tab : Tab} (nonempty : r.tabs ≠ []) (unused : tab ∉ r.tabs) :
      Step r .newWindow (.ok ()) (r.push tab)
  | switchTab {r : Row Tab} {position : Int} (nonempty : r.tabs ≠ []) (low : 0 ≤ position)
      (high : position < r.tabs.length) :
      Step r (.switchTab position) (.ok ()) { r with cursor := position.toNat }
  | noTab {r : Row Tab} {position : Int} (nonempty : r.tabs ≠ [])
      (outside : ¬ (0 ≤ position ∧ position < r.tabs.length)) :
      Step r (.switchTab position) (.error (.noTab position r.tabs.length)) r
  | closeTab {r : Row Tab} (nonempty : r.tabs ≠ []) : Step r .closeTab (.ok ()) r.close

/-- What several operations answer, and the row that they leave. -/
inductive Steps : Row Tab → List TabOperation → List (Except Refusal Unit) → Row Tab → Prop where
  | done (r : Row Tab) : Steps r [] [] r
  | step {r r' r'' : Row Tab} {op : TabOperation} {answer : Except Refusal Unit}
      {ops : List TabOperation} {answers : List (Except Refusal Unit)}
      (first : Step r op answer r') (rest : Steps r' ops answers r'') :
      Steps r (op :: ops) (answer :: answers) r''

/-- No tab is in the row twice, and the cursor is at one of them if there are any. -/
structure Sound (r : Row Tab) : Prop where
  distinct : r.tabs.Nodup
  cursor : r.tabs ≠ [] → r.cursor < r.tabs.length

/-! ## Laws -/

theorem current_push (r : Row Tab) (tab : Tab) : (r.push tab).current = some tab := by
  simp [push, current]

theorem Sound.push {r : Row Tab} (h : r.Sound) {tab : Tab} (unused : tab ∉ r.tabs) :
    (r.push tab).Sound := by
  refine ⟨?_, fun _ => by simp [Row.push]⟩
  exact List.nodup_append.mpr ⟨h.distinct, List.nodup_singleton tab, by grind⟩

theorem Sound.close {r : Row Tab} (h : r.Sound) : r.close.Sound := by
  refine ⟨h.distinct.sublist (List.eraseIdx_sublist ..), fun hafter => ?_⟩
  have hbefore : r.tabs ≠ [] := by
    rintro hempty
    simp [Row.close, hempty] at hafter
  have hcursor := h.cursor hbefore
  have hlength : r.close.tabs.length = r.tabs.length - 1 := List.length_eraseIdx_of_lt hcursor
  have hleft : 0 < r.close.tabs.length := List.length_pos_iff.mpr hafter
  show r.cursor - 1 < r.close.tabs.length
  omega

/-- A step leads from a sound row to a sound row. -/
theorem Step.sound {r r' : Row Tab} {op : TabOperation} {answer : Except Refusal Unit}
    (h : Step r op answer r') (hr : r.Sound) : r'.Sound := by
  cases h with
  | noTabs empty => exact hr
  | newTab _ unused => exact hr.push unused
  | newWindow _ unused => exact hr.push unused
  | switchTab _ low high => exact ⟨hr.distinct, fun _ => (Int.toNat_lt low).mpr high⟩
  | noTab => exact hr
  | closeTab => exact hr.close

/-- Some tab has the focus exactly when there are tabs. -/
theorem Sound.current_eq_none_iff {r : Row Tab} (h : r.Sound) : r.current = none ↔ r.tabs = [] := by
  unfold current
  rw [List.getElem?_eq_none_iff]
  refine ⟨fun hlength => ?_, fun hempty => by simp [hempty]⟩
  by_contra hafter
  have := h.cursor hafter
  omega

/-- The tab that has the focus is found at the cursor and nowhere before. -/
theorem Sound.idxOf?_current [DecidableEq Tab] {r : Row Tab} (h : r.Sound) {tab : Tab}
    (hcurrent : r.current = some tab) : r.tabs.idxOf? tab = some r.cursor := by
  obtain ⟨hcursor, rfl⟩ := List.getElem?_eq_some_iff.mp hcurrent
  refine List.idxOf?_eq_some_iff.mpr ⟨hcursor, rfl, fun n hn heq => ?_⟩
  exact absurd (h.distinct.getElem_inj_iff.mp heq) (Nat.ne_of_lt hn)

/-- Taking the tab that has the focus out of the row leaves the others in their places. -/
theorem Sound.erase_current [DecidableEq Tab] {r : Row Tab} (h : r.Sound) {tab : Tab}
    (hcurrent : r.current = some tab) : r.tabs.erase tab = r.close.tabs := by
  obtain ⟨hcursor, rfl⟩ := List.getElem?_eq_some_iff.mp hcurrent
  exact h.distinct.erase_getElem r.cursor hcursor

/-- When the tab that has the focus is closed, the focus goes to the tab at the new cursor. -/
theorem Sound.focusAfterClose {r : Row Tab} (h : r.Sound) (nonempty : r.tabs ≠ []) :
    ((Tabs.focusAfterClose r.cursor r.close.tabs.length).bind fun n => r.close.tabs[n]?) =
      r.close.current := by
  have hcursor := h.cursor nonempty
  have hlength : r.close.tabs.length = r.tabs.length - 1 := List.length_eraseIdx_of_lt hcursor
  unfold Tabs.focusAfterClose
  by_cases hempty : r.close.tabs.length = 0
  · rw [if_pos hempty, h.close.current_eq_none_iff.mpr (List.length_eq_zero_iff.mp hempty)]
    rfl
  · have hplace : min ((r.cursor : Int) - 1).toNat (r.close.tabs.length - 1) = r.cursor - 1 := by
      omega
    rw [if_neg hempty, hplace]
    rfl

end Row

end Walkthrough
