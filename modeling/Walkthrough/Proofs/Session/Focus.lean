import Walkthrough.Proofs.Session.Twins
import Walkthrough.Rehearsal.Engine

/-!
# Moves of the focus that fail

A session gives the focus to another page in three ways: it opens a tab or a window, or it looks up
the tab at a position. Each of them first finds the page and makes the page that it has found the
current one last, before that page is brought to the front (`FocusMove.work_eq`). Finding a page
only reads what the session holds (`FocusMove.reads_target`), so whatever fails on the way to the
page leaves the session as it was.

The one call that comes after the focus has moved is the one that brings the page to the front. When
it fails, the focus stays on the page that could not be brought there (`Session.focus_of_failed`),
and later actions go to that page and not to the one that the session was on
(`Session.focus_of_failed_front`).
-/

namespace Walkthrough

universe u

variable {Handle α β : Type} {World : Type u}

namespace Session

open Work

/-! ## Work that only reads -/

/-- The work leaves what the session holds as it is, whether it fails or not. -/
def Reads (E : Engine Handle World) (work : BlockingWork Handle α) : Prop :=
  ∀ s w, (run E work s w).1.2 = s

namespace Reads

variable {E : Engine Handle World}

/-- Looking at the current page only reads. -/
theorem currentPage : Reads E (currentPage : BlockingWork Handle Handle) := by
  intro s w
  rcases h : s.page with _ | page
  · rw [run_currentPage_none h]
  · rw [run_currentPage h]

/-- A call of the engine leaves the session as it is. -/
theorem ask (call : EngineCall Handle β) : Reads E (ask call) := fun _ _ => rfl

/-- Going on with what was found only reads. -/
theorem expect (r : Except Refusal α) : Reads E (expect r) := by
  cases r <;> exact fun _ _ => rfl

/-- What only reads leaves the session that it was given. -/
theorem exists_run {work : BlockingWork Handle α} (h : Reads E work) (s : Session Handle)
    (w : World) : ∃ r v, run E work s w = ((r, s), v) :=
  ⟨(run E work s w).1.1, (run E work s w).2, congrArg (fun t => ((_, t), _)) (h s w)⟩

/-- What goes on from work that only reads only reads, if it does for each value. -/
theorem bind {work : BlockingWork Handle α} {f : α → BlockingWork Handle β}
    (hwork : Reads E work) (hf : ∀ a, Reads E (f a)) : Reads E (work >>= f) := by
  intro s w
  obtain ⟨r, v, hrun⟩ := hwork.exists_run s w
  rw [run_bind, hrun]
  cases r with
  | error e => rfl
  | ok a => exact hf a s v

end Reads

end Session

/-! ## Moves of the focus -/

/-- A way to give the focus to another page. -/
inductive FocusMove where
  | newTab
  | newWindow
  | switchTab (position : Int)
  deriving DecidableEq, Repr

namespace FocusMove

open Session Session.Work

/-- What a session does that blocks at each call. -/
def work : FocusMove → BlockingWork Handle Unit
  | newTab => Session.newTab
  | newWindow => Session.newWindow
  | switchTab position => Session.switchTab position

/-- What a session does that awaits its calls. -/
def asyncWork : FocusMove → AsyncWork Handle Unit
  | newTab => Session.Async.newTab
  | newWindow => Session.Async.newWindow
  | switchTab position => Session.Async.switchTab position

/-- What a session says that it was doing when the engine fails. -/
def action : FocusMove → String
  | newTab => "Opening a tab"
  | newWindow => "Opening a window"
  | switchTab position => "Switching to tab " ++ toString position

/-- The page that is to get the focus. -/
def target : FocusMove → BlockingWork Handle Handle
  | newTab => do
    let context ← ask (.contextOf (← currentPage))
    ask (.newPage context)
  | newWindow => do
    let page ← currentPage
    ask (.expectPopup page)
    let _ ← ask (.evaluate page popupScript none)
    ask (.popup page)
  | switchTab position => do
    let tabs ← pagesBeside (← currentPage)
    expect (Tabs.tabAt tabs position)

/-- The fault of a move in which the engine, or the search for the page, has failed with `f`. -/
def blame (m : FocusMove) (f : Fault) : Fault :=
  if f.ofEngine then (Refusal.engineFailed m.action f.text).toFault else f

/-- A move of the focus finds a page, and then moves the focus to it; both are translated. -/
theorem work_eq (m : FocusMove) :
    (m.work : BlockingWork Handle Unit) = translating m.action (m.target >>= focus) := by
  cases m with
  | newTab =>
    simp only [work, target, Session.newTab, bind_assoc]
    rfl
  | newWindow =>
    simp only [work, target, Session.newWindow, bind_assoc]
    rfl
  | switchTab position =>
    simp only [work, target, Session.switchTab, bind_assoc]
    rfl

/-- The moves that await are twins of those that block. -/
theorem blocked_asyncWork (m : FocusMove) :
    (m.asyncWork : AsyncWork Handle Unit).blocked = m.work := by
  cases m with
  | newTab => exact blocked_newTab
  | newWindow => exact blocked_newWindow
  | switchTab position => exact blocked_switchTab position

variable {E : Engine Handle World} {s s' : Session Handle} {w w' : World} {e : Fault}

/-- Finding the page changes nothing that the session holds. -/
theorem reads_target (m : FocusMove) : Reads E m.target := by
  cases m with
  | newTab => exact .bind .currentPage fun _ => .bind (.ask _) fun _ => .ask _
  | newWindow =>
    exact .bind .currentPage fun _ => .bind (.ask _) fun _ => .bind (.ask _) fun _ => .ask _
  | switchTab position =>
    exact .bind .currentPage fun _ => .bind (.bind (.ask _) fun _ => .ask _) fun _ => .expect _

variable {m : FocusMove}

/-- A move that finds no page fails, and that is all. -/
theorem run_work_of_lost {f : Fault} (h : run E m.target s w = ((.error f, s), w')) :
    run E m.work s w = ((.error (m.blame f), s), w') := by
  rw [work_eq, run_translating, run_bind, h]
  show (if f.ofEngine then _ else _) = _
  unfold blame
  cases f.ofEngine <;> rfl

/-- The focus moves to the page that is found, whether or not this page can be brought to the
front. -/
theorem run_work_of_found {page : Handle} {v : World}
    (h : run E m.target s w = ((.ok page, s), v)) :
    run E m.work s w =
      (((E.answer (.bringToFront page) v).1.mapError m.blame, { s with page := some page }),
        (E.answer (.bringToFront page) v).2) := by
  rw [work_eq, run_translating, run_bind, h]
  simp only [focus, run_bind, run_change, run_ask]
  rcases E.answer (.bringToFront page) v with ⟨f | u, v'⟩
  · show (if f.ofEngine then _ else _) = ((Except.error (m.blame f), _), v')
    unfold blame
    cases f.ofEngine <;> rfl
  · rfl

end FocusMove

namespace Session

open Rehearsal (Piece Stage)

/-- A move of the focus has failed. Either no page was found, and the session is left as it was; or
the focus has moved to the page that was found, and this page could not be brought to the front. It
is the same for a session that awaits its calls. -/
theorem focus_of_failed (E : Engine Handle World) (m : FocusMove) {s s' : Session Handle}
    {w w' : World} {e : Fault} (h : run E m.work s w = ((.error e, s'), w')) :
    runAsync E m.asyncWork s w = ((.error e, s'), w') ∧
      ((∃ f, run E m.target s w = ((.error f, s), w') ∧ e = m.blame f ∧ s' = s) ∨
        ∃ page v f, run E m.target s w = ((.ok page, s), v) ∧
          E.answer (.bringToFront page) v = (.error f, w') ∧ e = m.blame f ∧
          s' = { s with page := some page }) := by
  refine ⟨?_, ?_⟩
  · rw [runAsync_eq_run_blocked, m.blocked_asyncWork]
    exact h
  obtain ⟨found, v, htarget⟩ : ∃ found v, run E m.target s w = ((found, s), v) :=
    (m.reads_target).exists_run s w
  rcases found with f | page
  · rw [FocusMove.run_work_of_lost htarget] at h
    cases h
    exact .inl ⟨f, htarget, rfl, rfl⟩
  · rw [FocusMove.run_work_of_found htarget] at h
    rcases hfront : E.answer (.bringToFront page) v with ⟨f | u, v'⟩
    · rw [hfront] at h
      cases h
      exact .inr ⟨page, v, f, htarget, hfront, rfl, rfl⟩
    · rw [hfront] at h
      cases h

/-- A session on the second of two pages. -/
abbrev onSecondPage : Session Piece := { context := some (.context 0), page := some (.page 0 1) }

/-- An engine with two open pages that cannot bring any page to the front. -/
abbrev frontless (crash : Fault) : Stage :=
  { answers := [("bring_to_front", ⟨[.error crash]⟩)]
    contexts := [{ opened := 2, pages := [0, 1] }] }

/-- A position without a tab: the session stays where it is, although no page could have been
brought to the front. -/
theorem focus_of_failed_outside :
    let stage := frontless ⟨Fault.engineName, "Target crashed"⟩
    let gone := (Refusal.noTab 5 2).toFault
    let move := FocusMove.switchTab 5
    run Rehearsal.engine move.work onSecondPage stage = ((.error gone, onSecondPage), stage) ∧
      runAsync Rehearsal.engine move.asyncWork onSecondPage stage =
        ((.error gone, onSecondPage), stage) ∧
      ∃ f, run Rehearsal.engine move.target onSecondPage stage =
        ((.error f, onSecondPage), stage) ∧ gone = move.blame f := by
  intro stage gone move
  have hrun : run Rehearsal.engine move.work onSecondPage stage =
      ((.error gone, onSecondPage), stage) := rfl
  obtain ⟨hasync, ⟨f, htarget, hgone, -⟩ | ⟨page, v, f, htarget, -⟩⟩ :=
    focus_of_failed Rehearsal.engine move hrun
  · exact ⟨hrun, hasync, f, htarget, hgone⟩
  · have hlost : run Rehearsal.engine move.target onSecondPage stage =
        ((.error gone, onSecondPage), stage) := rfl
    cases hlost.symm.trans htarget

/-- The tab at the first position is there, but cannot be brought to the front: the switch fails,
and the session is on that tab and no longer on the second one. -/
theorem focus_of_failed_front :
    let crash : Fault := ⟨Fault.engineName, "Target crashed"⟩
    let stage := frontless crash
    let said := (Refusal.engineFailed "Switching to tab 0" "Target crashed").toFault
    let ended := run Rehearsal.engine (FocusMove.switchTab 0).work onSecondPage stage
    ended.1.1 = .error said ∧ ended.1.2.page = some (.page 0 0) ∧
      ended.1.2.page ≠ onSecondPage.page :=
  ⟨rfl, rfl, by decide⟩

end Session

end Walkthrough
