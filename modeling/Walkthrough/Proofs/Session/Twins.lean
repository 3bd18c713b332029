import Walkthrough.Proofs.Session.Work

/-!
# Sessions that await are twins of those that block

`Session.liveAsync_twin` states that the two flavours of a session live alike: whatever the
engine answers and however it fails, and whatever turns a session goes through, they give the same
values and faults, are left with the same page, dialogs and held resources, and make the same calls
with the same arguments in the same order (`Session.record`).

Work that awaits becomes work that blocks when each of its calls is made at once (`Work.blocked`).
Each step of asynchronous work is turned into the step of the same name, and combinators are turned
into themselves, so each method is turned into its twin by rewriting. Where the asynchronous method
looks at the current page once more after a call, the page is still the same one
(`currentPage_again`).
-/

namespace Walkthrough

namespace Session

namespace Work

variable {Handle α β : Type}

/-- The same work, blocking where it awaits. -/
def blocked (work : AsyncWork Handle α) : BlockingWork Handle α :=
  fun s => (work s).mapCalls AsyncCall.call

/-! ## Steps

The rules by which `simp` turns the methods below. Most of them hold by unfolding, so `simp`
rewrites with them and leaves no trace in the proof: leave one out, and the methods with that step
are not turned. -/

@[simp] theorem blocked_pure (a : α) : (pure a : AsyncWork Handle α).blocked = pure a := rfl

@[simp] theorem blocked_fail (f : Fault) : (fail f : AsyncWork Handle α).blocked = fail f := rfl

@[simp] theorem blocked_refuse (r : Refusal) :
    (refuse r : AsyncWork Handle α).blocked = refuse r := rfl

@[simp] theorem blocked_held : (held : AsyncWork Handle (Session Handle)).blocked = held := rfl

@[simp] theorem blocked_change (f : Session Handle → Session Handle) :
    (change f : AsyncWork Handle Unit).blocked = change f := rfl

@[simp] theorem blocked_warn (message : String) :
    (warn message : AsyncWork Handle Unit).blocked = warn message := rfl

@[simp] theorem blocked_await (call : EngineCall Handle β) (deferred) :
    (await call deferred).blocked = ask call := rfl

@[simp] theorem blocked_glance (call : EngineCall Handle β) (immediate) :
    (glance call immediate).blocked = ask call := rfl

@[simp] theorem blocked_expect (r : Except Refusal α) :
    (expect r : AsyncWork Handle α).blocked = expect r := by
  cases r <;> rfl

@[simp] theorem blocked_read (r : Except Fault α) :
    (read r : AsyncWork Handle α).blocked = read r := by
  cases r <;> rfl

@[simp] theorem blocked_withHeld (handle : Option Handle) (call : Handle → AsyncCall Handle Unit) :
    (withHeld handle call).blocked = withHeld handle fun h => (call h).call := by
  cases handle <;> rfl

/-! ## Work that is made of other work -/

/-- Turning goes through `bind`, so a method is turned step by step. -/
@[simp] theorem blocked_bind (work : AsyncWork Handle α) (f : α → AsyncWork Handle β) :
    (work >>= f).blocked = work.blocked >>= fun a => (f a).blocked := by
  funext s
  show Conversation.mapCalls _ ((work s).andThen _) = ((work s).mapCalls _).andThen _
  rw [Conversation.mapCalls_andThen]
  congr 1
  funext p
  obtain ⟨result, s⟩ := p
  cases result <;> rfl

/-- Turning a value that is changed. -/
@[simp] theorem blocked_map (f : α → β) (work : AsyncWork Handle α) :
    (f <$> work).blocked = f <$> work.blocked := by
  rw [← bind_pure_comp, blocked_bind, ← bind_pure_comp]
  rfl

/-- Turning goes into both branches. -/
@[simp] theorem blocked_ite (p : Prop) [Decidable p] (work other : AsyncWork Handle α) :
    (if p then work else other).blocked = if p then work.blocked else other.blocked := by
  split <;> rfl

/-- Turning goes into the code that answers a fault. -/
theorem blocked_catching (work : AsyncWork Handle α) (handle : Fault → AsyncWork Handle α) :
    (work.catching handle).blocked = work.blocked.catching fun f => (handle f).blocked := by
  funext s
  show Conversation.mapCalls _ ((work s).andThen _) = ((work s).mapCalls _).andThen _
  rw [Conversation.mapCalls_andThen]
  congr 1
  funext p
  obtain ⟨result, s⟩ := p
  cases result <;> rfl

/-- A method that says what it was doing says the same in both flavours. -/
@[simp] theorem blocked_translating (action : String) (work : AsyncWork Handle α) :
    (work.translating action).blocked = work.blocked.translating action := by
  simp only [translating, blocked_catching, blocked_ite, blocked_refuse, blocked_fail]

/-- What is done last is done last in both flavours. -/
@[simp] theorem blocked_ensuring (work : AsyncWork Handle α) (last : AsyncWork Handle Unit) :
    (work.ensuring last).blocked = work.blocked.ensuring last.blocked := by
  funext s
  show Conversation.mapCalls _ ((work s).andThen _) = ((work s).mapCalls _).andThen _
  rw [Conversation.mapCalls_andThen]
  congr 1
  funext p
  obtain ⟨result, s⟩ := p
  show Conversation.mapCalls _ ((last s).andThen _) = ((last s).mapCalls _).andThen _
  rw [Conversation.mapCalls_andThen]
  congr 1
  funext p
  obtain ⟨ended, s⟩ := p
  cases ended <;> rfl

/-- Both flavours refuse alike when there is no page. -/
@[simp] theorem blocked_currentPage :
    (currentPage : AsyncWork Handle Handle).blocked = currentPage := by
  unfold currentPage
  rw [blocked_bind]
  congr 1
  funext s
  split <;> rfl

@[simp] theorem blocked_silently (work : AsyncWork Handle Unit) :
    (silently work).blocked = silently work.blocked := by
  simp [silently]

end Work

variable {Handle α β : Type}

open Work

/-! ## From start to stop -/

@[simp] theorem blocked_start : (Async.start : AsyncWork Handle Unit).blocked = start := by
  simp [Async.start, start]

@[simp] theorem blocked_stop : (Async.stop : AsyncWork Handle Unit).blocked = stop := by
  simp [Async.stop, stop, Async.closeContext, closeContext, Async.closeBrowser, closeBrowser]
  rfl

@[simp] theorem blocked_dialogOpens (dialog : Handle) (message : String) :
    (Async.dialogOpens dialog message).blocked = dialogOpens dialog message := by
  simp [Async.dialogOpens, dialogOpens]

/-! ## Pages, tabs and windows -/

/-- The page is the same after a call as before it. -/
theorem currentPage_again (call : Handle → EngineCall Handle α)
    (f : Handle → α → Handle → BlockingWork Handle β) :
    (do
      let page ← currentPage
      let answer ← ask (call page)
      f page answer (← currentPage)) =
    (do
      let page ← currentPage
      let answer ← ask (call page)
      f page answer page) := by
  funext s
  rcases h : s.page with _ | page
  · rw [currentPage_bind_none h, currentPage_bind_none h]
  · rw [currentPage_bind h, currentPage_bind h]
    exact ask_bind_congr fun answer => currentPage_bind h _

@[simp] theorem blocked_focus (page : Handle) : (Async.focus page).blocked = focus page := by
  simp [Async.focus, focus]

@[simp] theorem blocked_setWindowPosition (corner : Point) :
    (Async.setWindowPosition corner : AsyncWork Handle Unit).blocked =
      setWindowPosition corner := by
  simp [Async.setWindowPosition, setWindowPosition, windowBounds, currentPage_again]

@[simp] theorem blocked_maximiseWindow :
    (Async.maximiseWindow : AsyncWork Handle Unit).blocked = maximiseWindow := by
  simp [Async.maximiseWindow, maximiseWindow, currentPage_again]

@[simp] theorem blocked_newTab : (Async.newTab : AsyncWork Handle Unit).blocked = newTab := by
  simp [Async.newTab, newTab]

@[simp] theorem blocked_newWindow :
    (Async.newWindow : AsyncWork Handle Unit).blocked = newWindow := by
  simp [Async.newWindow, newWindow, currentPage_again]

@[simp] theorem blocked_switchTab (position : Int) :
    (Async.switchTab position : AsyncWork Handle Unit).blocked = switchTab position := by
  simp [Async.switchTab, switchTab, pagesBeside]

@[simp] theorem blocked_closeTab [DecidableEq Handle] :
    (Async.closeTab : AsyncWork Handle Unit).blocked = closeTab := by
  -- the page is looked at again between the calls, so the steps are gone through for one session
  funext s
  simp only [Async.closeTab, closeTab, blocked_bind, blocked_currentPage, blocked_glance,
    blocked_translating]
  rcases h : s.page with _ | page
  · rw [currentPage_bind_none h, currentPage_bind_none h]
  rw [currentPage_bind h, currentPage_bind h]
  refine ask_bind_congr fun context => translating_congr (ask_bind_congr fun tabs => ?_)
  rw [currentPage_bind h]
  rcases tabs.idxOf? page with _ | closed
  · rfl
  · simp only [blocked_bind, blocked_currentPage, blocked_await, blocked_glance]
    rw [currentPage_bind h]
    refine ask_bind_congr fun _ => ask_bind_congr fun remaining => ?_
    rcases (Tabs.focusAfterClose closed remaining.length).bind fun n => remaining[n]? with _ | next
    · rfl
    · simp only [blocked_focus]

/-! ## Elements -/

@[simp] theorem blocked_findElements (criterion : Criterion) (within : Option Handle) :
    (Async.findElements criterion within).blocked = findElements criterion within := by
  cases within <;> simp [Async.findElements, findElements]

@[simp] theorem blocked_location (element : Handle) :
    (Async.location element).blocked = location element := by
  simp [Async.location, location]

@[simp] theorem blocked_size (element : Handle) :
    (Async.size element).blocked = size element := by
  simp [Async.size, size]

/-! ## Dialogs -/

@[simp] theorem blocked_alertText : (alertText : AsyncWork Handle String).blocked = alertText := by
  simp [alertText]

@[simp] theorem blocked_acknowledge :
    (acknowledge : AsyncWork Handle String).blocked = acknowledge := by
  simp [acknowledge]

@[simp] theorem blocked_dismissAlert :
    (Async.dismissAlert : AsyncWork Handle Unit).blocked = dismissAlert := by
  simp [Async.dismissAlert, dismissAlert]

/-! ## Commands -/

/-- Each method is the twin of the method with its name, one case per command. -/
theorem blocked_perform [DecidableEq Handle] {β : Type} (c : Command Handle (Datum Handle) β) :
    (Async.perform c).blocked = perform c := by
  -- a method that makes one call is unfolded here
  cases c <;>
    simp [Async.perform, perform, Async.navigate, navigate, Async.currentUrl, currentUrl,
      Async.setWindowSize, setWindowSize, Async.back, back, Async.forward, forward, Async.refresh,
      refresh, Async.executeScript, executeScript, Async.text, text, Async.attributeOf, attributeOf,
      Async.style, style, Async.click, click, Async.sendKeys, sendKeys, Async.clear, clear,
      Async.selectByText, selectByText, Async.selectByValue, selectByValue, Async.selectedOption,
      selectedOption, Async.tagName, tagName, Async.isEnabled, isEnabled, Async.isSelected,
      isSelected, Async.isDisplayed, isDisplayed, Async.elementId, elementId]

end Session

/-! ## Lives -/

universe u

/-- What is put on record of a session: the calls of the engine, and the warnings. -/
inductive Record (Handle : Type) : Type 1 where
  | call {β : Type} (call : EngineCall Handle β)
  | warning (message : String)

/-- The engine, which keeps a record of what it is asked. -/
def Engine.recording {Handle : Type} {World : Type u} (E : Engine Handle World) :
    Engine Handle (List (Record Handle) × World) where
  answer call w := ((E.answer call w.2).1, w.1 ++ [.call call], (E.answer call w.2).2)
  warn message w := (w.1 ++ [.warning message], E.warn message w.2)

namespace Session

variable {Handle α : Type} {World : Type u} [DecidableEq Handle]

/-- What a session does in a turn is turned into what its twin does there. -/
@[simp] theorem blocked_asyncWork (t : Turn Handle) : t.asyncWork.blocked = t.work := by
  cases t with
  | start => simp [Turn.asyncWork, Turn.work]
  | stop => simp [Turn.asyncWork, Turn.work]
  | command c => exact blocked_perform c
  | dialogOpens dialog message => simp [Turn.asyncWork, Turn.work]

omit [DecidableEq Handle] in
/-- Work whose calls are awaited comes to the same end as the work that blocks at them. -/
theorem runAsync_eq_run_blocked (E : Engine Handle World) (work : AsyncWork Handle α) :
    runAsync E work = run E work.blocked := by
  funext s w
  exact Conversation.finish_suspend E (work s) w

/-- What is put on record in the life of a session that blocks at each call. -/
def record (E : Engine Handle World) (turns : List (Turn Handle)) (s : Session Handle) (w : World) :
    List (Record Handle) :=
  (live E.recording turns s ([], w)).2.2.1

/-- What is put on record in the life of a session that awaits its calls. -/
def recordAsync (E : Engine Handle World) (turns : List (Turn Handle)) (s : Session Handle)
    (w : World) : List (Record Handle) :=
  (liveAsync E.recording turns s ([], w)).2.2.1

omit [DecidableEq Handle] in
/-- Code that is recorded comes to the same result in the same world, and what is on record only
grows. -/
theorem block_recording {ρ : Type} (E : Engine Handle World)
    (c : Conversation (EngineCall Handle) ρ) (entries : List (Record Handle)) (w : World) :
    ∃ later, c.block E.recording (entries, w) =
      ((c.block E w).1, entries ++ later, (c.block E w).2) := by
  induction c generalizing entries w with
  | done r => exact ⟨[], by simp [Conversation.block]⟩
  | ask call next ih =>
    obtain ⟨later, h⟩ := ih (E.answer call w).1 (entries ++ [.call call]) (E.answer call w).2
    exact ⟨.call call :: later, h.trans (by simp [Conversation.block])⟩
  | warn message next ih =>
    obtain ⟨later, h⟩ := ih (entries ++ [.warning message]) (E.warn message w)
    exact ⟨.warning message :: later, h.trans (by simp [Conversation.block])⟩

/-- Keeping a record does not change what is recorded. -/
theorem live_recording (E : Engine Handle World) (turns : List (Turn Handle)) (s : Session Handle)
    (entries : List (Record Handle)) (w : World) :
    ∃ later, live E.recording turns s (entries, w) =
      ((live E turns s w).1, (live E turns s w).2.1, entries ++ later, (live E turns s w).2.2) := by
  induction turns generalizing s entries w with
  | nil => exact ⟨[], by simp [live, following]⟩
  | cons t ts ih =>
    obtain ⟨first, hfirst⟩ : ∃ first, run E.recording t.work s (entries, w) =
        ((run E t.work s w).1, entries ++ first, (run E t.work s w).2) :=
      block_recording E (t.work s) entries w
    obtain ⟨later, hlater⟩ :=
      ih (run E t.work s w).1.2 (entries ++ first) (run E t.work s w).2
    refine ⟨first ++ later, ?_⟩
    simp only [live, following] at hlater ⊢
    rw [hfirst]
    simp only [hlater, List.append_assoc]

/-- The lives of the two flavours are one function, by induction on the turns. -/
theorem liveAsync_eq (E : Engine Handle World) : liveAsync E = live E := by
  have hturn : (fun t : Turn Handle => runAsync E t.asyncWork) = fun t => run E t.work := by
    funext t
    rw [runAsync_eq_run_blocked, blocked_asyncWork]
  unfold liveAsync live
  rw [hturn]

/-- The two flavours of a session give the same answers, are left alike in the same world, and make
the same calls. -/
theorem liveAsync_twin (E : Engine Handle World) (turns : List (Turn Handle)) (s : Session Handle)
    (w : World) :
    liveAsync E turns s w = live E turns s w ∧
      recordAsync E turns s w = record E turns s w := by
  refine ⟨by rw [liveAsync_eq], ?_⟩
  unfold recordAsync record
  rw [liveAsync_eq]

end Session

end Walkthrough
