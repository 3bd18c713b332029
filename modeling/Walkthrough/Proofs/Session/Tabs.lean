import Walkthrough.Proofs.Session.Row
import Walkthrough.Proofs.Session.Work
import Walkthrough.Rehearsal.Engine

/-!
# The tabs of a session are a row with a cursor

`Session.tabs_refine_row` states that a session that was started behaves like a `Row`: whatever
is done to its tabs, each operation answers what the row answers, the open pages are the tabs of the
row, and the page that has the focus is the one at the cursor.

The session itself holds a page and no position. What carries the proof is `Session.Mirrors`: the
engine shows the tabs of the row, and the session holds the tab at the cursor. Each operation keeps
it (`Mirrors.step`), and so does a run.

Of the engine it is asked only that its calls succeed, that it lists the open pages in the order in
which they were opened, that a page it opens is a new one at the end, and that closing a page takes
that page away (`Engine.KeepsTabs`).
-/

namespace Walkthrough

universe u

variable {Handle : Type} {World : Type u} [DecidableEq Handle]

/-- An engine whose calls succeed and that keeps its open pages in order. In a world that is `ready`
a browser can be launched; `shows context w tabs` states which pages of a context are open. -/
structure Engine.KeepsTabs (E : Engine Handle World) (ready : World → Prop)
    (shows : Handle → World → List Handle → Prop) : Prop where
  start : ∀ w, ready w → ∃ driver w', E.answer .start w = (.ok driver, w') ∧ ready w'
  launch : ∀ w driver engine options, ready w →
    ∃ browser w', E.answer (.launch driver engine options) w = (.ok browser, w') ∧ ready w'
  newContext : ∀ w browser viewport, ready w →
    ∃ context w', E.answer (.newContext browser viewport) w = (.ok context, w') ∧
      shows context w' []
  watchPages : ∀ context w tabs, shows context w tabs →
    ∃ w', E.answer (.watchPages context) w = (.ok (), w') ∧ shows context w' tabs
  newPage : ∀ context w tabs, shows context w tabs →
    ∃ page w', E.answer (.newPage context) w = (.ok page, w') ∧ page ∉ tabs ∧
      shows context w' (tabs ++ [page])
  contextOf : ∀ context w tabs, shows context w tabs → ∀ page ∈ tabs,
    ∃ w', E.answer (.contextOf page) w = (.ok context, w') ∧ shows context w' tabs
  pages : ∀ context w tabs, shows context w tabs →
    ∃ w', E.answer (.pages context) w = (.ok tabs, w') ∧ shows context w' tabs
  bringToFront : ∀ context w tabs, shows context w tabs → ∀ page ∈ tabs,
    ∃ w', E.answer (.bringToFront page) w = (.ok (), w') ∧ shows context w' tabs
  closePage : ∀ context w tabs, shows context w tabs → ∀ page ∈ tabs,
    ∃ w', E.answer (.closePage page) w = (.ok (), w') ∧ shows context w' (tabs.erase page)
  /-- The script that opens a window opens a page. -/
  popup : ∀ context w tabs, shows context w tabs → ∀ page ∈ tabs,
    ∃ w₁ answer w₂ window w₃, E.answer (.expectPopup page) w = (.ok (), w₁) ∧
      E.answer (.evaluate page Session.popupScript none) w₁ = (.ok answer, w₂) ∧
      E.answer (.popup page) w₂ = (.ok window, w₃) ∧ window ∉ tabs ∧
      shows context w₃ (tabs ++ [window])

/-! ## The scripted engine -/

namespace Rehearsal.Stage

/-- The script is at its end. -/
def Silent (stage : Stage) : Prop := stage.answers = []

/-- A context has these open pages; their numbers have been given away. -/
def Shows (context : Piece) (stage : Stage) (tabs : List Piece) : Prop :=
  stage.Silent ∧ ∃ n c, context = .context n ∧ stage.contexts[n]? = some c ∧
    tabs = c.pages.map (Piece.page n) ∧ ∀ p ∈ c.pages, p < c.opened

variable {stage : Stage}

/-- At the end of the script every call is answered with nothing, and put on record. -/
theorem respond_silent (h : stage.Silent) {α β : Type} (call : EngineCall Piece β)
    (next : Datum Piece → Stage → Except Fault α × Stage) :
    stage.respond call next = next .null (stage.note (.call call)) := by
  have htake : (stage.note (.call call)).take (callWord call) =
      (.ok .null, stage.note (.call call)) := by
    unfold take
    rw [show (stage.note (.call call)).answers = [] from h]
    rfl
  unfold respond
  rw [htake]

/-- Putting something on record opens and closes no page. -/
theorem Shows.note {context : Piece} {tabs : List Piece} (h : Shows context stage tabs)
    (n : Noted) : Shows context (stage.note n) tabs := h

/-- A change of one context that keeps its open pages. -/
theorem Shows.modify {n : Nat} {tabs : List Piece} (h : Shows (.context n) stage tabs)
    (f : PageContext → PageContext) {tabs' : List Piece}
    (hf : ∀ c, stage.contexts[n]? = some c → tabs = c.pages.map (Piece.page n) →
      (∀ p ∈ c.pages, p < c.opened) →
      tabs' = (f c).pages.map (Piece.page n) ∧ ∀ p ∈ (f c).pages, p < (f c).opened) :
    Shows (.context n) { stage with contexts := stage.contexts.modify n f } tabs' := by
  obtain ⟨hsilent, m, c, hcontext, hc, htabs, hnumbers⟩ := h
  cases hcontext
  obtain ⟨htabs', hnumbers'⟩ := hf c hc htabs hnumbers
  exact ⟨hsilent, n, f c, rfl, by simp [hc], htabs', hnumbers'⟩

/-- A page that is opened is a new one, and comes last. -/
theorem Shows.openPage {n : Nat} {tabs : List Piece} (h : Shows (.context n) stage tabs) :
    ∃ page stage', stage.openPage n = (.ok page, stage') ∧ page ∉ tabs ∧
      Shows (.context n) stage' (tabs ++ [page]) := by
  obtain ⟨-, m, c, hcontext, hc, htabs, hnumbers⟩ := id h
  cases hcontext
  have hopen : stage.openPage n = (.ok (.page n c.opened), (stage.openPage n).2) := by
    simp [Stage.openPage, hc]
  refine ⟨_, _, hopen, ?_, ?_⟩
  · -- the number of the page has not been given away
    rw [htabs]
    intro hmem
    obtain ⟨p, hp, heq⟩ := List.mem_map.mp hmem
    cases heq
    exact absurd (hnumbers _ hp) (Nat.lt_irrefl _)
  · have hshown : Shows (.context n)
        { stage with contexts := stage.contexts.modify n fun c =>
          { c with opened := c.opened + 1, pages := c.pages ++ [c.opened] } }
        (tabs ++ [.page n c.opened]) := by
      refine h.modify _ fun c' hc' htabs' hnumbers' => ?_
      cases hc.symm.trans hc'
      refine ⟨by simp [htabs'], fun p hp => ?_⟩
      rcases List.mem_append.mp hp with hp | hp
      · exact Nat.lt_succ_of_lt (hnumbers' p hp)
      · rw [List.mem_singleton.mp hp]
        exact Nat.lt_succ_self _
    unfold Stage.openPage
    rw [hc]
    dsimp only [Option.getD_some]
    split
    · exact hshown.note _
    · exact hshown

/-- A page that is closed is gone, and the others keep their order. -/
theorem Shows.closePage {n : Nat} {tabs : List Piece} (h : Shows (.context n) stage tabs)
    {page : Piece} (mem : page ∈ tabs) :
    Shows (.context n) (stage.closePage page) (tabs.erase page) := by
  obtain ⟨-, m, c, hcontext, hc, htabs, -⟩ := id h
  cases hcontext
  obtain ⟨p, -, rfl⟩ := List.mem_map.mp (htabs ▸ mem)
  refine h.modify _ fun c' _ htabs' hnumbers' => ⟨?_, fun q hq => ?_⟩
  · have hinjective : Function.Injective (Piece.page n) := fun a b hab => by
      cases hab
      rfl
    rw [htabs', List.map_erase hinjective]
  · exact hnumbers' q (List.mem_of_mem_erase hq)

end Rehearsal.Stage

open Rehearsal in
/-- A scripted engine whose script is at its end keeps its open pages in order. -/
theorem Rehearsal.engine_keepsTabs : engine.KeepsTabs Stage.Silent Stage.Shows where
  start := fun w hw => ⟨_, _, Stage.respond_silent hw _ _, hw⟩
  launch := fun w _ _ _ hw => ⟨_, _, Stage.respond_silent hw _ _, hw⟩
  newContext := fun w _ _ hw =>
    ⟨_, _, Stage.respond_silent hw _ _, hw, w.contexts.length, {}, rfl,
      List.getElem?_concat_length, rfl, fun p hp => nomatch hp⟩
  watchPages := fun context w tabs h => by
    obtain ⟨n, c, rfl, -⟩ := h.2
    exact ⟨_, rfl, (h.note _).modify _ fun c' _ htabs hnumbers => ⟨htabs, hnumbers⟩⟩
  newPage := fun context w tabs h => by
    obtain ⟨n, c, rfl, -⟩ := h.2
    obtain ⟨page, w', hopen, unused, shown⟩ := (h.note (.call (.newPage (.context n)))).openPage
    exact ⟨page, w', (Stage.respond_silent h.1 _ _).trans hopen, unused, shown⟩
  contextOf := fun context w tabs h page mem => by
    obtain ⟨n, c, rfl, -, rfl, -⟩ := h.2
    obtain ⟨p, -, rfl⟩ := List.mem_map.mp mem
    exact ⟨w, rfl, h⟩
  pages := fun context w tabs h => by
    obtain ⟨n, c, rfl, hc, rfl, -⟩ := h.2
    refine ⟨w, ?_, h⟩
    show (Except.ok (w.pagesOf n), w) = _
    simp [Stage.pagesOf, hc]
  bringToFront := fun context w tabs h page mem => ⟨_, Stage.respond_silent h.1 _ _, h.note _⟩
  closePage := fun context w tabs h page mem => by
    obtain ⟨n, c, rfl, -⟩ := h.2
    exact ⟨_, Stage.respond_silent h.1 _ _, (h.note _).closePage mem⟩
  popup := fun context w tabs h page mem => by
    obtain ⟨n, c, rfl, -, htabs, -⟩ := h.2
    obtain ⟨p, -, rfl⟩ := List.mem_map.mp (htabs ▸ mem)
    have shown := (h.note (.call (.expectPopup (.page n p)))).note
      (.call (.evaluate (.page n p) Session.popupScript none))
    obtain ⟨window, w', hopen, unused, shown'⟩ := shown.openPage
    exact ⟨_, _, _, window, w', Stage.respond_silent h.1 _ _,
      Stage.respond_silent (h.note _).1 _ _, hopen, unused, shown'⟩

/-! ## Sessions -/

/-- What a session does to its tabs. -/
def TabOperation.work : TabOperation → Session.BlockingWork Handle Unit
  | newTab => Session.newTab
  | newWindow => Session.newWindow
  | switchTab position => Session.switchTab position
  | closeTab => Session.closeTab

namespace Session

open Work

/-- The engine shows the tabs of a row, and the session holds the tab at the cursor. -/
structure Mirrors (shows : Handle → World → List Handle → Prop) (context : Handle) (r : Row Handle)
    (s : Session Handle) (w : World) : Prop where
  shown : shows context w r.tabs
  focus : s.page = r.current
  sound : r.Sound

/-- Some work gives an answer and has the session mirror a row; nothing that the session holds is
changed but the page. -/
def Leaves (E : Engine Handle World) (shows : Handle → World → List Handle → Prop)
    (context : Handle) (work : BlockingWork Handle Unit) (s : Session Handle) (w : World)
    (answer : Except Refusal Unit) (r : Row Handle) : Prop :=
  ∃ w', run E work s w =
      ((answer.mapError Refusal.toFault, { s with page := r.current }), w') ∧
    shows context w' r.tabs

variable {E : Engine Handle World} {ready : World → Prop}
  {shows : Handle → World → List Handle → Prop} {context : Handle} {r : Row Handle}
  {s : Session Handle} {w : World}

/-! ## Operations -/

/-- Moving the focus to a page of the context goes well and opens or closes nothing. -/
theorem run_focus (keeps : E.KeepsTabs ready shows) {page : Handle} {tabs : List Handle}
    (shown : shows context w tabs) (mem : page ∈ tabs) :
    ∃ w', run E (focus page) s w = ((.ok (), { s with page := some page }), w') ∧
      shows context w' tabs := by
  obtain ⟨w', hfront, shown'⟩ := keeps.bringToFront context w tabs shown page mem
  exact ⟨w', by simp [focus, hfront], shown'⟩

namespace Mirrors

omit [DecidableEq Handle] in
/-- A session that mirrors a row with tabs holds one of them. -/
theorem exists_page (h : Mirrors shows context r s w) (nonempty : r.tabs ≠ []) :
    ∃ page, s.page = some page ∧ r.current = some page ∧ page ∈ r.tabs := by
  rcases hcurrent : r.current with _ | page
  · exact absurd (h.sound.current_eq_none_iff.mp hcurrent) nonempty
  · exact ⟨page, h.focus.trans hcurrent, rfl, List.mem_of_getElem? hcurrent⟩

/-- The tabs of the row are the pages that the session sees beside its own. -/
theorem run_pagesBeside (keeps : E.KeepsTabs ready shows) (h : Mirrors shows context r s w)
    {page : Handle} (mem : page ∈ r.tabs) :
    ∃ w', run E (pagesBeside page) s w = ((.ok r.tabs, s), w') ∧ shows context w' r.tabs := by
  obtain ⟨w₁, hcontext, shown₁⟩ := keeps.contextOf context w r.tabs h.shown page mem
  obtain ⟨w₂, hpages, shown₂⟩ := keeps.pages context w₁ r.tabs shown₁
  exact ⟨w₂, by simp [pagesBeside, hcontext, hpages], shown₂⟩

/-- Without a tab every operation is refused, and nothing changes. -/
theorem noTabs (h : Mirrors shows context r s w) (empty : r.tabs = []) (op : TabOperation) :
    Leaves E shows context op.work s w (.error .notStarted) r := by
  have hpage : s.page = none := h.focus.trans (h.sound.current_eq_none_iff.mpr empty)
  have hs : { s with page := r.current } = s := by rw [← h.focus]
  refine ⟨w, ?_, h.shown⟩
  rw [hs]
  cases op <;>
    simp [TabOperation.work, Session.newTab, Session.newWindow, Session.switchTab,
      Session.closeTab, run_currentPage_none hpage, Except.mapError]

/-- A tab that is opened comes last and gets the focus. -/
theorem newTab (keeps : E.KeepsTabs ready shows) (h : Mirrors shows context r s w)
    (nonempty : r.tabs ≠ []) :
    ∃ tab ∉ r.tabs, Leaves E shows context Session.newTab s w (.ok ()) (r.push tab) := by
  obtain ⟨page, hpage, -, mem⟩ := h.exists_page nonempty
  obtain ⟨w₁, hcontext, shown₁⟩ := keeps.contextOf context w r.tabs h.shown page mem
  obtain ⟨tab, w₂, hnew, unused, shown₂⟩ := keeps.newPage context w₁ r.tabs shown₁
  obtain ⟨w₃, hfocus, shown₃⟩ := run_focus (s := s) keeps shown₂ List.mem_concat_self
  refine ⟨tab, unused, w₃, ?_, shown₃⟩
  rw [Row.current_push]
  simp [Session.newTab, run_currentPage hpage, hcontext, hnew, hfocus, Except.mapError]

/-- So does a window. -/
theorem newWindow (keeps : E.KeepsTabs ready shows) (h : Mirrors shows context r s w)
    (nonempty : r.tabs ≠ []) :
    ∃ tab ∉ r.tabs, Leaves E shows context Session.newWindow s w (.ok ()) (r.push tab) := by
  obtain ⟨page, hpage, -, mem⟩ := h.exists_page nonempty
  obtain ⟨w₁, answer, w₂, window, w₃, hexpect, hscript, hpopup, unused, shown₃⟩ :=
    keeps.popup context w r.tabs h.shown page mem
  obtain ⟨w₄, hfocus, shown₄⟩ := run_focus (s := s) keeps shown₃ List.mem_concat_self
  refine ⟨window, unused, w₄, ?_, shown₄⟩
  rw [Row.current_push]
  simp [Session.newWindow, run_currentPage hpage, hexpect, hscript, hpopup, hfocus,
    Except.mapError]

/-- A position that is there gets the focus. -/
theorem switchTab (keeps : E.KeepsTabs ready shows) (h : Mirrors shows context r s w)
    (nonempty : r.tabs ≠ []) {position : Int} (low : 0 ≤ position)
    (high : position < r.tabs.length) :
    Leaves E shows context (Session.switchTab position) s w (.ok ())
      { r with cursor := position.toNat } := by
  obtain ⟨page, hpage, -, mem⟩ := h.exists_page nonempty
  obtain ⟨w₁, hpages, shown₁⟩ := h.run_pagesBeside keeps mem
  have hlt : position.toNat < r.tabs.length := (Int.toNat_lt low).mpr high
  have htab : Tabs.tabAt r.tabs position = .ok r.tabs[position.toNat] := by
    simp [Tabs.tabAt, Int.not_lt.mpr low, hlt]
  obtain ⟨w₂, hfocus, shown₂⟩ := run_focus (s := s) keeps shown₁ (List.getElem_mem hlt)
  refine ⟨w₂, ?_, shown₂⟩
  simp [Session.switchTab, run_currentPage hpage, hpages, htab, expect, hfocus, Except.mapError,
    Row.current, hlt]

/-- A position that is not there is refused. -/
theorem noTab (keeps : E.KeepsTabs ready shows) (h : Mirrors shows context r s w)
    (nonempty : r.tabs ≠ []) {position : Int}
    (outside : ¬ (0 ≤ position ∧ position < r.tabs.length)) :
    Leaves E shows context (Session.switchTab position) s w
      (.error (.noTab position r.tabs.length)) r := by
  obtain ⟨page, hpage, -, mem⟩ := h.exists_page nonempty
  obtain ⟨w₁, hpages, shown₁⟩ := h.run_pagesBeside keeps mem
  have htab : Tabs.tabAt r.tabs position = .error (.noTab position r.tabs.length) := by
    unfold Tabs.tabAt
    by_cases hlow : position < 0
    · simp [hlow]
    · have hhigh : r.tabs.length ≤ position.toNat := by omega
      simp [hlow, hhigh]
  have hs : { s with page := r.current } = s := by rw [← h.focus]
  refine ⟨w₁, ?_, shown₁⟩
  rw [hs]
  simp [Session.switchTab, run_currentPage hpage, hpages, htab, expect, Except.mapError]

/-- The tab that has the focus is closed, and the one before it gets the focus. -/
theorem closeTab (keeps : E.KeepsTabs ready shows) (h : Mirrors shows context r s w)
    (nonempty : r.tabs ≠ []) :
    Leaves E shows context Session.closeTab s w (.ok ()) r.close := by
  obtain ⟨page, hpage, hcurrent, mem⟩ := h.exists_page nonempty
  obtain ⟨w₁, hcontext, shown₁⟩ := keeps.contextOf context w r.tabs h.shown page mem
  obtain ⟨w₂, hpages, shown₂⟩ := keeps.pages context w₁ r.tabs shown₁
  obtain ⟨w₃, hclose, shown₃⟩ := keeps.closePage context w₂ r.tabs shown₂ page mem
  -- the tab is looked for before it is closed, and its place counts afterwards
  rw [h.sound.erase_current hcurrent] at shown₃
  obtain ⟨w₄, hremaining, shown₄⟩ := keeps.pages context w₃ r.close.tabs shown₃
  have hclosed : r.tabs.idxOf? page = some r.cursor := h.sound.idxOf?_current hcurrent
  have hnext := h.sound.focusAfterClose nonempty
  rcases hafter : r.close.current with _ | next
  · -- the last tab is gone
    rw [hafter] at hnext
    refine ⟨w₄, ?_, shown₄⟩
    simp [Session.closeTab, run_currentPage hpage, hcontext, hpages, hclosed, hclose, hremaining,
      hnext, hafter, Except.mapError]
  · rw [hafter] at hnext
    obtain ⟨w₅, hfocus, shown₅⟩ :=
      run_focus (s := s) keeps shown₄ (List.mem_of_getElem? hafter)
    refine ⟨w₅, ?_, shown₅⟩
    simp [Session.closeTab, run_currentPage hpage, hcontext, hpages, hclosed, hclose, hremaining,
      hnext, hafter, hfocus, Except.mapError]

/-- Each operation does to the session what it does to the row. -/
theorem step (keeps : E.KeepsTabs ready shows) (h : Mirrors shows context r s w)
    (op : TabOperation) :
    ∃ answer r', Row.Step r op answer r' ∧ Leaves E shows context op.work s w answer r' := by
  by_cases empty : r.tabs = []
  · exact ⟨_, _, .noTabs empty, h.noTabs empty op⟩
  cases op with
  | newTab =>
    obtain ⟨tab, unused, hleaves⟩ := h.newTab keeps empty
    exact ⟨_, _, .newTab empty unused, hleaves⟩
  | newWindow =>
    obtain ⟨tab, unused, hleaves⟩ := h.newWindow keeps empty
    exact ⟨_, _, .newWindow empty unused, hleaves⟩
  | switchTab position =>
    by_cases inside : 0 ≤ position ∧ position < r.tabs.length
    · exact ⟨_, _, .switchTab empty inside.1 inside.2, h.switchTab keeps empty inside.1 inside.2⟩
    · exact ⟨_, _, .noTab empty inside, h.noTab keeps empty inside⟩
  | closeTab => exact ⟨_, _, .closeTab empty, h.closeTab keeps empty⟩

/-- Several operations do to the session what they do to the row. -/
theorem steps (keeps : E.KeepsTabs ready shows) (h : Mirrors shows context r s w)
    (ops : List TabOperation) :
    ∃ answers r' w', Row.Steps r ops answers r' ∧
      following (fun op : TabOperation => run E op.work) ops s w =
        (answers.map (Except.mapError Refusal.toFault), { s with page := r'.current }, w') ∧
      shows context w' r'.tabs ∧ r'.Sound := by
  -- after each operation the session holds the tab at the cursor, and nothing else has changed
  induction ops generalizing r s w with
  | nil => exact ⟨[], r, w, .done r, by simp [following, ← h.focus], h.shown, h.sound⟩
  | cons op ops ih =>
    obtain ⟨answer, r₁, hstep, w₁, hrun, shown₁⟩ := h.step keeps op
    obtain ⟨answers, r₂, w₂, hsteps, hrest, shown₂, sound₂⟩ :=
      ih (s := { s with page := r₁.current }) ⟨shown₁, rfl, hstep.sound h.sound⟩
    refine ⟨answer :: answers, r₂, w₂, .step hstep hsteps, ?_, shown₂, sound₂⟩
    simp only [following, hrun, hrest, List.map_cons]

end Mirrors

/-! ## From the start -/

/-- A session that is started has one tab. -/
theorem run_start (keeps : E.KeepsTabs ready shows) (hw : ready w) :
    ∃ context page s' w', run E start s w = ((.ok (), s'), w') ∧
      s'.context = some context ∧ Mirrors shows context ⟨[page], 0⟩ s' w' := by
  obtain ⟨driver, w₁, hstart, ready₁⟩ := keeps.start w hw
  obtain ⟨browser, w₂, hlaunch, ready₂⟩ :=
    keeps.launch w₁ driver s.config.engine s.config.launchOptions ready₁
  obtain ⟨context, w₃, hcontext, shown₃⟩ :=
    keeps.newContext w₂ browser ⟨s.config.viewportWidth, s.config.viewportHeight⟩ ready₂
  obtain ⟨w₄, hwatch, shown₄⟩ := keeps.watchPages context w₃ [] shown₃
  obtain ⟨page, w₅, hpage, -, shown₅⟩ := keeps.newPage context w₄ [] shown₄
  refine ⟨context, page, { s with
    driver := some driver, browser := some browser, context := some context, page := some page },
    w₅, ?_, rfl, shown₅, rfl, ⟨List.nodup_singleton page, fun _ => Nat.zero_lt_one⟩⟩
  simp [start, hstart, hlaunch, hcontext, hwatch, hpage]

/-- A session that is started behaves like a row of tabs with a cursor, whatever is done to its
tabs. -/
theorem tabs_refine_row (keeps : E.KeepsTabs ready shows) (hw : ready w) (ops : List TabOperation) :
    ∃ context page s₀ w₀, run E start s w = ((.ok (), s₀), w₀) ∧
      ∃ answers r w', Row.Steps ⟨[page], 0⟩ ops answers r ∧
        following (fun op : TabOperation => run E op.work) ops s₀ w₀ =
          (answers.map (Except.mapError Refusal.toFault), { s₀ with page := r.current }, w') ∧
        shows context w' r.tabs ∧ (r.current = none ↔ r.tabs = []) := by
  obtain ⟨context, page, s₀, w₀, hstart, -, hmirrors⟩ := run_start (s := s) keeps hw
  obtain ⟨answers, r, w', hsteps, hrun, shown, sound⟩ := hmirrors.steps keeps ops
  exact ⟨context, page, s₀, w₀, hstart, answers, r, w', hsteps, hrun, shown,
    sound.current_eq_none_iff⟩

/-- A tab is opened, and the tabs are closed until none is left. -/
theorem tabs_refine_row_silent :
    ∃ context page s₀ w₀, run Rehearsal.engine start {} {} = ((.ok (), s₀), w₀) ∧
      ∃ answers r w',
        Row.Steps ⟨[page], 0⟩ [.newTab, .switchTab 0, .switchTab 2, .closeTab, .closeTab, .newTab]
          answers r ∧
        following (fun op : TabOperation => run Rehearsal.engine op.work)
          [.newTab, .switchTab 0, .switchTab 2, .closeTab, .closeTab, .newTab] s₀ w₀ =
            (answers.map (Except.mapError Refusal.toFault), { s₀ with page := r.current }, w') ∧
        Rehearsal.Stage.Shows context w' r.tabs ∧ (r.current = none ↔ r.tabs = []) :=
  tabs_refine_row Rehearsal.engine_keepsTabs (show Rehearsal.Stage.Silent {} from rfl) _

end Session

end Walkthrough
