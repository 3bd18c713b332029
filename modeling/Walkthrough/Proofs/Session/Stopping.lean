import Walkthrough.Proofs.Session.Focus

/-!
# Sessions that are stopped

A session that is stopped, or asked to quit, gives back what it holds: its context, its browser and
the driver of the engine, one after the other (`Session.Part`). `Session.run_stop` says all that
comes of it, for every engine and whatever its calls give.

Two things depend on the calls. The driver is given back only if the browser could be closed, and
the session lets go of what it held only if every call went well; otherwise it still holds all of
it, and the next stop begins anew. `Session.stop_gives_back` states this for a stop at any moment of
any life; `Session.stop_gives_back_crashed` is a stop after which the driver is still running and
the session still has a page.

A session that has let go of everything is `Vacant`, and stays so until it is started again:
whatever it is asked for needs a page, or goes straight to an element, or is about its dialogs.
-/

namespace Walkthrough.Session

open Work

universe u

variable {Handle α β : Type} {World : Type u}

/-! ## Work that only reads -/

section Reading

variable {E : Engine Handle World}

namespace Reads

/-- Giving a value reads nothing, and so it changes nothing. -/
theorem pure (a : α) : Reads E (pure a) := fun _ _ => rfl

/-- Reading an answer that is there already makes no call. -/
theorem read (r : Except Fault α) : Reads E (read r) := by
  cases r <;> exact fun _ _ => rfl

/-- Saying what the session was doing does not change what is done. -/
theorem translating {work : BlockingWork Handle α} (h : Reads E work) (action : String) :
    Reads E (work.translating action) := by
  intro s w
  obtain ⟨r, v, hrun⟩ := h.exists_run s w
  rw [run_translating, hrun]
  cases r with
  | ok a => rfl
  | error e => dsimp only; split <;> rfl

/-- Of two kinds of work that only read, either may be chosen. -/
theorem ite {work other : BlockingWork Handle α} (p : Prop) [Decidable p] (hwork : Reads E work)
    (hother : Reads E other) : Reads E (if p then work else other) := by
  split
  · exact hwork
  · exact hother

end Reads

end Reading

/-! ## What is given back -/

/-- What a session opens and has to give back. -/
inductive Part where
  | context
  | browser
  | driver
  deriving DecidableEq, Repr

/-- What the session holds of a part. -/
def part (s : Session Handle) : Part → Option Handle
  | .context => s.context
  | .browser => s.browser
  | .driver => s.driver

/-- The call that gives a part back. -/
def Part.closing : Part → Handle → EngineCall Handle Unit
  | context => .closeContext
  | browser => .closeBrowser
  | driver => .stopDriver

/-- What comes of giving a part back; nothing does when the session does not hold it. -/
def giveBack (E : Engine Handle World) (s : Session Handle) (p : Part) (w : World) :
    Except Fault Unit × World :=
  match s.part p with
  | none => (.ok (), w)
  | some h => E.answer (p.closing h) w

/-- What comes of giving several parts back, one after the other. -/
def giveAllBack (E : Engine Handle World) (s : Session Handle) :
    List Part → World → List (Except Fault Unit) × World
  | [], w => ([], w)
  | p :: ps, w =>
    let (result, w) := giveBack E s p w
    let (results, w) := giveAllBack E s ps w
    (result :: results, w)

/-- The call that gives back what the session holds of a part, if it holds it. -/
def closings (s : Session Handle) (p : Part) : List (Record Handle) :=
  (s.part p).toList.map fun h => .call (p.closing h)

/-- The last fault of several calls, if there is one. -/
def lastFault : List (Except Fault Unit) → Except Fault Unit
  | [] => .ok ()
  | result :: results =>
    match lastFault results with
    | .ok () => result
    | .error e => .error e

/-- The parts that a session gives back when it is stopped: all of them, unless the browser cannot
be closed. -/
def partsTried (E : Engine Handle World) (s : Session Handle) (w : World) : List Part :=
  match (giveBack E s .browser (giveBack E s .context w).2).1 with
  | .ok () => [.context, .browser, .driver]
  | .error _ => [.context, .browser]

/-- What the session holds when that has come of giving its parts back: nothing when all went well,
and all of them otherwise. -/
def keptAfter (result : Except Fault Unit) (s : Session Handle) : Session Handle :=
  match result with
  | .ok () => s.release
  | .error _ => s

/-! ## Stopping -/

variable {E : Engine Handle World} {s : Session Handle} {w : World}

/-- The last thing is done from the session and the world that the work left, and its fault is the
one that is seen. -/
@[simp] theorem run_ensuring (work : BlockingWork Handle α) (last : BlockingWork Handle Unit) :
    run E (work.ensuring last) s w =
      match run E work s w with
      | ((result, s), w) =>
        match run E last s w with
        | ((.ok (), s), w) => ((result, s), w)
        | ((.error e, s), w) => ((.error e, s), w) := by
  refine (Conversation.block_andThen E (work s) _ w).trans ?_
  unfold run
  obtain ⟨⟨result, s⟩, w⟩ := (work s).block E w
  refine (Conversation.block_andThen E (last s) _ w).trans ?_
  dsimp only
  obtain ⟨⟨ended, s⟩, w⟩ := (last s).block E w
  cases ended <;> rfl

/-- Giving a part back changes nothing that the session holds. -/
theorem run_withHeld (p : Part) :
    run E (withHeld (s.part p) p.closing) s w =
      (((giveBack E s p w).1, s), (giveBack E s p w).2) := by
  unfold giveBack
  cases s.part p <;> rfl

/-- Closing the context is giving one part back. -/
theorem run_closeContext :
    run E closeContext s w = (((giveBack E s .context w).1, s), (giveBack E s .context w).2) := by
  unfold closeContext
  rw [run_bind, run_held]
  exact run_withHeld .context

/-- The driver is given back only after the browser has been. -/
theorem run_closeBrowser :
    run E closeBrowser s w =
      match giveBack E s .browser w with
      | (.ok (), w) => (((giveBack E s .driver w).1, s), (giveBack E s .driver w).2)
      | (.error e, w) => ((.error e, s), w) := by
  have hbrowser : run E (withHeld s.browser .closeBrowser) s w = _ := run_withHeld .browser
  have hdriver (w : World) : run E (withHeld s.driver .stopDriver) s w = _ := run_withHeld .driver
  simp only [closeBrowser, run_bind, run_held, hbrowser]
  rcases giveBack E s .browser w with ⟨e | u, v⟩
  · rfl
  · exact hdriver v

/-- Stopping gives the parts back and lets go of what the session holds if all of that went well. -/
theorem run_stop :
    run E stop s w =
      ((lastFault (giveAllBack E s (partsTried E s w) w).1,
          keptAfter (lastFault (giveAllBack E s (partsTried E s w) w).1) s),
        (giveAllBack E s (partsTried E s w) w).2) := by
  simp only [stop, run_bind, run_ensuring, run_closeContext, run_closeBrowser, run_change,
    partsTried]
  rcases hcontext : giveBack E s .context w with ⟨c, w₁⟩
  rcases hbrowser : giveBack E s .browser w₁ with ⟨e | u, w₂⟩
  · -- the driver is not reached
    simp only [giveAllBack, hcontext, hbrowser, lastFault, keptAfter]
  · rcases hdriver : giveBack E s .driver w₂ with ⟨e | u, w₃⟩
    · simp only [giveAllBack, hcontext, hbrowser, hdriver, lastFault, keptAfter]
    · rcases c with e | u <;>
        simp only [giveAllBack, hcontext, hbrowser, hdriver, lastFault, keptAfter]

/-! ## What is put on record -/

/-- Giving a part back puts its one call on record, and nothing is put on record for a part that the
session does not hold. -/
theorem giveBack_recording (p : Part) (entries : List (Record Handle)) :
    giveBack E.recording s p (entries, w) =
      ((giveBack E s p w).1, entries ++ s.closings p, (giveBack E s p w).2) := by
  unfold giveBack closings
  cases s.part p with
  | none => simp
  | some h => rfl

/-- What goes on record are the closings of the parts, in their order, whether or not they go
well. -/
theorem giveAllBack_recording (parts : List Part) (entries : List (Record Handle)) :
    giveAllBack E.recording s parts (entries, w) =
      ((giveAllBack E s parts w).1, entries ++ parts.flatMap s.closings,
        (giveAllBack E s parts w).2) := by
  induction parts generalizing entries w with
  | nil => simp [giveAllBack]
  | cons p ps ih => simp [giveAllBack, giveBack_recording, ih]

/-- Keeping a record does not change which parts a stop comes to. -/
theorem partsTried_recording (entries : List (Record Handle)) :
    partsTried E.recording s (entries, w) = partsTried E s w := by
  simp [partsTried, giveBack_recording]

/-! ## Sessions that hold nothing -/

/-- The session holds nothing and has no page. -/
structure Vacant (s : Session Handle) : Prop where
  context : s.context = none
  browser : s.browser = none
  driver : s.driver = none
  page : s.page = none

/-- Work that leaves a session vacant that was vacant before. -/
def Idles (E : Engine Handle World) (work : BlockingWork Handle α) : Prop :=
  ∀ s w, s.Vacant → (run E work s w).1.2.Vacant

namespace Idles

/-- Work that only reads leaves a session that holds nothing as it is. -/
theorem of_reads {work : BlockingWork Handle α} (h : Reads E work) : Idles E work := by
  intro s w hs
  rw [h s w]
  exact hs

/-- A session without a page refuses whatever needs one. -/
theorem onPage (f : Handle → BlockingWork Handle β) : Idles E (currentPage >>= f) := by
  intro s w hs
  rw [run_bind, run_currentPage_none hs.page]
  exact hs

/-- A change idles when it gives a session that holds nothing nothing to hold. -/
theorem change {f : Session Handle → Session Handle} (h : ∀ s, s.Vacant → (f s).Vacant) :
    Idles E (change f) :=
  fun s _ hs => h s hs

/-- What goes on from work that idles idles, if it does for each value. -/
theorem bind {work : BlockingWork Handle α} {f : α → BlockingWork Handle β}
    (hwork : Idles E work) (hf : ∀ a, Idles E (f a)) : Idles E (work >>= f) := by
  intro s w hs
  have h := hwork s w hs
  rcases hrun : run E work s w with ⟨⟨e | a, s'⟩, w'⟩ <;> rw [hrun] at h <;> rw [run_bind, hrun]
  · exact h
  · exact hf a s' w' h

/-- Saying what the session was doing gives it nothing to hold. -/
theorem translating {work : BlockingWork Handle α} (hwork : Idles E work) (action : String) :
    Idles E (work.translating action) := by
  intro s w hs
  have h := hwork s w hs
  rcases hrun : run E work s w with ⟨⟨e | a, s'⟩, w'⟩ <;> rw [hrun] at h <;>
    rw [run_translating, hrun]
  · dsimp only
    split <;> exact h
  · exact h

/-- Dropping the answer of work that idles leaves work that idles. -/
theorem silently {work : BlockingWork Handle Unit} (h : Idles E work) : Idles E (silently work) :=
  h.bind fun _ => .of_reads (.pure _)

end Idles

/-- Stopping lets go of what is held or leaves it held. -/
theorem idles_stop : Idles E stop := by
  intro s w hs
  rw [run_stop]
  dsimp only
  cases lastFault (giveAllBack E s (partsTried E s w) w).1 with
  | ok _ => exact ⟨rfl, rfl, rfl, rfl⟩
  | error e => exact hs

/-- A dialog that opens is answered by a session that holds nothing, too, and gives it nothing to
hold. -/
theorem idles_dialogOpens (dialog : Handle) (message : String) :
    Idles E (dialogOpens dialog message) := by
  refine .bind (.of_reads fun _ _ => rfl) fun s => ?_
  refine .bind (.change fun s hs => ⟨hs.context, hs.browser, hs.driver, hs.page⟩) fun _ => ?_
  exact .of_reads (.ite _ (.ask _) (.ask _))

/-- Acknowledging a dialog changes the dialogs only. -/
theorem idles_acknowledge : Idles E acknowledge := by
  refine .bind (.of_reads fun _ _ => rfl) fun s => .bind (.of_reads (.expect _)) fun answer => ?_
  exact .bind (.change fun s hs => ⟨hs.context, hs.browser, hs.driver, hs.page⟩) fun _ =>
    .of_reads (.pure _)

section Turns

variable [DecidableEq Handle]

/-- A vacant session opens nothing, whatever it is asked to do. -/
theorem idles_perform {γ : Type} (c : Command Handle (Datum Handle) γ) : Idles E (perform c) := by
  cases c with
  | findElements criterion within =>
    -- inside an element no page is needed: the engine is asked at once
    cases within with
    | some element => exact .of_reads (.translating (.ask _) _)
    | none => exact .onPage _
  | navigate url => exact .silently (.translating (.onPage _) _)
  | currentUrl => exact .onPage _
  | setWindowSize width height => exact .silently (.translating (.onPage _) _)
  | setWindowPosition x y =>
    exact .silently (.bind (.of_reads fun _ _ => rfl) fun s =>
      .bind (.of_reads (.expect _)) fun _ => .translating (.onPage _) _)
  | maximiseWindow => exact .silently (.translating (.onPage _) _)
  | newTab => exact .silently (.translating (.onPage _) _)
  | newWindow => exact .silently (.translating (.onPage _) _)
  | switchTab position => exact .silently (.translating (.onPage _) _)
  | closeTab => exact .silently (.onPage _)
  | back => exact .silently (.translating (.onPage _) _)
  | forward => exact .silently (.translating (.onPage _) _)
  | refresh => exact .silently (.translating (.onPage _) _)
  | executeScript script arguments => exact .translating (.onPage _) _
  -- what is about an element goes to the engine without a look at the session
  | text element => exact .of_reads (.translating (.ask _) _)
  | «attribute» element name => exact .of_reads (.translating (.ask _) _)
  | style element property => exact .of_reads (.translating (.ask _) _)
  | click element => exact .silently (.of_reads (.translating (.ask _) _))
  | sendKeys element keys => exact .silently (.of_reads (.translating (.ask _) _))
  | clear element => exact .silently (.of_reads (.translating (.ask _) _))
  | selectByText element option => exact .silently (.of_reads (.translating (.ask _) _))
  | selectByValue element option => exact .silently (.of_reads (.translating (.ask _) _))
  | selectedOptionText element =>
    exact .of_reads (.translating (.bind (.ask _) fun _ => .expect _) _)
  | selectedOptionValue element =>
    exact .of_reads (.translating (.bind (.ask _) fun _ => .expect _) _)
  | tagName element => exact .of_reads (.translating (.ask _) _)
  | isEnabled element => exact .of_reads (.translating (.ask _) _)
  | isSelected element =>
    exact .of_reads (.bind (.translating (.bind (.ask _) fun _ => .pure _) _) fun _ => .pure _)
  | isDisplayed element => exact .of_reads (.translating (.ask _) _)
  | location element =>
    refine .of_reads (.bind (.bind (.translating (.ask _) _) fun box => ?_) fun _ => .pure _)
    exact .ite _ (.bind (.read _) fun _ => .bind (.read _) fun _ => .pure _) (.pure _)
  | size element =>
    refine .of_reads (.bind (.bind (.translating (.ask _) _) fun box => ?_) fun _ => .pure _)
    exact .ite _ (.bind (.read _) fun _ => .bind (.read _) fun _ => .pure _) (.pure _)
  | elementId element => exact .of_reads (.translating (.bind (.ask _) fun _ => .pure _) _)
  | alertPresent => exact .of_reads fun _ _ => rfl
  | alertText =>
    exact .of_reads (.bind (.bind (fun _ _ => rfl) fun _ => .expect _) fun _ => .pure _)
  | acceptAlert => exact .bind idles_acknowledge fun _ => .of_reads (.pure _)
  | dismissAlert =>
    exact .silently (.bind idles_acknowledge fun _ => .of_reads (.bind (fun _ _ => rfl) fun _ =>
      .ite _ (fun _ _ => rfl) (.pure _)))
  | alertSendKeys keys =>
    exact .silently (.change fun s hs => ⟨hs.context, hs.browser, hs.driver, hs.page⟩)
  | quit => exact .silently idles_stop

/-- Whatever happens to a session that has been stopped, short of starting it, it still holds
nothing. -/
theorem idles_turn {t : Turn Handle} (ht : t ≠ .start) : Idles E t.work := by
  cases t with
  | start => exact absurd rfl ht
  | stop => exact .silently idles_stop
  | command c => exact idles_perform c
  | dialogOpens dialog message => exact .silently (idles_dialogOpens dialog message)

/-- A session that holds nothing holds nothing until it is started. -/
theorem Vacant.live (hs : s.Vacant) {turns : List (Turn Handle)} (h : ∀ t ∈ turns, t ≠ .start) :
    (live E turns s w).2.1.Vacant := by
  induction turns generalizing s w with
  | nil => exact hs
  | cons t ts ih =>
    have hfirst := idles_turn (E := E) (h t List.mem_cons_self) s w hs
    exact ih hfirst fun t ht => h t (List.mem_cons_of_mem _ ht)

end Turns

/-! ## Ways to end -/

/-- How a session is ended. -/
inductive Ending where
  | stop
  | quit
  deriving DecidableEq, Repr

/-- The turn in which a session is ended. -/
def Ending.turn : Ending → Turn Handle
  | stop => .stop
  | quit => .command .quit

variable [DecidableEq Handle]

/-- Stopping and quitting are one and the same work. -/
theorem Ending.work_turn (ending : Ending) :
    (ending.turn : Turn Handle).work = silently Session.stop := by
  cases ending <;> rfl

/-- Ending a session stops it. -/
theorem live_ending (ending : Ending) :
    live E [ending.turn] s w =
      ([(lastFault (giveAllBack E s (partsTried E s w) w).1).map fun _ => .null],
        keptAfter (lastFault (giveAllBack E s (partsTried E s w) w).1) s,
        (giveAllBack E s (partsTried E s w) w).2) := by
  have hrun : run E (ending.turn : Turn Handle).work s w = _ :=
    congrArg (fun work => run E work s w) ending.work_turn
  simp only [live, following, hrun, silently, run_bind, run_stop]
  cases lastFault (giveAllBack E s (partsTried E s w) w).1 <;> rfl

/-- Of a session that is ended, only the calls that give its parts back are put on record. -/
theorem record_ending (ending : Ending) :
    record E [ending.turn] s w = (partsTried E s w).flatMap s.closings := by
  unfold record
  rw [live_ending, partsTried_recording, giveAllBack_recording]
  simp

omit [DecidableEq Handle] in
/-- A session that holds nothing gives nothing back. -/
theorem Vacant.closings (hs : s.Vacant) (p : Part) : s.closings p = [] := by
  cases p <;> simp [Session.closings, part, hs.context, hs.browser, hs.driver]

/-! ## Flavours -/

/-- The two flavours of a session. -/
inductive Flavour where
  | blocking
  | awaiting
  deriving DecidableEq, Repr

namespace Flavour

/-- The life of a session. -/
def live (E : Engine Handle World) : Flavour → List (Turn Handle) → Session Handle → World →
    List (Except Fault (Datum Handle)) × Session Handle × World
  | blocking => Session.live E
  | awaiting => Session.liveAsync E

/-- What is put on record in the life of a session. -/
def record (E : Engine Handle World) : Flavour → List (Turn Handle) → Session Handle → World →
    List (Record Handle)
  | blocking => Session.record E
  | awaiting => Session.recordAsync E

/-- Both flavours live the same lives, so what is proved of one is proved of both. -/
theorem live_eq (f : Flavour) : f.live E = Session.live E := by
  cases f with
  | blocking => rfl
  | awaiting => exact liveAsync_eq E

/-- Both flavours put the same on record. -/
theorem record_eq (f : Flavour) : f.record E = Session.record E := by
  cases f with
  | blocking => rfl
  | awaiting =>
    funext turns s w
    show (liveAsync E.recording turns s ([], w)).2.2.1 = _
    rw [liveAsync_eq]
    rfl

end Flavour

omit [DecidableEq Handle] in
/-- What is given back, and what comes of it: all parts, or all but the driver when the browser
cannot be closed. -/
theorem exists_giveAllBack (E : Engine Handle World) (s : Session Handle) (w : World) :
    ∃ results w', giveAllBack E s (partsTried E s w) w = (results, w') ∧
      ((∃ c d, partsTried E s w = [.context, .browser, .driver] ∧ results = [c, .ok (), d]) ∨
        ∃ c e, partsTried E s w = [.context, .browser] ∧ results = [c, .error e]) := by
  unfold partsTried
  rcases hcontext : giveBack E s .context w with ⟨c, w₁⟩
  rcases hbrowser : giveBack E s .browser w₁ with ⟨e | u, w₂⟩
  · exact ⟨[c, .error e], w₂, by simp [giveAllBack, hcontext, hbrowser], .inr ⟨c, e, rfl, rfl⟩⟩
  · rcases hdriver : giveBack E s .driver w₂ with ⟨d, w₃⟩
    exact ⟨[c, .ok (), d], w₃, by simp [giveAllBack, hcontext, hbrowser, hdriver],
      .inl ⟨c, d, rfl, rfl⟩⟩

/-- A session is ended at some moment of its life. It gives back what it holds, each thing by one
call: its context, its browser, and its driver unless the browser cannot be closed. When all of that
goes well it holds nothing and has no page, and until it is started again there is nothing to
give back; otherwise it holds what it held. -/
theorem stop_gives_back (E : Engine Handle World) (f : Flavour) (before : List (Turn Handle))
    (ending : Ending) (s : Session Handle) (w : World) :
    ∃ answers s₁ w₁ tried results w₂,
      f.live E before s w = (answers, s₁, w₁) ∧
      giveAllBack E s₁ tried w₁ = (results, w₂) ∧
      ((∃ c d, tried = [.context, .browser, .driver] ∧ results = [c, .ok (), d]) ∨
        ∃ c e, tried = [.context, .browser] ∧ results = [c, .error e]) ∧
      f.record E [ending.turn] s₁ w₁ = tried.flatMap s₁.closings ∧
      f.live E [ending.turn] s₁ w₁ =
        ([(lastFault results).map fun _ => .null], keptAfter (lastFault results) s₁, w₂) ∧
      (lastFault results = .ok () →
        ∀ (later : List (Turn Handle)) (again : Ending), (∀ t ∈ later, t ≠ .start) →
          ∃ answers' s₂ w₃,
            f.live E later (keptAfter (lastFault results) s₁) w₂ = (answers', s₂, w₃) ∧
            s₂.Vacant ∧ f.record E [again.turn] s₂ w₃ = []) := by
  rw [f.live_eq, f.record_eq]
  rcases live E before s w with ⟨answers, s₁, w₁⟩
  obtain ⟨results, w₂, hall, htried⟩ := exists_giveAllBack E s₁ w₁
  refine ⟨answers, s₁, w₁, partsTried E s₁ w₁, results, w₂, rfl, hall, htried,
    record_ending ending, ?_, ?_⟩
  · rw [live_ending, hall]
  · -- nothing is left to give back, and only a start would change that
    intro hwell later again hlater
    have hreleased : (keptAfter (lastFault results) s₁).Vacant := by
      rw [hwell]
      exact ⟨rfl, rfl, rfl, rfl⟩
    have hvacant := hreleased.live (E := E) (w := w₂) hlater
    refine ⟨_, _, _, rfl, hvacant, ?_⟩
    rw [record_ending, List.flatMap_eq_nil_iff]
    exact fun p _ => hvacant.closings p

open Rehearsal (Piece Stage)

/-- Nothing fails: a session that awaits its calls is started, opens a tab, and is stopped. It has
given back all that it held, then refuses to open a tab, and quits without a call. -/
theorem stop_gives_back_quiet :
    ∃ answers s₁ w₁ s₂ w₂ answers' s₃ w₃,
      Flavour.awaiting.live Rehearsal.engine [.start, .command .newTab] {} {} =
          (answers, s₁, w₁) ∧
        Flavour.awaiting.record Rehearsal.engine [.stop] s₁ w₁ =
          [.call (.closeContext (.context 0)), .call (.closeBrowser Piece.browser),
            .call (.stopDriver Piece.driver)] ∧
        Flavour.awaiting.live Rehearsal.engine [.stop] s₁ w₁ = ([.ok .null], s₂, w₂) ∧
        Flavour.awaiting.live Rehearsal.engine [.command .newTab] s₂ w₂ = (answers', s₃, w₃) ∧
        s₃.Vacant ∧ Flavour.awaiting.record Rehearsal.engine [.command .quit] s₃ w₃ = [] := by
  obtain ⟨answers, s₁, w₁, tried, results, w₂, hbefore, hall, htried, hrecord, hended, hlater⟩ :=
    stop_gives_back Rehearsal.engine .awaiting [.start, .command .newTab] .stop {} {}
  cases hbefore
  obtain ⟨c, d, rfl, rfl⟩ | ⟨c, e, rfl, rfl⟩ := htried
  · cases hall
    obtain ⟨answers', s₃, w₃, hrest, hvacant, hquit⟩ :=
      hlater rfl [.command .newTab] .quit fun t ht => by
        rw [List.mem_singleton.mp ht]
        exact nofun
    exact ⟨_, _, _, _, _, _, _, _, rfl, hrecord, hended, hrest, hvacant, hquit⟩
  · -- the browser can be closed here
    cases hall

/-- An engine that closes contexts, but crashes when it is to close a browser for the first time. -/
abbrev crashing : Stage :=
  { answers := [("close", ⟨[.ok .null, .error ⟨Fault.engineName, "Browser crashed"⟩, .ok .null]⟩)] }

/-- The browser cannot be closed when the session is stopped: the driver that the session holds is
not stopped, and the session still has its page. The next stop closes the context a second time. -/
theorem stop_gives_back_crashed :
    ∃ answers s₁ w₁ s₂ w₂, live Rehearsal.engine [.start] {} crashing = (answers, s₁, w₁) ∧
      s₁.driver = some .driver ∧
      record Rehearsal.engine [.stop] s₁ w₁ =
        [.call (.closeContext (.context 0)), .call (.closeBrowser Piece.browser)] ∧
      live Rehearsal.engine [.stop] s₁ w₁ =
        ([.error ⟨Fault.engineName, "Browser crashed"⟩], s₂, w₂) ∧
      s₂.page = some (.page 0 0) ∧
      record Rehearsal.engine [.stop] s₂ w₂ =
        [.call (.closeContext (.context 0)), .call (.closeBrowser Piece.browser),
          .call (.stopDriver Piece.driver)] :=
  ⟨_, _, _, _, _, rfl, rfl, rfl, rfl, rfl, rfl⟩

end Walkthrough.Session
