import Walkthrough.Proofs.Elements.Asking

/-!
# Actions on the only element that matches

An action on an element asks the session for one thing, and only when the search for its element has
found exactly one (`Action.acts_on_unique_match`). All of these actions are made in the same way
(`Action.Performs`): some write a line first, then the only element that matches is found and the
session asked, and some change the answer in the end. Clearing and typing in one go, and setting a
checkbox, are made of these actions.

The search itself may ask the session for much, also through the conditions of the selector. What is
said about the action is that it adds one call at the end of what the search asks, or none.
-/

namespace Walkthrough

variable {H : Host} {α β γ : Type} {d : Driver H}

/-! ## Searches and the session -/

namespace Flow

/-- The flow succeeds only from states with a session. -/
def NeedsSession (d : Driver H) (c : Flow H α) : Prop :=
  ∀ env s w a t sound, (c.history d env s w).outcome = .success a t sound →
    ∃ handle, s.session = some handle

namespace NeedsSession

theorem callSession (label : String) (command : Command H.Element H.Datum α) :
    (callSession label command).NeedsSession d := by
  intro env s w a t sound h
  cases hsession : s.session with
  | none =>
    have hfaulted := (history_callSession_of_none (d := d) command env hsession label w).1
    rw [h] at hfaulted
    cases hfaulted
  | some handle => exact ⟨handle, rfl⟩

theorem fail (f : Failure) : (fail f : Flow H α).NeedsSession d := by
  intro env s w a t sound h
  have hfaulted := isFaulted_fail (α := α) (d := d) f env s w
  rw [h] at hfaulted
  cases hfaulted

theorem bind {c : Flow H α} (hc : c.NeedsSession d) (f : α → Act H.World (Flow H β)) :
    (c.bind f).NeedsSession d := by
  intro env s w b u sound h
  obtain ⟨a, t, ht, -, -, hfirst, -⟩ := success_of_bind h
  exact hc env s w a t ht hfirst

/-- A wait that succeeds does so in an attempt, which is run from the state of the wait. -/
theorem waitUntilSucceeds (steady : d.Steady) {c : Flow H α} (hc : c.NeedsSession d)
    (interval wait : Option Span) (label : String) :
    (c.waitUntilSucceeds interval wait label).NeedsSession d := by
  intro env s w a t sound h
  obtain ⟨ws, last, -, -, hlast⟩ := success_of_waitUntilSucceeds steady h
  exact hc env s last a t sound hlast

end NeedsSession

end Flow

namespace Step

open Walkthrough.Flow

/-- A step asks the session itself, or fails, or comes after steps that need a session. -/
theorem needsSession_compile (steady : d.Steady) {before : Option (Flow H (List H.Element))}
    (hbefore : ∀ c, before = some c → c.NeedsSession d) (step : Step H) :
    (step.compile before).NeedsSession d := by
  cases before with
  | none =>
    cases step with
    | query criterion => exact .callSession _ _
    | filter condition description => exact .fail _
    | waitFor condition description interval wait => exact .fail _
    | pick index => exact .fail _
  | some c =>
    have hc := hbefore c rfl
    cases step with
    | query criterion => exact hc.bind _
    | filter condition description => exact hc.bind _
    | waitFor condition description interval wait =>
      exact .waitUntilSucceeds steady (hc.bind _) interval wait description
    | pick index => exact hc.bind _

end Step

namespace Selector

open Walkthrough.Flow

theorem needsSession_compileSteps (steady : d.Steady) (steps : List (Step H))
    (before : Option (Flow H (List H.Element)))
    (hbefore : ∀ c, before = some c → c.NeedsSession d) :
    ∀ c, compileSteps before steps = some c → c.NeedsSession d := by
  induction steps generalizing before with
  | nil => exact hbefore
  | cons step steps ih =>
    refine ih (some (step.compile before)) ?_
    rintro c ⟨⟩
    exact Step.needsSession_compile steady hbefore step

/-- Without a session nothing is found. -/
theorem needsSession_findAll (steady : d.Steady) (a : Selector H) : a.findAll.NeedsSession d := by
  have hsteps := needsSession_compileSteps (d := d) steady a.steps none nofun
  unfold findAll compile
  cases hcompiled : compileSteps none a.steps with
  | none => exact .callSession _ _
  | some c => exact hsteps c hcompiled

end Selector

/-! ## Actions -/

/-- An action on the only element that matches, by what the session answers and what the action
gives. -/
inductive ElementAction (H : Host) : Type → Type → Type where
  | click : ElementAction H Unit Unit
  | sendKeys (keys : String) : ElementAction H Unit Unit
  | clear : ElementAction H Unit Unit
  | text : ElementAction H String String
  | attributeOf (name : String) : ElementAction H (Option String) (Option String)
  | value : ElementAction H (Option String) (Option String)
  | style (property : String) : ElementAction H String String
  | zIndex : ElementAction H String (Option Int)
  | displayed : ElementAction H Bool Bool
  | enabled : ElementAction H Bool Bool
  | obscured : ElementAction H H.Datum Bool
  | hasText (expected : String) : ElementAction H String Bool
  | isCheckboxChecked : ElementAction H Bool Bool
  | selectByText (option : String) : ElementAction H Unit Unit
  | selectByValue (option : String) : ElementAction H Unit Unit
  | selectedOptionText : ElementAction H String String
  | selectedOptionValue : ElementAction H String String

namespace ElementAction

/-- The flow of the action. -/
def flow (a : Selector H) : ElementAction H α β → Flow H β
  | click => Action.click a
  | sendKeys keys => Action.sendKeys a keys
  | clear => Action.clear a
  | text => Action.text a
  | attributeOf name => Action.attributeOf a name
  | value => Action.value a
  | style property => Action.style a property
  | zIndex => Action.zIndex a
  | displayed => Action.displayed a
  | enabled => Action.enabled a
  | obscured => Action.obscured a
  | hasText expected => Action.hasText a expected
  | isCheckboxChecked => Action.isCheckboxChecked a
  | selectByText option => Action.selectByText a option
  | selectByValue option => Action.selectByValue a option
  | selectedOptionText => Action.selectedOptionText a
  | selectedOptionValue => Action.selectedOptionValue a

/-- What the session is asked to do with the element. -/
def command : ElementAction H α β → H.Element → Command H.Element H.Datum α
  | click => .click
  | sendKeys keys => (.sendKeys · keys)
  | clear => .clear
  | text => .text
  | attributeOf name => (.attribute · name)
  | value => (.attribute · "value")
  | style property => (.style · property)
  | zIndex => (.style · "z-index")
  | displayed => .isDisplayed
  | enabled => .isEnabled
  | obscured => fun element => .executeScript Action.obscuredScript [H.ofElement element]
  | hasText _ => .text
  | isCheckboxChecked => .isSelected
  | selectByText option => (.selectByText · option)
  | selectByValue option => (.selectByValue · option)
  | selectedOptionText => .selectedOptionText
  | selectedOptionValue => .selectedOptionValue

/-- The line that the action writes before it looks for its element, if it writes one. -/
def line? (a : Selector H) : ElementAction H α β → Option String
  | click => some ("Click " ++ a.describe)
  | sendKeys keys => some ("Send keys \"" ++ keys ++ "\" to " ++ a.describe)
  | clear => some ("Clear " ++ a.describe)
  | selectByText option => some ("Select \"" ++ option ++ "\" in " ++ a.describe)
  | selectByValue option => some ("Select value \"" ++ option ++ "\" in " ++ a.describe)
  | _ => none

end ElementAction

namespace Action

open Walkthrough.Flow

/-- The flow asks the session for one thing about the only element that matches, after a line if
there is one. -/
inductive Performs (a : Selector H) (command : H.Element → Command H.Element H.Datum α) :
    Option String → {β : Type} → Flow H β → Prop where
  | plain (label : String) : Performs a command none (onElement a label command)
  | announced (line label : String) :
      Performs a command (some line) (announcedOn a line label command)
  | mapped {line? : Option String} {β γ : Type} {c : Flow H β} (f : β → Act H.World γ)
      (h : Performs a command line? c) : Performs a command line? (c.map f)

theorem performs (act : ElementAction H α β) (a : Selector H) :
    Performs a act.command (act.line? a) (act.flow a) := by
  cases act with
  | click => exact .announced _ _
  | sendKeys keys => exact .announced _ _
  | clear => exact .announced _ _
  | text => exact .plain _
  | attributeOf name => exact .plain _
  | value => exact .plain _
  | style property => exact .plain _
  | zIndex => exact .mapped _ (.plain _)
  | displayed => exact .plain _
  | enabled => exact .plain _
  | obscured => exact .mapped _ (.plain _)
  | hasText expected => exact .mapped _ (.plain _)
  | isCheckboxChecked => exact .plain _
  | selectByText option => exact .announced _ _
  | selectByValue option => exact .announced _ _
  | selectedOptionText => exact .plain _
  | selectedOptionValue => exact .plain _

/-- The run asks what the search asks, and one thing more if the search has found a single element
and left a session. Otherwise it fails without asking more. -/
structure Adds (command : H.Element → Command H.Element H.Datum α)
    (search : History H (List H.Element)) (run : History H β) : Prop where
  single : ∀ e t sound handle, search.outcome = .success [e] t sound → t.session = some handle →
    run.asked = search.asked ++ [.asked handle (command e)]
  other : (∀ e t sound handle, search.outcome = .success [e] t sound → t.session ≠ some handle) →
    run.outcome.isFaulted = true ∧ run.asked = search.asked

section

variable {command : H.Element → Command H.Element H.Datum α} {a : Selector H} {env : H.Env}
  {s : H.State} {w : H.World}

/-- When the search has found a single element, calling the session is the rest of the action. -/
theorem history_onElement_of_single (command : H.Element → Command H.Element H.Datum α)
    {e : H.Element} {t : H.State} {sound : t.failures = []}
    (h : (a.findAll.history d env s w).outcome = .success [e] t sound) (label : String) :
    let search := a.findAll.history d env s w
    let rest := (callSession (label ++ " " ++ a.describe) (command e)).history d env t search.world
    let run := (onElement a label command).history d env s w
    run.outcome = rest.outcome ∧ run.asked = search.asked ++ rest.asked := by
  intro search rest run
  obtain ⟨hfound, hworld, hsearched⟩ := Selector.history_findOne_of_single h
  obtain ⟨houtcome, -, hasked⟩ := history_bind_of_success
    (f := fun e => callSession (label ++ " " ++ a.describe) (command e)) hfound
  rw [hworld] at houtcome hasked
  rw [hsearched] at hasked
  exact ⟨houtcome, hasked⟩

/-- When the search has found anything else, or has failed, the action fails and asks nothing
more. -/
theorem history_onElement_of_other (command : H.Element → Command H.Element H.Datum α)
    (h : ∀ e t sound, (a.findAll.history d env s w).outcome ≠ .success [e] t sound)
    (label : String) :
    let search := a.findAll.history d env s w
    let run := (onElement a label command).history d env s w
    run.outcome.isFaulted = true ∧ run.asked = search.asked := by
  intro search run
  obtain ⟨hfaulted, hsearched⟩ := Selector.history_findOne_of_other h
  rcases ho : (a.findOne.history d env s w).outcome with ⟨e, t, sound⟩ | ⟨e, t, unsound⟩
  · rw [ho] at hfaulted
    cases hfaulted
  · obtain ⟨houtcome, -, hasked⟩ := history_bind_of_faulted
      (f := fun e => .ok (callSession (label ++ " " ++ a.describe) (command e))) ho
    exact ⟨congrArg Outcome.isFaulted houtcome, hasked.trans hsearched⟩

theorem adds_onElement (label : String) (env : H.Env) (s : H.State) (w : H.World) :
    Adds command (a.findAll.history d env s w)
      ((onElement a label command).history d env s w) := by
  refine ⟨fun e t sound handle hsearch hsession => ?_, fun hother => ?_⟩
  · obtain ⟨-, hasked⟩ := history_onElement_of_single command hsearch label
    rw [asked_callSession (command e) env sound hsession] at hasked
    exact hasked
  · by_cases hsingle : ∃ e t sound, (a.findAll.history d env s w).outcome = .success [e] t sound
    · -- the search may have given up the session that it was started with
      obtain ⟨e, t, sound, hsearch⟩ := hsingle
      have hnone : t.session = none := by
        rw [Option.eq_none_iff_forall_ne_some]
        exact fun handle => hother e t sound handle hsearch
      obtain ⟨houtcome, hasked⟩ := history_onElement_of_single command hsearch label
      obtain ⟨hfaulted, hnothing⟩ := history_callSession_of_none (d := d) (command e) env hnone
        (label ++ " " ++ a.describe) (a.findAll.history d env s w).world
      rw [hnothing, List.append_nil] at hasked
      exact ⟨(congrArg Outcome.isFaulted houtcome).trans hfaulted, hasked⟩
    · have hnone : ∀ e t sound, (a.findAll.history d env s w).outcome ≠ .success [e] t sound :=
        fun e t sound hsearch => hsingle ⟨e, t, sound, hsearch⟩
      exact history_onElement_of_other command hnone label

theorem Adds.of_asked {search : History H (List H.Element)} {run : History H β}
    {run' : History H γ} (h : Adds command search run) (hasked : run'.asked = run.asked)
    (hfaulted : run.outcome.isFaulted = true → run'.outcome.isFaulted = true) :
    Adds command search run' := by
  refine ⟨fun e t sound handle hsearch hsession => ?_, fun hother => ?_⟩
  · exact hasked.trans (h.single e t sound handle hsearch hsession)
  · obtain ⟨hfails, hsame⟩ := h.other hother
    exact ⟨hfaulted hfails, hasked.trans hsame⟩

end

/-- Where the search begins: at once, or when the line is written. -/
def begun (line? : Option String) (s : H.State) (w : H.World) : H.State × H.World :=
  match line? with
  | none => (s, w)
  | some line => (s.withLine .info line, (H.tell s (s.line .info line) w).2)

/-- Searching is what an action does first, after its line. -/
theorem Performs.runs (quiet : H.Quiet) {a : Selector H}
    {command : H.Element → Command H.Element H.Datum α} {line? : Option String} {c : Flow H β}
    (h : Performs a command line? c) (env : H.Env) {s : H.State} (hs : s.failures = [])
    (w : H.World) :
    let start := begun line? s w
    ⟨a.findAll, env, start.1, start.2⟩ ∈ c.steps d env s w ∧
      Adds command (a.findAll.history d env start.1 start.2) (c.history d env s w) := by
  have hsearched (label : String) (t : H.State) (v : H.World) :
      ⟨a.findAll, env, t, v⟩ ∈ (onElement a label command).steps d env t v :=
    mem_steps_bind (mem_steps_bind List.mem_cons_self _) _
  induction h with
  | plain label => exact ⟨hsearched label s w, adds_onElement label env s w⟩
  | announced line label =>
    obtain ⟨hline, hworld, hnothing⟩ := history_info_of_quiet (d := d) quiet line env hs w
    obtain ⟨houtcome, -, hasked⟩ := history_bind_of_success
      (f := fun _ => onElement a label command) hline
    refine ⟨mem_steps_bind_of_success ⟨hline, hworld⟩ (hsearched label _ _), ?_⟩
    rw [hnothing, hworld] at hasked
    rw [hworld] at houtcome
    exact (adds_onElement label env _ _).of_asked hasked
      fun hfails => (congrArg Outcome.isFaulted houtcome).trans hfails
  | @mapped line? _ _ c f h ih =>
    obtain ⟨hstep, hadds⟩ := ih
    refine ⟨mem_steps_map hstep f, hadds.of_asked (asked_map ..) ?_⟩
    exact fun hfails => isFaulted_map hfails f

/-- An action on an element is run from a state without failures, with sinks that take every line.
It searches for the elements that match after its line, if it writes one. When the search gives
exactly one element and there is a session, the session is asked to do the thing with that element,
once and after all that the search asks. Whatever else becomes of the search, also for want of a
session, the action fails and nothing is asked after it. -/
theorem acts_on_unique_match (quiet : H.Quiet) (steady : d.Steady) (act : ElementAction H α β)
    (a : Selector H) (env : H.Env) {s : H.State} (hs : s.failures = []) (w : H.World) :
    let start := begun (act.line? a) s w
    let search := a.findAll.history d env start.1 start.2
    let run := (act.flow a).history d env s w
    ⟨a.findAll, env, start.1, start.2⟩ ∈ (act.flow a).steps d env s w ∧
      (∀ e t sound handle, search.outcome = .success [e] t sound → t.session = some handle →
        run.asked = search.asked ++ [.asked handle (act.command e)]) ∧
      ((∀ e t sound handle, search.outcome = .success [e] t sound → t.session ≠ some handle) →
        run.outcome.isFaulted = true ∧ run.asked = search.asked) ∧
      (s.session = none → search.outcome.isFaulted = true ∧ run.outcome.isFaulted = true) := by
  intro start search run
  obtain ⟨hsearched, hsingle, hother⟩ := (performs act a).runs (d := d) quiet env hs w
  refine ⟨hsearched, hsingle, hother, fun hnone => ?_⟩
  have hstart : start.1.session = none := by
    rw [← hnone]
    show (begun (act.line? a) s w).1.session = s.session
    cases act.line? a with
    | none => rfl
    | some line => rfl
  -- without a session the search finds nothing, whatever its steps are
  have hnothing : ∀ found t sound, search.outcome ≠ .success found t sound := by
    intro found t sound hfound
    obtain ⟨handle, hsession⟩ :=
      Selector.needsSession_findAll steady a env start.1 start.2 found t sound hfound
    rw [hstart] at hsession
    cases hsession
  refine ⟨?_, (hother fun e t sound handle hfound => absurd hfound (hnothing _ _ _)).1⟩
  cases ho : search.outcome with
  | success found t sound => exact absurd ho (hnothing found t sound)
  | faulted found t unsound => rfl

/-- A host like `Host.refusing` whose page has one button, which can be clicked, and two of anything
else. -/
abbrev withButton : Host :=
  { Host.refusing with
    call := fun session command w =>
      match command with
      | .findElements criterion _ =>
        (.ok (.value (if criterion.value = "button" then [()] else [(), ()])), w + 1)
      | .click _ => (.ok (.value ()), w + 1)
      | command => Host.refusing.call session command w }

/-- The button is clicked. A link is not, since there are two of them. -/
theorem acts_on_unique_match_button :
    let s : withButton.State := withButton.initialState (some ()) { sinks := () }
    let button : Selector withButton := .css "button"
    let link : Selector withButton := .css "a"
    let clicked := (Action.click button).history .blocking () s (0 : Nat)
    let missed := (Action.click link).history .blocking () s (0 : Nat)
    clicked.asked =
        [.asked () (.findElements ⟨.css, "button"⟩ none), .asked () (.click ())] ∧
      missed.outcome.isFaulted = true ∧
      missed.asked = [.asked () (.findElements ⟨.css, "a"⟩ none)] := by
  intro s button link clicked missed
  have quiet : withButton.Quiet := ⟨fun _ _ _ w => ⟨w, rfl⟩, fun _ _ w => ⟨w, rfl⟩⟩
  have steady : (Driver.blocking : Driver withButton).Steady := Driver.steady_blocking
  obtain ⟨-, hsingle, -⟩ := acts_on_unique_match quiet steady
    (.click : ElementAction withButton _ _) button () (s := s) rfl (0 : Nat)
  obtain ⟨-, -, hother, -⟩ := acts_on_unique_match quiet steady
    (.click : ElementAction withButton _ _) link () (s := s) rfl (0 : Nat)
  refine ⟨?_, ?_⟩
  · refine (hsingle () (s.withLine .info ("Click " ++ button.describe)) rfl () ?_ rfl).trans ?_
    · rw [history_eq]
      rfl
    · rw [history_eq]
      rfl
  · let start := begun ((.click : ElementAction withButton _ _).line? link) s (0 : Nat)
    have htwo : ∀ e t sound handle,
        (link.findAll.history .blocking () start.1 start.2).outcome = .success [e] t sound →
          t.session ≠ some handle := by
      intro e t sound handle hfound
      rw [history_eq] at hfound
      have hcount := congrArg (fun o => o.value?.map List.length) hfound
      cases hcount
    obtain ⟨hfaulted, hasked⟩ := hother htwo
    refine ⟨hfaulted, hasked.trans ?_⟩
    rw [history_eq]
    rfl

end Action

end Walkthrough
