import Mathlib.Data.List.DropRight
import Walkthrough.Proofs.Session.Stopping

/-!
# Dialogs in the life of a session

Dialogs open on the pages of a session while the session is asked for other things. What a turn has
to do with them is its concern (`Turn.concern`): a dialog opens, a text is staged for the next one,
or the oldest one is acknowledged. A turn that has none of these concerns leaves the dialogs alone
(`Session.Spares.turn`), so what a session remembers of its dialogs can be told from the turns so
far and from which acknowledgements went well (`Session.Remembers`), one turn at a time
(`Session.Remembers.step`).

Headline: `Session.dialogs_in_order`, about a session that accepts its dialogs, at any moment of its
life.
-/

namespace Walkthrough

universe u

variable {Handle α β : Type} {World : Type u}

/-! ## What a turn has to do with dialogs -/

/-- What a turn may have to do with the dialogs of a session. -/
inductive Concern where
  /-- A dialog with this message opens. -/
  | opens (message : String)
  /-- A text is staged for the next dialog. -/
  | stages (text : String)
  /-- The oldest dialog that has not been acknowledged is to be acknowledged. -/
  | acknowledges
  deriving DecidableEq, Repr

/-- The message of the dialog that opens. -/
def Concern.message? : Concern → Option String
  | opens message => some message
  | _ => none

/-- The text that is staged. -/
def Concern.text? : Concern → Option String
  | stages text => some text
  | _ => none

namespace Turn

/-- What the turn has to do with dialogs, if anything. -/
def concern : Turn Handle → Option Concern
  | dialogOpens _ message => some (.opens message)
  | command (.alertSendKeys text) => some (.stages text)
  | command .acceptAlert => some .acknowledges
  | command .dismissAlert => some .acknowledges
  | _ => none

/-- Only a dialog that opens is of that concern. -/
theorem eq_of_opens {t : Turn Handle} {message : String} (ht : t.concern = some (.opens message)) :
    ∃ dialog, t = .dialogOpens dialog message := by
  cases t with
  | start => cases ht
  | stop => cases ht
  | command c => cases c <;> cases ht
  | dialogOpens dialog message =>
    cases ht
    exact ⟨dialog, rfl⟩

/-- Only sending keys to an alert stages a text. -/
theorem eq_of_stages {t : Turn Handle} {text : String} (ht : t.concern = some (.stages text)) :
    t = .command (.alertSendKeys text) := by
  cases t with
  | start => cases ht
  | stop => cases ht
  | command c =>
    cases c <;> cases ht
    rfl
  | dialogOpens dialog message => cases ht

/-- Only accepting and dismissing acknowledge. -/
theorem eq_of_acknowledges {t : Turn Handle} (ht : t.concern = some .acknowledges) :
    t = .command .acceptAlert ∨ t = .command .dismissAlert := by
  cases t with
  | start => cases ht
  | stop => cases ht
  | command c =>
    cases c <;> cases ht
    · exact .inl rfl
    · exact .inr rfl
  | dialogOpens dialog message => cases ht

/-- The message of the dialog that opens in the turn. -/
def message? (t : Turn Handle) : Option String := t.concern.bind Concern.message?

/-- The text that is staged in the turn. -/
def text? (t : Turn Handle) : Option String := t.concern.bind Concern.text?

/-- The messages of the dialogs that opened in some turns, in order. -/
def messages (turns : List (Turn Handle)) : List String := turns.filterMap message?

/-- The text that was staged last, if one was staged after the last dialog opened. -/
def staged (turns : List (Turn Handle)) : Option String :=
  ((turns.rtakeWhile fun t => t.message?.isNone).filterMap text?).getLast?

/-- How many acknowledgements went well in some turns that gave these answers. -/
def acknowledged (turns : List (Turn Handle)) (answers : List (Except Fault (Datum Handle))) :
    Nat :=
  (turns.zip answers).countP fun p => p.1.concern == some .acknowledges && p.2.isOk

/-! ### One turn more -/

/-- A turn adds the message of the dialog that opens in it. -/
theorem messages_concat (turns : List (Turn Handle)) (t : Turn Handle) :
    messages (turns ++ [t]) = messages turns ++ (t.concern.bind Concern.message?).toList := by
  rw [messages, messages, List.filterMap_append]
  show _ ++ List.filterMap message? [t] = _ ++ t.message?.toList
  cases ht : t.message? <;> simp [ht]

/-- A turn stages a text, uses the one that was staged up, or leaves it. -/
theorem staged_concat (turns : List (Turn Handle)) (t : Turn Handle) :
    staged (turns ++ [t]) =
      match t.concern with
      | some (.opens _) => none
      | some (.stages text) => some text
      | _ => staged turns := by
  have hmessage : t.message? = t.concern.bind Concern.message? := rfl
  have htext : t.text? = t.concern.bind Concern.text? := rfl
  unfold staged
  rw [List.rtakeWhile_concat]
  cases hconcern : t.concern with
  | none =>
    rw [hconcern] at hmessage htext
    simp [hmessage, htext]
  | some concern =>
    rw [hconcern] at hmessage htext
    cases concern <;> simp [hmessage, htext, Concern.message?, Concern.text?]

/-- Nothing that was staged before a dialog opened is left for the dialogs after it. -/
theorem staged_append_dialogOpens (earlier : List (Turn Handle)) (dialog : Handle)
    (message : String) (between : List (Turn Handle)) :
    staged (earlier ++ .dialogOpens dialog message :: between) = staged between := by
  -- by induction on the turns after the dialog: each counts for both sides in the same way
  induction between using List.reverseRecOn with
  | nil => exact staged_concat earlier _
  | append_singleton between t ih =>
    rw [← List.cons_append, ← List.append_assoc, staged_concat, staged_concat, ih]

/-- A turn acknowledges a dialog when it is one that does and was answered without a fault. -/
theorem acknowledged_concat {turns : List (Turn Handle)}
    {answers : List (Except Fault (Datum Handle))} (hlength : turns.length = answers.length)
    (t : Turn Handle) (answer : Except Fault (Datum Handle)) :
    acknowledged (turns ++ [t]) (answers ++ [answer]) = acknowledged turns answers +
      if t.concern == some .acknowledges && answer.isOk then 1 else 0 := by
  unfold acknowledged
  rw [List.zip_append hlength, List.countP_append, List.zip_cons_cons, List.zip_nil_right,
    List.countP_singleton]

end Turn

/-- The dialogs after a turn with some concern. -/
def Dialogs.after (d : Dialogs) : Option Concern → Dialogs
  | none => d
  | some (.opens message) => (d.opened message).2
  | some (.stages text) => d.stage (some text)
  | some .acknowledges => { d with pending := d.pending.tail }

namespace Session

open Work

variable {E : Engine Handle World} {s : Session Handle} {w : World}

/-! ## Work that leaves the dialogs alone -/

/-- The work does nothing to the dialogs of the session, whether it fails or not. -/
def Spares (E : Engine Handle World) (work : BlockingWork Handle α) : Prop :=
  ∀ s w, (run E work s w).1.2.dialogs = s.dialogs

namespace Spares

/-- Work that only reads spares the dialogs. -/
theorem of_reads {work : BlockingWork Handle α} (h : Reads E work) : Spares E work :=
  fun s w => congrArg dialogs (h s w)

/-- So does a call of the engine, whatever it answers. -/
theorem ask (call : EngineCall Handle β) : Spares E (ask call) := .of_reads (.ask call)

/-- So does a change of what else the session holds. -/
theorem change {f : Session Handle → Session Handle} (h : ∀ s, (f s).dialogs = s.dialogs) :
    Spares E (change f) :=
  fun s _ => h s

/-- Work that goes on from work that spares them spares them. -/
theorem bind {work : BlockingWork Handle α} {f : α → BlockingWork Handle β}
    (hwork : Spares E work) (hf : ∀ a, Spares E (f a)) : Spares E (work >>= f) := by
  intro s w
  have h := hwork s w
  rcases hrun : run E work s w with ⟨⟨e | a, s'⟩, w'⟩ <;> rw [hrun] at h <;> rw [run_bind, hrun]
  · exact h
  · exact (hf a s' w').trans h

/-- Work on the current page spares them, also when there is no page. -/
theorem onPage {f : Handle → BlockingWork Handle β} (hf : ∀ page, Spares E (f page)) :
    Spares E (currentPage >>= f) :=
  .bind (.of_reads .currentPage) hf

/-- Saying what the session was doing spares them. -/
theorem translating {work : BlockingWork Handle α} (hwork : Spares E work) (action : String) :
    Spares E (work.translating action) := by
  intro s w
  have h := hwork s w
  rcases hrun : run E work s w with ⟨⟨e | a, s'⟩, w'⟩ <;> rw [hrun] at h <;>
    rw [run_translating, hrun]
  · dsimp only
    split <;> exact h
  · exact h

/-- What is done last must spare them, too. -/
theorem ensuring {work : BlockingWork Handle α} {last : BlockingWork Handle Unit}
    (hwork : Spares E work) (hlast : Spares E last) : Spares E (work.ensuring last) := by
  intro s w
  have h := hwork s w
  rcases hrun : run E work s w with ⟨⟨r, s'⟩, w'⟩
  have hended := hlast s' w'
  rcases hend : run E last s' w' with ⟨⟨e | u, s''⟩, w''⟩ <;> rw [hrun] at h <;>
    rw [hend] at hended <;> rw [run_ensuring, hrun] <;> dsimp only <;> rw [hend] <;>
    exact hended.trans h

/-- By induction on the items of a loop. -/
theorem forIn {step : β → α → BlockingWork Handle (ForInStep α)}
    (hstep : ∀ b a, Spares E (step b a)) (items : List β) (a : α) :
    Spares E (forIn items a step) := by
  induction items generalizing a with
  | nil =>
    rw [List.forIn_nil]
    exact .of_reads (.pure a)
  | cons b items ih =>
    rw [List.forIn_cons]
    refine .bind (hstep b a) fun next => ?_
    cases next with
    | done a => exact .of_reads (.pure a)
    | yield a => exact ih a

/-- Dropping the answer spares them. -/
theorem silently {work : BlockingWork Handle Unit} (h : Spares E work) : Spares E (silently work) :=
  h.bind fun _ => .of_reads (.pure _)

/-- Moving the focus changes the page only. -/
theorem focus (page : Handle) : Spares E (focus page) :=
  .bind (.change fun _ => rfl) fun _ => .ask _

/-- Starting holds new things, and no dialog. -/
theorem start : Spares E start := by
  refine .bind (.of_reads fun _ _ => rfl) fun s => .bind (.ask _) fun driver => ?_
  refine .bind (.change fun _ => rfl) fun _ => .bind (.ask _) fun browser => ?_
  refine .bind (.change fun _ => rfl) fun _ => .bind (.ask _) fun context => ?_
  refine .bind (.change fun _ => rfl) fun _ => .bind (.ask _) fun _ => ?_
  exact .bind (.ask _) fun page => .change fun _ => rfl

/-- Stopping lets go of the parts that are held, never of the dialogs. -/
theorem stop : Spares E stop := by
  intro s w
  rw [run_stop]
  dsimp only
  cases lastFault (giveAllBack E s (partsTried E s w) w).1 <;> rfl

/-- Moving the window is calls only. -/
theorem setWindowPosition (corner : Point) : Spares E (setWindowPosition corner) := by
  refine .bind (.of_reads fun _ _ => rfl) fun s => .bind (.of_reads (.expect _)) fun _ => ?_
  refine .translating (.onPage fun page => .bind (.ask _) fun context => ?_) _
  refine .bind (.ask _) fun inspector => .ensuring (.bind (.ask _) fun window => ?_) (.ask _)
  refine .bind (.forIn (fun bounds _ => ?_) _ _) fun _ => .of_reads (.pure _)
  exact .bind (.of_reads (.read _)) fun _ => .bind (.ask _) fun _ => .of_reads (.pure _)

section Turns

variable [DecidableEq Handle]

/-- Closing a tab changes the page only. -/
theorem closeTab : Spares E closeTab := by
  refine .onPage fun page => .bind (.ask _) fun context => .translating (.bind (.ask _) ?_) _
  intro tabs
  cases tabs.idxOf? page with
  | none => exact .of_reads fun _ _ => rfl
  | some closed =>
    refine .bind (.ask _) fun _ => .bind (.ask _) fun remaining => ?_
    cases (Tabs.focusAfterClose closed remaining.length).bind fun n => remaining[n]? with
    | none => exact .change fun _ => rfl
    | some next => exact .focus next

/-- A command that is not about dialogs leaves them alone. -/
theorem perform {γ : Type} {c : Command Handle (Datum Handle) γ}
    (hc : (Turn.command c).concern = none) : Spares E (perform c) := by
  cases c with
  | findElements criterion within =>
    cases within with
    | some element => exact .translating (.ask _) _
    | none => exact .onPage fun page => .translating (.ask _) _
  | navigate url => exact .silently (.translating (.onPage fun _ => .ask _) _)
  | currentUrl => exact .onPage fun _ => .ask _
  | setWindowSize width height => exact .silently (.translating (.onPage fun _ => .ask _) _)
  | setWindowPosition x y => exact .silently (.setWindowPosition _)
  | maximiseWindow =>
    refine .silently (.translating (.onPage fun page => .bind (.ask _) fun screen => ?_) _)
    exact .bind (.of_reads (.read _)) fun _ => .bind (.of_reads (.read _)) fun _ => .ask _
  | newTab =>
    refine .silently (.translating (.onPage fun page => .bind (.ask _) fun context => ?_) _)
    exact .bind (.ask _) fun tab => .focus tab
  | newWindow =>
    refine .silently (.translating (.onPage fun page => .bind (.ask _) fun _ => ?_) _)
    exact .bind (.ask _) fun _ => .bind (.ask _) fun tab => .focus tab
  | switchTab position =>
    refine .silently (.translating (.onPage fun page => .bind (.bind (.ask _) fun _ => .ask _)
      fun tabs => ?_) _)
    exact .bind (.of_reads (.expect _)) fun tab => .focus tab
  | closeTab => exact .silently .closeTab
  | back => exact .silently (.translating (.onPage fun _ => .ask _) _)
  | forward => exact .silently (.translating (.onPage fun _ => .ask _) _)
  | refresh => exact .silently (.translating (.onPage fun _ => .ask _) _)
  | executeScript script arguments => exact .translating (.onPage fun _ => .ask _) _
  | text element => exact .translating (.ask _) _
  | «attribute» element name => exact .translating (.ask _) _
  | style element property => exact .translating (.ask _) _
  | click element => exact .silently (.translating (.ask _) _)
  | sendKeys element keys => exact .silently (.translating (.ask _) _)
  | clear element => exact .silently (.translating (.ask _) _)
  | selectByText element option => exact .silently (.translating (.ask _) _)
  | selectByValue element option => exact .silently (.translating (.ask _) _)
  | selectedOptionText element =>
    exact .translating (.bind (.ask _) fun _ => .of_reads (.expect _)) _
  | selectedOptionValue element =>
    exact .translating (.bind (.ask _) fun _ => .of_reads (.expect _)) _
  | tagName element => exact .translating (.ask _) _
  | isEnabled element => exact .translating (.ask _) _
  | isSelected element =>
    refine .bind (.translating (.bind (.ask _) fun _ => ?_) _) fun _ => .of_reads (.pure _)
    exact .of_reads (.pure _)
  | isDisplayed element => exact .translating (.ask _) _
  | location element =>
    refine .of_reads (.bind (.bind (.translating (.ask _) _) fun box => ?_) fun _ => .pure _)
    exact .ite _ (.bind (.read _) fun _ => .bind (.read _) fun _ => .pure _) (.pure _)
  | size element =>
    refine .of_reads (.bind (.bind (.translating (.ask _) _) fun box => ?_) fun _ => .pure _)
    exact .ite _ (.bind (.read _) fun _ => .bind (.read _) fun _ => .pure _) (.pure _)
  | elementId element => exact .translating (.bind (.ask _) fun _ => .of_reads (.pure _)) _
  | alertPresent => exact .of_reads fun _ _ => rfl
  | alertText =>
    exact .of_reads (.bind (.bind (fun _ _ => rfl) fun _ => .expect _) fun _ => .pure _)
  | quit => exact .silently .stop
  | acceptAlert => cases hc
  | dismissAlert => cases hc
  | alertSendKeys keys => cases hc

/-- A turn that is not about dialogs leaves them alone. -/
theorem turn {t : Turn Handle} (ht : t.concern = none) : Spares E t.work := by
  cases t with
  | start => exact .silently .start
  | stop => exact .silently .stop
  | command c => exact .perform ht
  | dialogOpens dialog message => cases ht

end Turns

end Spares

/-! ## One turn -/

/-- The session with these messages left to acknowledge. -/
def withPending (s : Session Handle) (messages : List String) : Session Handle :=
  { s with dialogs := { s.dialogs with pending := messages } }

/-- Nothing can be acknowledged when every dialog has been. -/
theorem acknowledge_of_nil {Call : Type → Type} (h : s.dialogs.pending = []) :
    (acknowledge : Work Call Handle String) s =
      .done (.error (Refusal.toFault .noAlert), s) := by
  have hnone : s.dialogs.acknowledge = .error .noAlert := by
    unfold Dialogs.acknowledge
    rw [h]
  show (((expect s.dialogs.acknowledge : Work Call Handle _) s).andThen _) = _
  rw [hnone]
  rfl

/-- The oldest message is given and taken away, without a call or a warning. -/
theorem acknowledge_of_cons {Call : Type → Type} {message : String} {rest : List String}
    (h : s.dialogs.pending = message :: rest) :
    (acknowledge : Work Call Handle String) s = .done (.ok message, s.withPending rest) := by
  have hsome : s.dialogs.acknowledge = .ok (message, { s.dialogs with pending := rest }) := by
    unfold Dialogs.acknowledge
    rw [h]
  show (((expect s.dialogs.acknowledge : Work Call Handle _) s).andThen _) = _
  rw [hsome]
  rfl

/-- Without a pending dialog there is nothing to acknowledge. -/
theorem run_acknowledge_of_nil (h : s.dialogs.pending = []) :
    run E acknowledge s w = ((.error (Refusal.toFault .noAlert), s), w) := by
  unfold run
  rw [acknowledge_of_nil h]
  rfl

/-- The oldest pending dialog is acknowledged first. -/
theorem run_acknowledge_of_cons {message : String} {rest : List String}
    (h : s.dialogs.pending = message :: rest) :
    run E acknowledge s w = ((.ok message, s.withPending rest), w) := by
  unfold run
  rw [acknowledge_of_cons h]
  rfl

/-- The warning about a dialog that is dismissed too late. -/
def lateDismissal (message : String) : String :=
  "Dialog " ++ Text.quote message ++ " was already accepted when it opened"

/-- Dismissing does not take back that the dialog was accepted. -/
theorem run_dismissAlert_of_cons {message : String} {rest : List String}
    (h : s.dialogs.pending = message :: rest) :
    run E dismissAlert s w =
      ((.ok (), s.withPending rest),
        if s.dialogs.accept then E.warn (lateDismissal message) w else w) := by
  rw [dismissAlert, run_bind, run_acknowledge_of_cons h]
  dsimp only
  rw [run_bind, run_held]
  show run E (if s.dialogs.accept then _ else _) _ w = _
  split <;> rfl

/-- A dialog is put on record before its answer is asked for, so it stays there when the answer
fails. -/
theorem run_dialogOpens (dialog : Handle) (message : String) :
    run E (dialogOpens dialog message) s w =
      let call : EngineCall Handle Unit :=
        if s.dialogs.accept then .acceptDialog dialog s.dialogs.staged else .dismissDialog dialog
      (((E.answer call w).1, { s with dialogs := (s.dialogs.opened message).2 }),
        (E.answer call w).2) := by
  show run E (if s.dialogs.accept then _ else _) _ w = _
  dsimp only
  split <;> rfl

/-- Dropping the answer drops nothing else. -/
theorem run_silently (work : BlockingWork Handle Unit) :
    run E (silently work) s w =
      (((run E work s w).1.1.map fun _ => .null, (run E work s w).1.2), (run E work s w).2) := by
  rw [silently, run_bind]
  rcases run E work s w with ⟨⟨e | u, s'⟩, w'⟩ <;> rfl

/-- Accepting an alert is acknowledging it. -/
theorem run_perform_acceptAlert [DecidableEq Handle] :
    run E (perform (.acceptAlert : Command Handle (Datum Handle) Unit)) s w =
      (((run E acknowledge s w).1.1.map fun _ => .null, (run E acknowledge s w).1.2),
        (run E acknowledge s w).2) := by
  rw [perform, run_bind]
  rcases run E acknowledge s w with ⟨⟨e | message, s'⟩, w'⟩ <;> rfl

section Turns

variable [DecidableEq Handle]

/-- An acknowledgement fails and changes nothing when every dialog has been acknowledged. -/
theorem run_of_nil {t : Turn Handle} (ht : t.concern = some .acknowledges)
    (h : s.dialogs.pending = []) :
    run E t.work s w = ((.error (Refusal.toFault .noAlert), s), w) := by
  rcases Turn.eq_of_acknowledges ht with rfl | rfl
  · rw [Turn.work, run_perform_acceptAlert, run_acknowledge_of_nil h]
    rfl
  · rw [Turn.work, perform, run_silently, dismissAlert, run_bind, run_acknowledge_of_nil h]
    rfl

/-- An acknowledgement takes the oldest message away and nothing else. -/
theorem run_of_cons {t : Turn Handle} (ht : t.concern = some .acknowledges) {message : String}
    {rest : List String} (h : s.dialogs.pending = message :: rest) :
    (run E t.work s w).1 = (.ok .null, s.withPending rest) := by
  rcases Turn.eq_of_acknowledges ht with rfl | rfl
  · rw [Turn.work, run_perform_acceptAlert, run_acknowledge_of_cons h]
    rfl
  · rw [Turn.work, perform, run_silently, run_dismissAlert_of_cons h]
    rfl

/-- A turn that acknowledges goes well exactly when a dialog is pending. -/
theorem isOk_run {t : Turn Handle} (ht : t.concern = some .acknowledges) :
    (run E t.work s w).1.1.isOk = s.dialogs.present := by
  unfold Dialogs.present
  cases h : s.dialogs.pending with
  | nil =>
    rw [run_of_nil ht h]
    rfl
  | cons message rest =>
    rw [run_of_cons ht h]
    rfl

/-- What a turn makes of the dialogs depends on its concern only. -/
theorem dialogs_run (t : Turn Handle) :
    (run E t.work s w).1.2.dialogs = s.dialogs.after t.concern := by
  cases hconcern : t.concern with
  | none => exact Spares.turn hconcern s w
  | some concern =>
    cases concern with
    | opens message =>
      obtain ⟨dialog, rfl⟩ := Turn.eq_of_opens hconcern
      rw [Turn.work, run_silently, run_dialogOpens]
      rfl
    | stages text =>
      rw [Turn.eq_of_stages hconcern]
      rfl
    | acknowledges =>
      rw [Dialogs.after]
      cases h : s.dialogs.pending with
      | nil =>
        rw [run_of_nil hconcern h, List.tail_nil, ← h]
      | cons message rest =>
        rw [run_of_cons hconcern h]
        rfl

/-! ## Histories -/

/-- The last turn of a life goes on from what the others left. -/
theorem live_concat (turns : List (Turn Handle)) (t : Turn Handle) :
    live E (turns ++ [t]) s w =
      let (answers, s₁, w₁) := live E turns s w
      let ((answer, s₂), w₂) := run E t.work s₁ w₁
      (answers ++ [answer], s₂, w₂) := by
  induction turns generalizing s w with
  | nil => rfl
  | cons first turns ih =>
    have hrest := ih (s := (run E first.work s w).1.2) (w := (run E first.work s w).2)
    simp only [live, following, List.cons_append] at hrest ⊢
    rw [hrest]

/-- What the dialogs of a session are after some turns that gave these answers: those that opened,
without the first ones as many as there were acknowledgements, and the text that was staged since
the last one. -/
structure Remembers (turns : List (Turn Handle)) (answers : List (Except Fault (Datum Handle)))
    (d : Dialogs) : Prop where
  accept : d.accept = true
  staged : d.staged = Turn.staged turns
  count : Turn.acknowledged turns answers ≤ (Turn.messages turns).length
  pending : d.pending = (Turn.messages turns).drop (Turn.acknowledged turns answers)

namespace Remembers

variable {turns : List (Turn Handle)} {answers : List (Except Fault (Datum Handle))}

omit [DecidableEq Handle] in
/-- No dialog opens and none is acknowledged. -/
theorem of_eq {turns' : List (Turn Handle)} {answers' : List (Except Fault (Datum Handle))}
    {d d' : Dialogs} (h : Remembers turns answers d) (haccept : d'.accept = d.accept)
    (hstaged : d'.staged = Turn.staged turns') (hpending : d'.pending = d.pending)
    (hmessages : Turn.messages turns' = Turn.messages turns)
    (hcount : Turn.acknowledged turns' answers' = Turn.acknowledged turns answers) :
    Remembers turns' answers' d' := by
  refine ⟨haccept.trans h.accept, hstaged, ?_, ?_⟩
  · rw [hmessages, hcount]
    exact h.count
  · rw [hmessages, hcount, hpending]
    exact h.pending

/-- One turn more, whatever it is about and whether it fails or not. -/
theorem step (h : Remembers turns answers s.dialogs) (hlength : turns.length = answers.length)
    (t : Turn Handle) :
    Remembers (turns ++ [t]) (answers ++ [(run E t.work s w).1.1])
      (run E t.work s w).1.2.dialogs := by
  have hcount := Turn.acknowledged_concat hlength t (run E t.work s w).1.1
  have hmessages := Turn.messages_concat turns t
  have hstaged := Turn.staged_concat turns t
  rw [dialogs_run]
  cases hconcern : t.concern with
  | none =>
    rw [hconcern] at hcount hmessages hstaged
    have hsame := hmessages.trans (List.append_nil _)
    exact h.of_eq rfl (h.staged.trans hstaged.symm) rfl hsame hcount
  | some concern =>
    rw [hconcern] at hcount hmessages hstaged
    cases concern with
    | stages text =>
      have hsame := hmessages.trans (List.append_nil _)
      exact h.of_eq rfl hstaged.symm rfl hsame hcount
    | opens message =>
      refine ⟨h.accept, hstaged.symm, ?_, ?_⟩
      · rw [hmessages, hcount, List.length_append]
        exact Nat.le_add_right_of_le h.count
      · rw [hmessages, hcount]
        show s.dialogs.pending ++ [message] = List.drop _ (_ ++ [message])
        rw [h.pending]
        exact (List.drop_append_of_le_length h.count).symm
    | acknowledges =>
      have hsame := hmessages.trans (List.append_nil _)
      rw [isOk_run hconcern] at hcount
      have hpending := h.pending
      cases hqueue : s.dialogs.pending with
      | nil =>
        -- the acknowledgement fails, and is not counted
        rw [Dialogs.present, hqueue] at hcount
        refine h.of_eq rfl (h.staged.trans hstaged.symm) ?_ hsame hcount
        show s.dialogs.pending.tail = s.dialogs.pending
        rw [hqueue, List.tail_nil]
      | cons message rest =>
        rw [Dialogs.present, hqueue] at hcount
        -- a message is left, so there were fewer acknowledgements than dialogs
        have hleft : Turn.acknowledged turns answers < (Turn.messages turns).length := by
          rw [← List.drop_eq_nil_iff.not.trans Nat.not_le, ← hpending, hqueue]
          exact List.cons_ne_nil message rest
        refine ⟨h.accept, h.staged.trans hstaged.symm, ?_, ?_⟩
        · rw [hsame, hcount]
          exact hleft
        · rw [hsame, hcount]
          show s.dialogs.pending.tail = List.drop (_ + 1) _
          rw [hpending, List.tail_drop]

/-- What a session remembers at a moment of its life. -/
theorem of_live (hs : s.dialogs = { accept := true }) (turns : List (Turn Handle)) :
    turns.length = (live E turns s w).1.length ∧
      Remembers turns (live E turns s w).1 (live E turns s w).2.1.dialogs := by
  induction turns using List.reverseRecOn with
  | nil =>
    refine ⟨rfl, ?_⟩
    show Remembers [] [] s.dialogs
    rw [hs]
    exact ⟨rfl, rfl, Nat.le_refl 0, rfl⟩
  | append_singleton turns t ih =>
    obtain ⟨hlength, hbefore⟩ := ih
    rw [live_concat]
    refine ⟨?_, hbefore.step hlength t⟩
    show (turns ++ [t]).length = ((live E turns s w).1 ++ [_]).length
    rw [List.length_append, List.length_append, hlength]
    rfl

end Remembers

/-! ## What a session says of its dialogs -/

/-- The oldest dialog that has not been acknowledged has this message: it is what the session tells
and what the next acknowledgement gives and takes away, with the rest left. -/
structure Alerting (E : Engine Handle World) (f : Flavour) (message : String) (rest : List String)
    (s : Session Handle) (w : World) : Prop where
  present : f.live E [.command .alertPresent] s w = ([.ok (.bool true)], s, w)
  text : f.live E [.command .alertText] s w = ([.ok (.text message)], s, w)
  acknowledged : ∀ {Call : Type → Type},
    (acknowledge : Work Call Handle String) s = .done (.ok message, s.withPending rest)
  accepted : f.live E [.command .acceptAlert] s w = ([.ok .null], s.withPending rest, w)
  dismissed : f.live E [.command .dismissAlert] s w =
    ([.ok .null], s.withPending rest, E.warn (lateDismissal message) w)

/-- Every dialog has been acknowledged: what needs one fails and changes nothing. -/
structure Unalerted (E : Engine Handle World) (f : Flavour) (s : Session Handle) (w : World) :
    Prop where
  present : f.live E [.command .alertPresent] s w = ([.ok (.bool false)], s, w)
  text : f.live E [.command .alertText] s w = ([.error (Refusal.toFault .noAlert)], s, w)
  accepted : f.live E [.command .acceptAlert] s w = ([.error (Refusal.toFault .noAlert)], s, w)
  dismissed : f.live E [.command .dismissAlert] s w =
    ([.error (Refusal.toFault .noAlert)], s, w)

/-- A life of one turn. -/
theorem live_singleton (t : Turn Handle) :
    live E [t] s w = ([(run E t.work s w).1.1], (run E t.work s w).1.2, (run E t.work s w).2) := rfl

/-- Asking whether there is an alert changes nothing. -/
theorem live_alertPresent :
    live E [.command .alertPresent] s w = ([.ok (.bool s.dialogs.present)], s, w) := rfl

/-- Nor does asking for its text. -/
theorem live_alertText :
    live E [.command .alertText] s w =
      ([(s.dialogs.text.mapError Refusal.toFault).map .text], s, w) := by
  rw [live_singleton, Turn.work, perform, alertText, run_bind, run_bind, run_held]
  dsimp only
  cases s.dialogs.text <;> rfl

/-- While a dialog is pending, the alert is there, has its text, and may be accepted or
dismissed. -/
theorem alerting_of_cons {message : String} {rest : List String} (f : Flavour)
    (haccept : s.dialogs.accept = true) (h : s.dialogs.pending = message :: rest) :
    Alerting E f message rest s w := by
  have hpresent : s.dialogs.present = true := by
    rw [Dialogs.present, h]
    rfl
  have htext : s.dialogs.text = .ok message := by
    rw [Dialogs.text, h]
  refine ⟨?_, ?_, acknowledge_of_cons h, ?_, ?_⟩
  · rw [f.live_eq, live_alertPresent, hpresent]
  · rw [f.live_eq, live_alertText, htext]
    rfl
  · rw [f.live_eq, live_singleton, Turn.work, run_perform_acceptAlert, run_acknowledge_of_cons h]
    rfl
  · rw [f.live_eq, live_singleton, Turn.work, perform, run_silently, run_dismissAlert_of_cons h,
      if_pos haccept]
    rfl

/-- While none is pending, whoever asks for it or answers it is refused. -/
theorem unalerted_of_nil (f : Flavour) (h : s.dialogs.pending = []) : Unalerted E f s w := by
  have hpresent : s.dialogs.present = false := by
    rw [Dialogs.present, h]
    rfl
  have htext : s.dialogs.text = .error .noAlert := by
    rw [Dialogs.text, h]
  refine ⟨?_, ?_, ?_, ?_⟩
  · rw [f.live_eq, live_alertPresent, hpresent]
  · rw [f.live_eq, live_alertText, htext]
    rfl
  · rw [f.live_eq, live_singleton, run_of_nil rfl h]
  · rw [f.live_eq, live_singleton, run_of_nil rfl h]

/-- A dialog is answered as it opens, with the text that is staged. -/
theorem live_dialogOpens (haccept : s.dialogs.accept = true) (dialog : Handle) (message : String) :
    live E [.dialogOpens dialog message] s w =
      let (answer, w') := E.answer (.acceptDialog dialog s.dialogs.staged) w
      ([answer.map fun _ => .null], { s with dialogs := (s.dialogs.opened message).2 }, w') := by
  rw [live_singleton, Turn.work, run_silently, run_dialogOpens]
  dsimp only
  rw [if_pos haccept]

/-- The dialogs of a session that accepts them, at any moment of its life. Of those that opened, as
many have been acknowledged as acknowledgements went well. The next one, if there is one, is the one
that the session tells and gives away; if there is none, what needs one fails. A dialog that opens
is accepted with the text that was staged last since the dialog before it opened, or with none. -/
theorem dialogs_in_order (E : Engine Handle World) (f : Flavour) (before : List (Turn Handle))
    (s : Session Handle) (w : World) (hs : s.dialogs = { accept := true }) :
    ∃ answers s₁ w₁, f.live E before s w = (answers, s₁, w₁) ∧
      let opened := Turn.messages before
      let n := Turn.acknowledged before answers
      s₁.dialogs = { accept := true, staged := Turn.staged before, pending := opened.drop n } ∧
      n ≤ opened.length ∧
      (∀ message, opened[n]? = some message →
        Alerting E f message (opened.drop (n + 1)) s₁ w₁) ∧
      (n = opened.length → Unalerted E f s₁ w₁) ∧
      (∀ dialog message, f.live E [.dialogOpens dialog message] s₁ w₁ =
        let (answer, w₂) := E.answer (.acceptDialog dialog (Turn.staged before)) w₁
        ([answer.map fun _ => .null], { s₁ with dialogs := (s₁.dialogs.opened message).2 }, w₂)) ∧
      ∀ earlier dialog message between, before = earlier ++ .dialogOpens dialog message :: between →
        Turn.staged before = Turn.staged between := by
  obtain ⟨-, hremembers⟩ := Remembers.of_live (E := E) (w := w) hs before
  rcases hlive : live E before s w with ⟨answers, s₁, w₁⟩
  rw [hlive] at hremembers
  rw [f.live_eq]
  refine ⟨answers, s₁, w₁, hlive, ?_⟩
  obtain ⟨haccept, hstaged, hcount, hpending⟩ := hremembers
  refine ⟨?_, hcount, ?_, ?_, ?_, ?_⟩
  · rw [← haccept, ← hstaged, ← hpending]
  · intro message hmessage
    obtain ⟨hlt, hget⟩ := List.getElem?_eq_some_iff.mp hmessage
    refine alerting_of_cons f haccept ?_
    rw [hpending, List.drop_eq_getElem_cons hlt, hget]
  · intro hall
    refine unalerted_of_nil f ?_
    rw [hpending, hall, List.drop_length]
  · intro dialog message
    rw [live_dialogOpens haccept, hstaged]
  · rintro earlier dialog message between rfl
    exact Turn.staged_append_dialogOpens earlier dialog message between

open Rehearsal (Piece)

/-- Two dialogs open, the first one with a text that was staged for it. After one acknowledgement
and one more text the second one is next, and a third one would get the new text. -/
theorem dialogs_in_order_second :
    ∃ answers s₁ w₁, Flavour.awaiting.live Rehearsal.engine
        [.command .acceptAlert, .command (.alertSendKeys "Ada"), .dialogOpens .dialog "Name?",
          .dialogOpens .dialog "Sure?", .command .dismissAlert, .command (.alertSendKeys "yes")]
        {} {} = (answers, s₁, w₁) ∧
      Alerting Rehearsal.engine .awaiting "Sure?" [] s₁ w₁ ∧
      s₁.dialogs.staged = some "yes" := by
  obtain ⟨answers, s₁, w₁, hlive, hdialogs, -, halert, -⟩ :=
    dialogs_in_order Rehearsal.engine .awaiting
      [.command .acceptAlert, .command (.alertSendKeys "Ada"), .dialogOpens .dialog "Name?",
        .dialogOpens .dialog "Sure?", .command .dismissAlert, .command (.alertSendKeys "yes")]
      {} {} rfl
  cases hlive
  exact ⟨_, _, _, rfl, halert "Sure?" rfl, congrArg Dialogs.staged hdialogs⟩

end Turns

end Session

end Walkthrough
