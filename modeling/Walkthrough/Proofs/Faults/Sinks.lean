import Walkthrough.Flow.Resource
import Walkthrough.Proofs.Behaviour.Basic
import Walkthrough.Proofs.Waiting.Attempts

/-!
# Sinks that throw

A line of the log goes to the sinks before the step that writes it is over, so a sink that throws
fails the step (`Flow.outcome_write`). Two flows go on from a line, in different ways.

Whatever reports a failure writes its line first and records it after that. It fails in any case,
but a sink that throws takes the place of the failure: what is left is what the sink has thrown, and
the failure is not among it (`Flow.failures_reported`, `Flow.failures_reported_drowned`).

A stopwatch does not look whether its lines were written. It runs its flow although the first line
has failed, and keeps its value although the last one has (`Flow.stopwatch_settles`,
`Flow.stopwatch_settles_unstarted`).
-/

namespace Walkthrough

variable {H : Host} {α β : Type} {d : Driver H}

/-- Hands a node of the log to the sinks, unless the run is muted or the node blank. The log stream
is not asked when the logging action throws. -/
def Host.tell (H : Host) (s : H.State) (node : Log) : Act H.World Unit :=
  if s.muted || node.isBlank then .ok ()
  else (H.logLine s.settings.sinks node.message node.indent).andThen fun _ =>
    H.publish s.settings.sinks node.record

/-- What a logging action throws that is broken. -/
abbrev Thrown.sinkBroke : Thrown := .fault ⟨"RuntimeError", "sink broke"⟩

/-- What becomes of it when it leaves a step. -/
abbrev Failure.sinkBroke : Failure := .ofThrown .sinkBroke none

/-- A host like `Host.refusing` whose logging action throws on some messages. -/
abbrev Host.throwingOn (breaks : String → Bool) : Host :=
  { Host.refusing with
    logLine := fun _ message _ =>
      if breaks message then .throw .sinkBroke else .ok () }

theorem Host.tell_throwingOn_of_false {breaks : String → Bool} {node : Log}
    (h : breaks node.message = false) (s : (Host.throwingOn breaks).State) (w : Nat) :
    (Host.throwingOn breaks).tell s node w = (.ok (), w) := by
  unfold Host.tell
  by_cases hquiet : (s.muted || node.isBlank) = true
  · rw [if_pos hquiet]
    rfl
  · have hline : (Host.throwingOn breaks).logLine s.settings.sinks node.message node.indent =
        .ok () := if_neg (by simp [h])
    rw [if_neg hquiet, hline]
    rfl

theorem Host.tell_throwingOn_of_true {breaks : String → Bool} {node : Log}
    {s : (Host.throwingOn breaks).State} (hs : s.muted = false) (hnode : node.isBlank = false)
    (h : breaks node.message = true) (w : Nat) :
    (Host.throwingOn breaks).tell s node w = (.error .sinkBroke, w) := by
  have hline : (Host.throwingOn breaks).logLine s.settings.sinks node.message node.indent =
      .throw .sinkBroke := if_pos h
  unfold Host.tell
  rw [hs, hnode, hline]
  rfl

/-- The state that a run under `Host.throwingOn` starts from, with no session. -/
abbrev Host.throwingOnStart (breaks : String → Bool) : (Host.throwingOn breaks).State :=
  (Host.throwingOn breaks).initialState none { sinks := () }

namespace Outcome

/-- The outcome of writing a line, by what the sinks do. -/
def written (s : H.State) (kind : LogKind) (message : String) : Except Thrown Unit → Outcome H Unit
  | .ok _ => .of () (s.withLine kind message)
  | .error e => .raised s e

end Outcome

/-! ## Lines -/

/-- Goes on in the world that the sinks have left, unless one of them has thrown. -/
def Program.afterSinks (r : Except Thrown Unit × H.World) (next : H.World → Program H α) :
    Program H α :=
  match r with
  | (.ok _, v) => next v
  | (.error e, v) => .raise e v

namespace Flow

variable {env : H.Env} {s : H.State} {w v : H.World}

theorem leads_sink (e : Effect H Unit) (w : H.World) (next : H.World → Program H α) :
    (Program.effect e w fun r w =>
      match r with
      | .error thrown => .raise thrown w
      | .ok _ => next w).Leads d [.request (.did e (H.perform e w).1)]
        (.afterSinks (H.perform e w) next) := by
  refine .effect ?_
  rcases H.perform e w with ⟨thrown | u, v⟩
  · rfl
  · rfl

theorem leads_announce (s : H.State) (node : Log) (w : H.World) (next : H.World → Program H α) :
    ∃ ms, (announce s node w next).Leads d ms (.afterSinks (H.tell s node w) next) := by
  unfold announce Host.tell
  by_cases hquiet : (s.muted || node.isBlank) = true
  · rw [if_pos hquiet, if_pos hquiet]
    exact ⟨[], .refl _⟩
  · rw [if_neg hquiet, if_neg hquiet]
    unfold Act.andThen
    have hline := leads_sink (α := α) (d := d)
      (.logLine s.settings.sinks node.message node.indent) w fun w =>
        .effect (.publish s.settings.sinks node.record) w fun r w =>
          match r with
          | .error thrown => .raise thrown w
          | .ok _ => next w
    dsimp only [Host.perform] at hline
    rcases hlogged : H.logLine s.settings.sinks node.message node.indent w with ⟨thrown | u, v⟩
    · rw [hlogged] at hline
      exact ⟨_, hline⟩
    · -- the record is published in the world that the logging action has left
      rw [hlogged] at hline
      exact ⟨_, hline.trans (leads_sink (.publish s.settings.sinks node.record) v next)⟩

/-- A line is in the log that is left when the sinks have taken it. Otherwise the step fails with
what was thrown, and the log is as it was. -/
theorem outcome_write (kind : LogKind) (message : String) (env : H.Env) (s : H.State)
    (w : H.World) :
    let sunk := H.tell s (s.line kind message) w
    let line := (write kind message).history d env s w
    line.outcome = .written s kind message sunk.1 ∧ line.world = sunk.2 := by
  intro sunk line
  obtain ⟨ms, hwrite⟩ : ∃ ms, (write kind message env s w).Leads d ms (.afterSinks sunk fun w =>
      .finish (.of () (s.withLine kind message)) w) := leads_announce ..
  have houtcome : line.outcome = _ := outcome_of_leads hwrite
  have hworld : line.world = _ := world_of_leads hwrite
  rw [houtcome, hworld]
  rcases sunk with ⟨e | u, v⟩
  · exact ⟨rfl, rfl⟩
  · exact ⟨rfl, rfl⟩

/-! ## Failures that are reported -/

/-- A failure whose line is written is recorded after it. -/
theorem outcome_fail_of_taken (f : Failure) (env : H.Env) (hs : s.failures = [])
    (hsunk : (H.tell s (s.line .error f.message) w).1 = .ok ()) :
    ((fail f : Flow H α).history d env s w).outcome =
      .fault (s.withLine .error f.message) f [] := by
  let line := (errorLine f.message).history d env s w
  have hline : line.outcome = .written s .error f.message _ := (outcome_write ..).1
  rw [hsunk, Outcome.written, Outcome.of_eq_success (s := s.withLine .error f.message) hs] at hline
  have hfail : ((fail f : Flow H α) env s w).Leads d ((errorLine f.message).trace d env s w)
      ((failure f []).endWith env (s.withLine .error f.message) line.world) := by
    refine .run ?_
    rw [hline]
    rfl
  rw [outcome_of_leads (hfail.trans (.endWith ..))]
  show ((failure f [] : Flow H α).history d env (s.withLine .error f.message) _).outcome = _
  rw [history_eq]
  rfl

/-- When its line cannot be written, the failure is not recorded, and what was thrown is. -/
theorem outcome_fail_of_thrown (f : Failure) (env : H.Env) {e : Thrown}
    (hsunk : (H.tell s (s.line .error f.message) w).1 = .error e) :
    ((fail f : Flow H α).history d env s w).outcome = .raised s e := by
  let line := (errorLine f.message).history d env s w
  have hline : line.outcome = .written s .error f.message _ := (outcome_write ..).1
  rw [hsunk] at hline
  have hfail : ((fail f : Flow H α) env s w).Leads d ((errorLine f.message).trace d env s w)
      (.finish (.raised s e) line.world) := by
    refine .run ?_
    rw [hline]
    rfl
  exact outcome_of_leads hfail

/-- A step that was started from `s` ends by reporting a failure in the world `w`. It fails, with
the failure when the sinks take its line, and otherwise with what one of them has thrown and without
the line. -/
structure Reports (o : Outcome H α) (s : H.State) (w : H.World) (f : Failure) : Prop where
  faulted : o.isFaulted = true
  told : (H.tell s (s.line .error f.message) w).1 = .ok () →
    o = .fault (s.withLine .error f.message) f []
  untold : ∀ e, (H.tell s (s.line .error f.message) w).1 = .error e → o = .raised s e

theorem reports_fail (f : Failure) (env : H.Env) (hs : s.failures = []) (w : H.World) :
    Reports ((fail f : Flow H α).history d env s w).outcome s w f := by
  refine ⟨?_, outcome_fail_of_taken f env hs, fun e => outcome_fail_of_thrown f env⟩
  rcases hsunk : (H.tell s (s.line .error f.message) w).1 with e | u
  · rw [outcome_fail_of_thrown f env hsunk]
    rfl
  · rw [outcome_fail_of_taken f env hs hsunk]
    rfl

/-- Ending as a flow that fails is reporting its failure. -/
theorem Reports.of_endWith {c : Flow H α} {f : Failure} {ms : List (Moment H)}
    (hs : s.failures = [])
    (h : (c env s w).Leads d ms ((fail f).endWith env s v)) :
    Reports (c.history d env s w).outcome s v f := by
  have hend : (c.history d env s w).outcome = ((fail f).history d env s v).outcome :=
    outcome_of_leads (h.trans (.endWith ..))
  rw [hend]
  exact reports_fail f env hs v

/-- What a call throws that is tried is wrapped with its label and reported. -/
theorem reports_tryCall {code : Act H.World (Reply H.World α)}
    {label : Thrown → Act H.World String} {thrown : Thrown} {l : String} {u : H.World}
    (env : H.Env) (hs : s.failures = []) (hcode : d.answer code w = (.error thrown, u))
    (hlabel : label thrown u = (.ok l, v)) :
    Reports ((tryCall code label).history d env s w).outcome s v (.ofThrown thrown (some l)) := by
  refine .of_endWith hs (.outside (d := d) (e := .code code) ?_)
  dsimp only [Host.perform]
  rw [hcode]
  dsimp only
  rw [hlabel]

/-- A step that reports a failure fails in any case: with the failure when the sinks take its line,
and otherwise with what one of them has thrown in its place. It is so for a flow that fails with
whatever it is given, for a call that throws while it is tried, whose failure then names as its
cause what was thrown, and for a wait that runs out of time. -/
theorem failures_reported (d : Driver H) (env : H.Env) {s : H.State} (hs : s.failures = [])
    (w : H.World) :
    (∀ f, Reports ((fail f : Flow H α).history d env s w).outcome s w f) ∧
      (∀ (code : Act H.World (Reply H.World α)) label thrown l u v,
        d.answer code w = (.error thrown, u) → label thrown u = (.ok l, v) →
          let f := Failure.ofThrown thrown (some l)
          f.cause = some thrown.toFault ∧
            Reports ((tryCall code label).history d env s w).outcome s v f) ∧
      ∀ (c : Flow H α) watch interval wait message v,
        (Wait.begun c watch interval wait env s w).TimesOut d w message v →
          Reports ((c.waitUntil watch interval wait).history d env s w).outcome s v
            (.ofMessage .timeout message) := by
  refine ⟨fun f => reports_fail f env hs w, fun code label thrown l u v hcode hlabel => ⟨?_, ?_⟩,
    fun c watch interval wait message v hlate => ?_⟩
  · cases thrown <;> rfl
  · exact reports_tryCall env hs hcode hlabel
  · obtain ⟨ms, hwait⟩ := leads_of_timesOut hlate
    exact .of_endWith hs hwait

/-- The line of a failed call breaks the logging action, and what is left is not the failure of the
call. A failure and a wait that is late are reported as they are, since their lines are taken. -/
theorem failures_reported_partly :
    let breaks : String → Bool := fun message => message = "shop: closed"
    let s := Host.throwingOnStart breaks
    let lost : Failure := .ofMessage .assertion "lost"
    let closed : Thrown := .fault ⟨"OSError", "closed"⟩
    let c : Flow (Host.throwingOn breaks) Unit := tryCall (.throw closed) fun _ => .ok "shop"
    let now : Option Span := some (.seconds 0)
    let watch : Watch (Host.throwingOn breaks) Unit := ⟨fun _ => .ok true, "the shop", none⟩
    let late : Failure := .ofMessage .timeout "Timed out after 0s waiting for the shop"
    s.failures = [] ∧
      ((fail lost : Flow (Host.throwingOn breaks) Unit).history .blocking () s
        (0 : Nat)).outcome.failures = [lost] ∧
      (c.history .blocking () s (0 : Nat)).outcome.failures = [.sinkBroke] ∧
      (((pure ()).waitUntil watch now now).history .blocking () s
        (0 : Nat)).outcome.failures = [late] := by
  intro breaks s lost closed c now watch late
  obtain ⟨hfail, htried, hwait⟩ :=
    failures_reported (H := Host.throwingOn breaks) (α := Unit) .blocking () (s := s) rfl (0 : Nat)
  refine ⟨rfl, ?_, ?_, ?_⟩
  · have htaken : breaks lost.message = false := by decide +kernel
    rw [(hfail lost).told (congrArg Prod.fst (Host.tell_throwingOn_of_false htaken s (0 : Nat)))]
    rfl
  · obtain ⟨-, hreports⟩ := htried (.throw closed) (fun _ => .ok "shop") closed "shop" (0 : Nat)
      (0 : Nat) rfl rfl
    have hbroke : breaks (Failure.ofThrown closed (some "shop")).message = true := by
      decide +kernel
    rw [hreports.untold .sinkBroke (congrArg Prod.fst
      (Host.tell_throwingOn_of_true rfl (by decide +kernel) hbroke (0 : Nat)))]
    rfl
  · let x := Wait.begun (pure ()) watch now now () s (0 : Nat)
    have hattempt : x.attempt .blocking (0 : Nat) =
        ((pure () : Flow (Host.throwingOn breaks) Unit) () s (0 : Nat)).history .blocking s :=
      history_eq ..
    have hvalue : (x.attempt .blocking (0 : Nat)).outcome = .success () s rfl :=
      congrArg History.outcome hattempt
    have hjudged : x.judged .blocking (0 : Nat) = (.ok true, (0 : Nat)) := by
      rw [Wait.judged_of_success hvalue, hattempt]
      rfl
    have hup : x.timeout ≤ x.elapsed .blocking (0 : Nat) := by
      unfold Wait.elapsed
      decide +kernel
    have hwords : "Timed out after " ++ Number.general x.timeout ++ "s waiting for " ++ "the shop" =
        late.message := by
      decide +kernel
    have hlate : x.TimesOut .blocking (0 : Nat) late.message (0 : Nat) :=
      .intro (.here _) (Nat.zero_le _) hvalue hjudged hup
        (congrArg (fun message => (Except.ok message, (0 : Nat))) hwords)
    have htaken : breaks late.message = false := by decide +kernel
    rw [(hwait (pure ()) watch now now _ _ hlate).told
      (congrArg Prod.fst (Host.tell_throwingOn_of_false htaken s (0 : Nat)))]
    rfl

/-- A flow fails, and its logging action throws on the line of the failure: the run has failed with
what was thrown, and the failure is lost. -/
theorem failures_reported_drowned :
    let breaks : String → Bool := fun message => message = "boom"
    let s := Host.throwingOnStart breaks
    let boom : Failure := .ofMessage .assertion "boom"
    let run := (fail boom : Flow (Host.throwingOn breaks) Unit).history .blocking () s (0 : Nat)
    s.failures = [] ∧ run.outcome.failures = [.sinkBroke] ∧ boom ∉ run.outcome.failures := by
  intro breaks s boom run
  have hbroke : run.outcome.failures = [.sinkBroke] := by
    have hthrown : breaks boom.message = true := by decide +kernel
    have hraised : run.outcome = .raised s .sinkBroke :=
      outcome_fail_of_thrown boom () (congrArg Prod.fst
        (Host.tell_throwingOn_of_true rfl (by decide +kernel) hthrown (0 : Nat)))
    rw [hraised]
    rfl
  refine ⟨rfl, hbroke, fun hmem => ?_⟩
  rw [hbroke] at hmem
  have hsame : boom.kindName = Failure.sinkBroke.kindName :=
    congrArg Failure.kindName (List.mem_singleton.mp hmem)
  revert hsame
  decide

/-! ## Stopwatches -/

/-- What a stopwatch measures between two worlds. -/
def measured (began ended : H.World) : Duration :=
  .ofSeconds H.precision (H.precision.sub (H.now ended) (H.now began))

/-- The last line of a stopwatch. -/
def stopLine (H : Host) (elapsed : Duration) : String :=
  "Stop stopwatch, elapsed time: " ++ elapsed.clockText H.precision

section

variable {c : Flow H α} {started : Outcome H Unit} {u : H.World} {t : H.State}
  (hstarted : ((info "Start stopwatch").history d env s w).outcome = started)
  (hworld : ((info "Start stopwatch").history d env s w).world = u)

include hstarted hworld

/-- A flow that fails is the end of its stopwatch. -/
theorem leads_stopwatch_of_faulted {v : Option α} {unsound : t.failures ≠ []}
    (ho : (c.history d env started.state u).outcome = .faulted v t unsound) :
    (stopwatch c env s w).Leads d
      ((info "Start stopwatch").trace d env s w ++ c.trace d env started.state u)
      (.finish (.faulted none t unsound) (c.history d env started.state u).world) := by
  refine .run_trans ?_
  rw [hstarted, hworld]
  refine .run ?_
  rw [ho]

/-- After a flow that succeeds its stopwatch writes the time, and does not look how that went. -/
theorem leads_stopwatch_of_success {a : α} {sound : t.failures = []}
    (ho : (c.history d env started.state u).outcome = .success a t sound) :
    let ended := (c.history d env started.state u).world
    let elapsed := measured u ended
    let stop := (info (stopLine H elapsed)).history d env t ended
    (stopwatch c env s w).Leads d
      ((info "Start stopwatch").trace d env s w ++
        (c.trace d env started.state u ++ (info (stopLine H elapsed)).trace d env t ended))
      (.finish (.of (a, elapsed) stop.outcome.state) stop.world) := by
  intro ended elapsed stop
  refine .run_trans ?_
  rw [hstarted, hworld]
  refine .run_trans ?_
  rw [ho]
  exact .run rfl

end

/-- A stopwatch writes a line, runs its flow from the state that is left then, whether or not the
line was written, and ends as the flow does when the flow fails. When the flow succeeds, it writes
another line, and has the value and the time that was measured whether or not this line was written;
the outcome is faulted when it was not. -/
theorem stopwatch_settles (d : Driver H) (c : Flow H α) (env : H.Env) (s : H.State)
    (w : H.World) :
    let flow := stopwatch c
    let run := flow.history d env s w
    let sunk := H.tell s (s.line .info "Start stopwatch") w
    let start : Outcome H Unit := .written s .info "Start stopwatch" sunk.1
    let inner := c.history d env start.state sunk.2
    ∃ told,
      flow.trace d env s w = .entered ⟨flow, env, s, w⟩ ::
        ((info "Start stopwatch").trace d env s w ++ c.trace d env start.state sunk.2 ++ told ++
          [.left run.outcome]) ∧
      (∀ v t unsound, inner.outcome = .faulted v t unsound →
        told = [] ∧ run.outcome = .faulted none t unsound) ∧
      ∀ a t sound, inner.outcome = .success a t sound →
        let elapsed := measured sunk.2 inner.world
        let message := stopLine H elapsed
        told = (info message).trace d env t inner.world ∧
          ((H.tell t (t.line .info message) inner.world).1 = .ok () →
            run.outcome = .success (a, elapsed) (t.withLine .info message) sound) ∧
          ∀ e, (H.tell t (t.line .info message) inner.world).1 = .error e →
            run.outcome.value? = some (a, elapsed) ∧
              run.outcome.failures = [.ofThrown e none] := by
  intro flow run sunk start inner
  obtain ⟨hstarted, hworld⟩ := outcome_write (d := d) .info "Start stopwatch" env s w
  rcases ho : inner.outcome with ⟨a, t, sound⟩ | ⟨v, t, unsound⟩
  · let elapsed := measured sunk.2 inner.world
    obtain ⟨hstop, -⟩ := outcome_write (d := d) .info (stopLine H elapsed) env t inner.world
    have hflow : (flow env s w).Leads d _ _ := leads_stopwatch_of_success hstarted hworld ho
    have houtcome : run.outcome = .of (a, elapsed) _ := outcome_of_leads hflow
    refine ⟨(info (stopLine H elapsed)).trace d env t inner.world, ?_, ?_, ?_⟩
    · rw [trace_of_leads_finish hflow, ← List.append_assoc]
    · intro v t' unsound h
      cases h
    · intro a' t' sound' h
      cases h
      refine ⟨rfl, fun htaken => ?_, fun e hthrown => ?_⟩
      · rw [houtcome, info, hstop, htaken, Outcome.written, Outcome.state_of]
        exact Outcome.of_eq_success (s := t.withLine .info (stopLine H elapsed)) sound
      · rw [houtcome, info, hstop, hthrown, Outcome.value?_of, Outcome.failures, Outcome.state_of]
        refine ⟨rfl, ?_⟩
        show t.failures ++ [.ofThrown e none] = _
        rw [sound, List.nil_append]
  · have hflow : (flow env s w).Leads d _ _ := leads_stopwatch_of_faulted hstarted hworld ho
    refine ⟨[], ?_, ?_, ?_⟩
    · rw [trace_of_leads_finish hflow, List.append_nil]
    · intro v' t' unsound' h
      cases h
      exact ⟨rfl, outcome_of_leads hflow⟩
    · intro a t' sound h
      cases h

/-- The logging action throws on the first line, and the flow still has its effect on the world.
When it throws on the last line, the outcome is faulted and has a value with a time. -/
theorem stopwatch_settles_unstarted :
    let unstarted : String → Bool := fun message => message = "Start stopwatch"
    let unstopped : String → Bool := fun message => message ≠ "Start stopwatch"
    let counted : Act Nat (Reply Nat Nat) := fun w => (.ok (.value w), w + 1)
    let start := (info "Start stopwatch" : Flow (Host.throwingOn unstarted) Unit).history .blocking
      () (Host.throwingOnStart unstarted) (0 : Nat)
    let first := (stopwatch (lift counted : Flow (Host.throwingOn unstarted) Nat)).history .blocking
      () (Host.throwingOnStart unstarted) (0 : Nat)
    let last := (stopwatch (lift counted : Flow (Host.throwingOn unstopped) Nat)).history .blocking
      () (Host.throwingOnStart unstopped) (0 : Nat)
    start.outcome.isFaulted = true ∧ first.world = (1 : Nat) ∧
      last.outcome.isFaulted = true ∧ last.outcome.value? = some (0, ⟨0⟩) := by
  intro unstarted unstopped counted start first last
  have hstart : start = (info "Start stopwatch" () (Host.throwingOnStart unstarted)
      (0 : Nat)).history .blocking (Host.throwingOnStart unstarted) := history_eq ..
  have hfirst : first = (stopwatch (lift counted) () (Host.throwingOnStart unstarted)
      (0 : Nat)).history .blocking (Host.throwingOnStart unstarted) := history_eq ..
  have hlast : last = (stopwatch (lift counted) () (Host.throwingOnStart unstopped)
      (0 : Nat)).history .blocking (Host.throwingOnStart unstopped) := history_eq ..
  rw [hstart, hfirst, hlast]
  decide +kernel

end Flow

end Walkthrough
