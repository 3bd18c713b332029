import Walkthrough.Proofs.Selection.Stages
import Walkthrough.Proofs.Waiting.Success

/-!
# What a wait step finds is fresh

A wait step runs the steps before it again and again. When it finds elements, they are those that
the last run of these steps found, its condition has accepted exactly these right after that run,
and the state is the one that this run and the condition left behind
(`Selector.findAll_waitFor_fresh`). The page may have changed any number of times before.

A flow that is bound to another one succeeds when both do, one right after the other
(`Flow.success_of_bind`); the steps and their condition are joined in this way.
-/

namespace Walkthrough

variable {H : Host} {α β : Type} {d : Driver H}

/-- What is bound succeeds in two runs, the second one right after the first. -/
theorem Flow.success_of_bind {c : Flow H α} {f : α → Act H.World (Flow H β)} {env : H.Env}
    {s u : H.State} {w : H.World} {b : β} {sound : u.failures = []}
    (h : ((c.bind f).history d env s w).outcome = .success b u sound) :
    ∃ a t ht c' v, (c.history d env s w).outcome = .success a t ht ∧
      f a (c.history d env s w).world = (.ok c', v) ∧
      (c'.history d env t v).outcome = .success b u sound ∧
      (c.bind f).trace d env s w = .entered ⟨c.bind f, env, s, w⟩ ::
        (c.trace d env s w ++ c'.trace d env t v ++
          [.left ((c.bind f).history d env s w).outcome]) := by
  have hfirst : (c.bind f env s w).Leads d (c.trace d env s w) _ := .run rfl
  have houtcome := outcome_of_leads hfirst
  rw [h] at houtcome
  rcases ho : (c.history d env s w).outcome with ⟨a, t, ht⟩ | ⟨v, t, ht⟩
  · rw [ho] at hfirst houtcome
    dsimp only at hfirst houtcome
    rcases hmade : f a (c.history d env s w).world with ⟨e | c', v⟩
    · rw [hmade] at houtcome
      cases houtcome
    · rw [hmade] at hfirst houtcome
      have hsecond : (endWithMade (.ok c', v) env t).Leads d (c'.trace d env t v) _ :=
        .endWith c' env t v
      refine ⟨a, t, ht, c', v, rfl, hmade, ?_, ?_⟩
      · exact (hsecond.outcome s).symm.trans houtcome.symm
      · rw [trace_of_leads (hfirst.trans hsecond), Program.moments, List.append_nil]
  · rw [ho] at houtcome
    cases houtcome

/-- Elements that meet a condition are those that were found, and the condition is asked about these
right after they were. -/
theorem Step.success_of_checked {condition : Condition H} {before : Flow H (List H.Element)}
    {env : H.Env} {s u : H.State} {w : H.World} {found : List H.Element} {sound : u.failures = []}
    (h : ((checked condition before).history d env s w).outcome = .success found u sound) :
    ∃ t ht verdict v, (before.history d env s w).outcome = .success found t ht ∧
      condition.check found (before.history d env s w).world = (.ok verdict, v) ∧
      (verdict.history d env t v).outcome = .success () u sound ∧
      (checked condition before).trace d env s w = .entered ⟨checked condition before, env, s, w⟩ ::
        (before.trace d env s w ++ (verdict.andThen (.pure found)).trace d env t v ++
          [.left ((checked condition before).history d env s w).outcome]) := by
  obtain ⟨seen, t, ht, c', v, hbefore, hmade, hc', htrace⟩ := Flow.success_of_bind h
  obtain ⟨verdict, hcheck, rfl⟩ := Act.map_eq_ok hmade
  obtain ⟨⟨⟩, u', hu', c'', v', hverdict, hgiven, hpure, -⟩ := Flow.success_of_bind hc'
  cases hgiven
  rw [Flow.history_eq] at hpure
  cases (Outcome.of_eq_success hu').symm.trans hpure
  exact ⟨t, ht, verdict, v, hbefore, hcheck, hverdict, htrace⟩

namespace Selector

/-- After other steps a wait step waits for the elements of these steps to meet its condition. -/
theorem findAll_waitFor_eq {a : Selector H} (ha : a.steps ≠ []) (condition : Condition H)
    (description : String) (interval wait : Option Span) :
    (a.waitFor condition description interval wait).findAll =
      (Step.checked condition a.findAll).waitUntilSucceeds interval wait description :=
  findAll_append_eq ha ⟨[.waitFor condition description interval wait]⟩

/-- When the elements of a wait step are found, they are those of the last run of the steps before
it, which was started from the state that the wait was started from. The condition has accepted them
right after that run, and the state that is left is what these two made of the first one. Nothing is
run after them, and of the attempts before them no more than the world is left. -/
theorem findAll_waitFor_fresh (steady : d.Steady) (a : Selector H) (condition : Condition H)
    (description : String) (interval wait : Option Span) (env : H.Env) {s u : H.State}
    {w : H.World} {found : List H.Element} {sound : u.failures = []}
    (h : ((a.waitFor condition description interval wait).findAll.history d env s w).outcome =
      .success found u sound) :
    let flow := (a.waitFor condition description interval wait).findAll
    let c := Step.checked condition a.findAll
    let inner := (Flow.attempt c).waitUntil (Flow.succeedsWatch description) interval wait
    let x := Wait.begun (Flow.attempt c) (Flow.succeedsWatch description) interval wait env s w
    ∃ ws last t ht verdict v closed, x.Retried d w ws last ∧
      (a.findAll.history d env s last).outcome = .success found t ht ∧
      condition.check found (a.findAll.history d env s last).world = (.ok verdict, v) ∧
      (verdict.history d env t v).outcome = .success () u sound ∧
      flow.trace d env s w = .entered ⟨flow, env, s, w⟩ :: .entered ⟨inner, env, s, w⟩ ::
        (ws.flatMap (x.round d) ++
          [.entered ⟨Flow.attempt c, env, s, last⟩, .entered ⟨Flow.tagged c, env, s, last⟩,
            .entered ⟨c, env, s, last⟩] ++
          a.findAll.trace d env s last ++ (verdict.andThen (.pure found)).trace d env t v ++
          closed) ∧
      ∀ y, .entered y ∉ closed := by
  have ha : a.steps ≠ [] := by
    intro hnil
    obtain ⟨steps⟩ := a
    subst hnil
    cases (Flow.isFaulted_fail ..).symm.trans (congrArg Outcome.isFaulted h)
  intro flow c inner x
  have hflow : flow = c.waitUntilSucceeds interval wait description :=
    findAll_waitFor_eq ha condition description interval wait
  have hsuccess : ((c.waitUntilSucceeds interval wait description).history d env s w).outcome =
      .success found u sound := by
    rw [← hflow]
    exact h
  obtain ⟨ws, last, hretried, htrace, hc⟩ := Flow.success_of_waitUntilSucceeds steady hsuccess
  obtain ⟨t, ht, verdict, v, hfound, hcheck, hverdict, hchecked⟩ := Step.success_of_checked hc
  have hattempt := Flow.trace_of_leads (Flow.leads_attempt_of_success hc)
  have htagged := Flow.trace_of_leads (Flow.leads_map_of_success hc fun found =>
    (.ok found : Except Failure (List H.Element)))
  refine ⟨ws, last, t, ht, verdict, v,
    [.left (c.history d env s last).outcome, .left ((Flow.tagged c).history d env s last).outcome,
      .left ((Flow.attempt c).history d env s last).outcome,
      .left (inner.history d env s w).outcome, .left (flow.history d env s w).outcome],
    hretried, hfound, hcheck, hverdict, ?_, fun y => by simp⟩
  rw [hflow, htrace, hattempt, htagged, hchecked]
  simp only [Program.moments, List.append_assoc, List.cons_append, List.nil_append]
  rfl

/-- A host like `Host.refusing` whose every lookup finds one element, named after the number of
calls before it. -/
abbrev turning : Host :=
  { Host.refusing with
    Element := Nat
    ofElement := fun _ => ()
    call := fun _ command w =>
      match command with
      | .findElements _ _ => (.ok (.value [w]), w + 1)
      | _ => (.error (.fault ⟨"SessionError", "refused"⟩), w + 1) }

/-- A wait whose condition notes what it sees, and rejects it until it is the element of the third
lookup: the notes of the first two attempts are gone. -/
theorem findAll_waitFor_fresh_third :
    let s : turning.State := turning.initialState (some ()) { sinks := () }
    let a : Selector turning := .css "li"
    let condition : Condition turning := .custom fun found =>
      .ok ((Flow.info ("saw " ++ toString found)).andThen
        (if found = [(2 : Nat)] then .unit else .failWith "not yet"))
    let run := (a.waitFor condition "third" none none).findAll.history .blocking () s (0 : Nat)
    let x := Wait.begun (Flow.attempt (Step.checked condition a.findAll))
      (Flow.succeedsWatch "third") none none () s (0 : Nat)
    (Driver.blocking : Driver turning).Steady ∧
      run.outcome.state.log.lines = ["INFO: saw [2]"] ∧
      ∃ u sound, run.outcome = .success [(2 : Nat)] u sound ∧
        ∃ ws last t ht verdict v, x.Retried .blocking (0 : Nat) ws last ∧
          (a.findAll.history .blocking () s last).outcome = .success [(2 : Nat)] t ht ∧
          condition.check [(2 : Nat)] (a.findAll.history .blocking () s last).world =
            (.ok verdict, v) ∧
          (verdict.history .blocking () t v).outcome = .success () u sound := by
  intro s a condition run x
  have hrun : run = ((a.waitFor condition "third" none none).findAll () s (0 : Nat)).history
      .blocking s := Flow.history_eq ..
  have hvalue : run.outcome.value? = some [(2 : Nat)] := by
    rw [hrun]
    decide +kernel
  have hlines : run.outcome.state.log.lines = ["INFO: saw [2]"] := by
    rw [hrun]
    decide +kernel
  have hsound : run.outcome.isFaulted = false := by
    rw [hrun]
    decide +kernel
  refine ⟨Driver.steady_blocking, hlines, ?_⟩
  rcases ho : run.outcome with ⟨found, u, sound⟩ | ⟨v, u, unsound⟩
  · rw [ho] at hvalue
    cases hvalue
    obtain ⟨ws, last, t, ht, verdict, v, -, hretried, hfound, hcheck, hverdict, -⟩ :=
      findAll_waitFor_fresh Driver.steady_blocking a condition "third" none none () ho
    exact ⟨u, sound, rfl, ws, last, t, ht, verdict, v, hretried, hfound, hcheck, hverdict⟩
  · rw [ho] at hsound
    cases hsound

end Selector

end Walkthrough
