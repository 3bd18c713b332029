import Walkthrough.Proofs.Twin.Derived
import Walkthrough.Proofs.Twin.Mirrors

/-!
# The same flow with other sessions

A flow that is built for one host can be run under the host with other sessions behind the same
handles: `Flow.recast` asks the same of them, in the same places. A run under the first host that
asks nothing of what the other sessions answer differently is the same run under the second one
(`Flow.mirrors_recast`).

That one program is a copy of the other is a comparison of runs (`recasting`), so recasting goes
through every combinator, and a twin of a flow with the same code is the recast flow
(`Flow.recast_of_twin`). The conditions of a selector may run any flows. A selector that is recast,
with the code of its conditions, is compiled to the recast flow (`Selector.findAll_recast`).
-/

namespace Walkthrough

variable {H : Host} {α β : Type}

namespace Outcome

variable {calls : H.Caller}

/-- The outcome under a host with other sessions, seen from the first host. -/
def uncast : Outcome (H.answeringWith calls) α → Outcome H α
  | success a s h => success a s h
  | faulted a s h => faulted a s h

/-- Casting an outcome back and forth changes nothing. -/
@[simp] theorem uncast_recast (o : Outcome H α) : (o.recast calls).uncast = o := by
  cases o <;> rfl

/-- Nor the other way round. -/
@[simp] theorem recast_uncast (o : Outcome (H.answeringWith calls) α) :
    o.uncast.recast calls = o := by
  cases o <;> rfl

end Outcome

variable (calls : H.Caller)

/-- The effect, asked of other sessions. -/
def Effect.recast : {β : Type} → Effect H β → Effect (H.answeringWith calls) β
  | _, .call session command => .call session command
  | _, .code outside => .code outside
  | _, .logLine sinks message indent => .logLine sinks message indent
  | _, .publish sinks record => .publish sinks record
  | _, .complain severity message => .complain severity message

/-- The program, with other sessions behind the handles. -/
def Program.recast {α : Type} : Program H α → Program (H.answeringWith calls) α
  | finish o w => finish (o.recast calls) w
  | raise e w => raise e w
  | run step env s w next =>
    run (fun env s w => recast (step env s w)) env s w fun o w => recast (next o.uncast w)
  | effect e w next => effect (e.recast calls) w fun r w => recast (next r w)
  | sleep t w next => sleep t w fun r w => recast (next r w)
  | await code w next => await code w fun r w => recast (next r w)
  | unsupported shown w => unsupported shown w

/-- The flow, with other sessions behind the handles. -/
def Flow.recast (c : Flow H α) : Flow (H.answeringWith calls) α := fun env s w =>
  (c env s w).recast calls

/-- The driver that does the same about pauses and waits. -/
def Driver.recast (d : Driver H) : Driver (H.answeringWith calls) := ⟨d.sleep, d.await⟩

/-- The driver of the other host answers code as the first one does: sessions are no part of it. -/
theorem Driver.answer_recast (d : Driver H) (code : Act H.World (Reply H.World β)) (w : H.World) :
    (d.recast calls).answer code w = d.answer code w := by
  unfold answer
  rcases code w with ⟨e | reply, v⟩
  · rfl
  · cases reply <;> rfl

/-! ## Runs that notice nothing -/

/-- Whatever is asked here, the sessions answer as those of the host do. -/
def Host.Caller.AgreesOn (sightings : List H.Sighting) : Prop :=
  ∀ {β : Type} (handle : H.Session) (command : Command H.Element H.Datum β),
    .asked handle command ∈ sightings → calls β handle command = H.call handle command

variable {calls}

/-- Sessions that agree on some sightings agree on fewer. -/
theorem Host.Caller.AgreesOn.mono {few many : List H.Sighting} (h : calls.AgreesOn many)
    (hsub : few ⊆ many) : calls.AgreesOn few :=
  fun handle command hasked => h handle command (hsub hasked)

/-- The same is seen from outside. -/
theorem Effect.sightings_recast (e : Effect H β) (r : Except Thrown β) :
    (e.recast calls).sightings r = e.sightings r := by
  cases e <;> rfl

/-- An effect whose answer is not another one is performed as before. -/
theorem Effect.perform_recast {e : Effect H β} {r : Except Thrown β}
    (h : calls.AgreesOn (e.sightings r)) :
    (H.answeringWith calls).perform (e.recast calls) = H.perform e := by
  cases e with
  | call handle command => exact h handle command List.mem_cons_self
  | code code => rfl
  | logLine sinks message indent => rfl
  | publish sinks record => rfl
  | complain severity message => rfl

/-- By induction on the program: each request is answered as it was, so the program goes on from the
same answer. -/
theorem Program.mirrors_recast (d : Driver H) (p : Program H α) (start : H.State)
    (h : calls.AgreesOn (p.history d start).sightings) :
    p.Mirrors d (d.recast calls) start (p.recast calls) := by
  induction p generalizing start with
  | finish o w => exact .finish rfl w
  | raise e w => exact .raise e w
  | unsupported shown w => exact ⟨rfl, rfl, rfl⟩
  | run step env s w next ihStep ihNext =>
    have hevents : (run step env s w next).history d start =
        ((next ((step env s w).history d s).outcome ((step env s w).history d s).world).history d
          start).after (.started s :: ((step env s w).history d s).events ++
            [.ended ((step env s w).history d s).outcome]) := history_run d step env s w next start
    rw [hevents, History.sightings_after] at h
    have hstep := ihStep env s w s (h.mono fun x hx => by
      simp only [List.mem_append, List.flatMap_append, List.flatMap_cons]
      exact .inl (.inl (.inr hx)))
    have hnext := ihNext _ _ start (h.mono (List.subset_append_right _ _))
    have hrest : (recast calls (.run step env s w next)).history (d.recast calls) start =
        ((recast calls (next ((step env s w).history d s).outcome
          ((step env s w).history d s).world)).history (d.recast calls) start).after
            (.started s :: ((recast calls (step env s w)).history (d.recast calls) s).events ++
              [.ended ((recast calls (step env s w)).history (d.recast calls) s).outcome]) := by
      have hrun := history_run (d.recast calls) (Flow.recast calls step) env s w
        (fun o w => recast calls (next o.uncast w)) start
      have houtcome : ((Flow.recast calls step env s w).history (d.recast calls) s).outcome = _ :=
        hstep.outcome
      have hworld : ((Flow.recast calls step env s w).history (d.recast calls) s).world = _ :=
        hstep.world
      rw [houtcome, hworld, Outcome.uncast_recast, ← houtcome] at hrun
      exact hrun
    have hseen : ((recast calls (step env s w)).history (d.recast calls) s).events.flatMap
        Event.sightings = ((step env s w).history d s).events.flatMap Event.sightings :=
      hstep.sightings
    refine .of_after hevents hrest ?_ hnext
    simp only [List.flatMap_append, List.flatMap_cons, List.flatMap_nil, Event.sightings, hseen]
  | effect e w next ih =>
    have hevents : (effect e w next).history d start =
        ((next (H.perform e w).1 (H.perform e w).2).history d start).after
          [.did e (H.perform e w).1] := rfl
    rw [hevents, History.sightings_after] at h
    have hperform : (H.answeringWith calls).perform (e.recast calls) = H.perform e :=
      Effect.perform_recast (r := (H.perform e w).1) (h.mono fun x hx => by
        simpa [Event.sightings] using .inl hx)
    have hnext := ih _ _ start (h.mono (List.subset_append_right _ _))
    have hrest : (recast calls (.effect e w next)).history (d.recast calls) start =
        ((recast calls (next (H.perform e w).1 (H.perform e w).2)).history
          (d.recast calls) start).after [.did (e.recast calls) (H.perform e w).1] := by
      rw [← hperform]
      rfl
    refine .of_after hevents hrest ?_ hnext
    simp only [List.flatMap_cons, List.flatMap_nil, Event.sightings, Effect.sightings_recast]
  | sleep t w next ih =>
    have hevents : (sleep t w next).history d start =
        ((next (d.sleep t w).1 (d.sleep t w).2).history d start).after [.slept t] := rfl
    rw [hevents, History.sightings_after] at h
    exact .of_after hevents rfl rfl (ih _ _ start (h.mono (List.subset_append_right _ _)))
  | await code w next ih =>
    have hevents : (await code w next).history d start =
        ((next (d.await code w).1 (d.await code w).2).history d start).after
          [.awaited code (d.await code w).1] := rfl
    rw [hevents, History.sightings_after] at h
    exact .of_after hevents rfl rfl (ih _ _ start (h.mono (List.subset_append_right _ _)))

namespace Flow

/-- A run that asks nothing of what the other sessions answer differently ends with them as it did,
and the same is seen of it. -/
theorem mirrors_recast (d : Driver H) (c : Flow H α) (env : H.Env) (s : H.State) (w : H.World)
    (h : calls.AgreesOn (c.history d env s w).sightings) :
    (c env s w).Mirrors d (d.recast calls) s (c.recast calls env s w) := by
  rw [history_eq] at h
  exact Program.mirrors_recast d _ s h

end Flow

/-! ## Requests -/

variable (calls)

namespace Program

variable {s : H.State} {w : H.World}

/-- What follows a step goes on from its outcome, which is the same under both hosts. -/
theorem recast_run {c : Flow H β} {env : H.Env} {next : Outcome H β → H.World → Program H α}
    {next' : Outcome (H.answeringWith calls) β → H.World → Program (H.answeringWith calls) α}
    (h : ∀ o v, (next o v).recast calls = next' (o.recast calls) v) :
    (run c env s w next).recast calls = .run (c.recast calls) env s w next' := by
  refine congrArg (run (c.recast calls) env s w) (funext fun o => funext fun v => ?_)
  rw [h, Outcome.recast_uncast]

/-- Recasting goes through an effect, with the same effect asked of the other sessions. -/
theorem recast_effect {e : Effect H β} {next : Except Thrown β → H.World → Program H α}
    {next' : Except Thrown β → H.World → Program (H.answeringWith calls) α}
    (h : ∀ r v, (next r v).recast calls = next' r v) :
    (effect e w next).recast calls = .effect (e.recast calls) w next' :=
  congrArg (effect (e.recast calls) w) (funext fun r => funext fun v => h r v)

/-- Recasting goes through a pause. -/
theorem recast_sleep {t : Rat} {next : Except Thrown Unit → H.World → Program H α}
    {next' : Except Thrown Unit → H.World → Program (H.answeringWith calls) α}
    (h : ∀ r v, (next r v).recast calls = next' r v) :
    (sleep t w next).recast calls = .sleep t w next' := by
  simp only [recast, h]

/-- Recasting goes through an outside call. -/
theorem recast_outside {e : Effect H (Reply H.World β)}
    {next : Except Thrown β → H.World → Program H α}
    {next' : Except Thrown β → H.World → Program (H.answeringWith calls) α}
    (h : ∀ r v, (next r v).recast calls = next' r v) :
    (outside e w next).recast calls = .outside (e.recast calls) w next' := by
  refine recast_effect calls fun r v => ?_
  rcases r with e | b | code
  · exact h _ v
  · exact h _ v
  · simp only [resolve, recast, h]

/-- Recasting goes through the announcing of a line, which is no matter of sessions. -/
theorem recast_announce {node : Log} {next : H.World → Program H α}
    {next' : H.World → Program (H.answeringWith calls) α}
    (h : ∀ v, (next v).recast calls = next' v) :
    (Flow.announce s node w next).recast calls =
      (Flow.announce s node w next' : Program (H.answeringWith calls) α) := by
  unfold Flow.announce
  split
  · exact h w
  · refine recast_effect calls fun r v => ?_
    cases r with
    | error e => rfl
    | ok u =>
      refine recast_effect calls fun r v => ?_
      cases r with
      | error e => rfl
      | ok u => exact h v

/-- Recasting and changing the value may be done in either order. -/
theorem recast_map (f : α → β) (p : Program H α) :
    (p.map f).recast calls = (p.recast calls).map f := by
  induction p with
  | finish o w => simp only [Program.map, recast, Outcome.recast_map]
  | raise e w => rfl
  | run step env s w next _ ih => simp only [Program.map, recast, ih]
  | effect e w next ih => simp only [Program.map, recast, ih]
  | sleep t w next ih => simp only [Program.map, recast, ih]
  | await code w next ih => simp only [Program.map, recast, ih]
  | unsupported shown w => rfl

end Program

/-- Programs are alike when the second one is the first one, recast. -/
def recasting : H.Copying calls where
  asks e e' := e' = e.recast calls
  programs _ p p' := p.recast calls = p'
  finish _ _ := rfl
  raise _ _ := rfl
  run hc hnext := by
    have hstep : Flow.recast calls _ = _ :=
      funext fun env => funext fun s => funext fun w => hc env s w
    rw [← hstep]
    exact Program.recast_run calls hnext
  complain := Program.recast_effect calls
  sleep := Program.recast_sleep calls
  outside he hnext := by
    subst he
    exact Program.recast_outside calls hnext
  announce := Program.recast_announce calls
  map f h := by
    rw [Program.recast_map, h]

namespace Flow

/-- A flow is related to itself, recast. -/
theorem relates_recast (c : Flow H α) :
    (recasting calls).comparison.Relates c (c.recast calls) := by
  intro i env s s' w w' hs hw
  obtain rfl : s = s' := hs
  obtain rfl : w = w' := hw
  rfl

/-- What a flow is related to is the recast flow. -/
theorem recast_of_relates {c : Flow H α} {c' : Flow (H.answeringWith calls) α}
    (h : (recasting calls).comparison.Relates c c') : c.recast calls = c' :=
  funext fun env => funext fun s => funext fun w => h () env s s w w rfl rfl

/-- Twins with the same code are compared by recasting, so one is the other recast. -/
theorem relates_of_twin {c : Flow H α} {c' : Flow (H.answeringWith calls) α}
    (h : Twin calls (fun _ => Eq) c c') : (recasting calls).comparison.Relates c c' := by
  refine Host.Comparison.relates_of_twin (Host.Comparison.admits_copying fun he => ?_) h
  cases he with
  | code h => exact congrArg Effect.code h.symm
  | call handle command => rfl

/-- A twin that calls the same code is the recast flow. -/
theorem recast_of_twin {c : Flow H α} {c' : Flow (H.answeringWith calls) α}
    (h : Twin calls (fun _ => Eq) c c') : c.recast calls = c' :=
  recast_of_relates calls (relates_of_twin calls h)

end Flow

/-! ## Selectors -/

/-- The condition, with other sessions behind the handles. -/
def Condition.recast : Condition H → Condition (H.answeringWith calls)
  | atLeastOne => .atLeastOne
  | single => .single
  | present => .present
  | custom check => .custom fun found => (check found).map (Flow.recast calls)

/-- The step, with other sessions behind the handles. -/
def Step.recast : Step H → Step (H.answeringWith calls)
  | query criterion => .query criterion
  | filter condition description => .filter (condition.recast calls) description
  | waitFor condition description interval wait =>
    .waitFor (condition.recast calls) description interval wait
  | pick index => .pick index

/-- The selector, with other sessions behind the handles. -/
def Selector.recast (a : Selector H) : Selector (H.answeringWith calls) :=
  ⟨a.steps.map (Step.recast calls)⟩

/-- The named conditions are built of flows that are the same under both hosts. -/
theorem Condition.check_recast (found : List H.Element) (condition : Condition H) :
    Condition.check (H := H.answeringWith calls) found (condition.recast calls) =
      (condition.check found).map (Flow.recast calls) := by
  cases condition with
  | custom check => rfl
  | atLeastOne =>
    refine congrArg Act.ok ?_
    split
    · exact (Flow.recast_of_twin calls (.fail _)).symm
    · exact (Flow.recast_of_twin calls (.pure ())).symm
  | single =>
    refine congrArg Act.ok ?_
    match found with
    | [] => exact (Flow.recast_of_twin calls (.fail _)).symm
    | [_] => exact (Flow.recast_of_twin calls (.pure ())).symm
    | _ :: _ :: _ => exact (Flow.recast_of_twin calls (.fail _)).symm
  | present =>
    refine congrArg Act.ok ?_
    split
    · rfl
    · exact (Flow.recast_of_twin calls (.pure ())).symm

namespace Step

/-- A filter is recast with the code of its condition. -/
theorem relates_checked (condition : Condition H) {before : Flow H (List H.Element)}
    {before' : Flow (H.answeringWith calls) (List H.Element)}
    (h : (recasting calls).comparison.Relates before before') :
    (recasting calls).comparison.Relates (checked condition before)
      (checked (condition.recast calls) before') := by
  refine .bind h fun found => Act.coincides_of_injective (fun _ _ h => h) fun w => ?_
  rw [Condition.check_recast]
  unfold Act.map Act.andThen
  rcases condition.check found w with ⟨e | verdict, v⟩
  · exact .threw e rfl
  · exact .gave (.andThen (Flow.relates_recast calls verdict) (.pure found)) rfl

/-- The steps that are given nothing to look in and those that look in what was found. -/
theorem recast_compile (before : Option (Flow H (List H.Element))) (step : Step H) :
    (step.compile before).recast calls =
      (step.recast calls).compile (before.map (Flow.recast calls)) := by
  cases before with
  | none =>
    cases step with
    | query criterion => exact Flow.recast_of_twin calls (twin_lookUp criterion)
    | filter condition description => exact Flow.recast_of_twin calls (.fail _)
    | waitFor condition description interval wait => exact Flow.recast_of_twin calls (.fail _)
    | pick index => exact Flow.recast_of_twin calls (.fail _)
  | some before =>
    have hbefore := Flow.relates_recast calls before
    cases step with
    | query criterion =>
      exact Flow.recast_of_relates calls (.bind hbefore fun found _ _ hw =>
        .gave (Flow.relates_of_twin calls (twin_lookUpInsideAll criterion found)) hw)
    | filter condition description =>
      exact Flow.recast_of_relates calls (relates_checked calls condition hbefore)
    | waitFor condition description interval wait =>
      exact Flow.recast_of_relates calls
        (.waitUntilSucceeds (relates_checked calls condition hbefore) interval wait description)
    | pick index =>
      exact Flow.recast_of_relates calls (.bind hbefore fun found _ _ hw =>
        .gave (Flow.relates_of_twin calls (twin_pickFrom index found)) hw)

end Step

namespace Selector

/-- Steps may be recast before they are compiled or after it. -/
theorem compileSteps_recast (before : Option (Flow H (List H.Element))) (steps : List (Step H)) :
    compileSteps (before.map (Flow.recast calls)) (steps.map (Step.recast calls)) =
      (compileSteps before steps).map (Flow.recast calls) := by
  induction steps generalizing before with
  | nil => rfl
  | cons step steps ih =>
    have hstep := ih (some (step.compile before))
    rw [Option.map_some, Step.recast_compile] at hstep
    exact hstep

/-- A selector that is recast finds its elements by the recast flow. -/
theorem findAll_recast (a : Selector H) :
    (a.recast calls).findAll = a.findAll.recast calls := by
  have hsteps : compileSteps none (a.recast calls).steps =
      (compileSteps none a.steps).map (Flow.recast calls) := compileSteps_recast calls none a.steps
  unfold findAll compile
  rw [hsteps]
  cases compileSteps none a.steps with
  | none => exact (Flow.recast_of_twin calls (Step.twin_lookUp everything)).symm
  | some c => rfl

/-- Recasting changes no words. -/
theorem describe_recast (a : Selector H) : (a.recast calls).describe = a.describe := by
  have hstep (step : Step H) : (step.recast calls).description = step.description := by
    cases step <;> rfl
  unfold describe recast
  simp only [List.isEmpty_map, List.map_map, Function.comp_def, hstep]

end Selector

end Walkthrough
