import Walkthrough.Assertion
import Walkthrough.Proofs.Composed.Basic

/-!
# What the library builds from its combinators

Failing, asking the session, selectors, snapshots, actions and assertions are all composed, so a
statement about composed flows is one about them. Each lemma says which kinds of steps it takes: a
snapshot tries an alternative when the identifier of an element cannot be read, a wait step of a
selector tries the steps before it again.
-/

namespace Walkthrough

variable {H : Host} {α β : Type} {k : Kit}

namespace Flow.Composed

theorem unit : (Flow.unit : Flow H Unit).Composed k := pure ()

theorem andThen {c : Flow H α} {d : Flow H β} (hc : c.Composed k) (hd : d.Composed k) :
    (c.andThen d).Composed k := by
  refine bind hc fun a w e w' h => ?_
  cases h
  exact hd

theorem orElse (allowed : k.alternation = true) {c d : Flow H α} (hc : c.Composed k)
    (hd : d.Composed k) : (c.orElse d).Composed k := by
  refine orElseWith allowed hc fun fs w e w' h => ?_
  cases h
  exact hd

theorem mapFail {c : Flow H α} (f : List Failure → Act H.World (List Failure))
    (hc : c.Composed k) : (c.mapFail f).Composed k := bimap .ok f hc

theorem asks (f : H.Env → Act H.World α) : (Flow.asks f).Composed k := map f ask

theorem fail (f : Failure) : (Flow.fail f : Flow H α).Composed k :=
  andThen (write .error f.message) (failure f [])

theorem failWith (message : String) : (Flow.failWith message : Flow H α).Composed k := fail _

theorem require (value : Option α) (label : String) :
    (Flow.require value label : Flow H α).Composed k := by
  cases value with
  | some a => exact pure a
  | none => exact failWith label

theorem tryCall (code : Act H.World (Reply H.World α)) (label : Thrown → Act H.World String) :
    (Flow.tryCall code label).Composed k := tryEffect _ label

theorem callSession (label : String) (command : Command H.Element H.Datum α) :
    (Flow.callSession label command : Flow H α).Composed k := by
  refine bind session fun handle w d w' h => ?_
  cases h
  exact tryEffect _ _

theorem forEach {values : List β} {f : β → Flow H α} (hf : ∀ b ∈ values, (f b).Composed k) :
    (Flow.forEach values f).Composed k := by
  refine sequence fun c hc => ?_
  obtain ⟨b, hb, rfl⟩ := List.mem_map.mp hc
  exact hf b hb

theorem ofBody {body : H.World → Body H α}
    (h : ∀ w {γ : Type} (c : Flow H γ), (body w).Offers c → c.Composed k) :
    (Flow.ofBody body).Composed k := by
  have hrecipe : (Flow.ofRecipe (.ok (.body body))).Composed k := by
    refine ofRecipe (fun w c w' hflow => nomatch hflow) fun w b w' hbody => ?_
    cases hbody
    exact h w
  exact hrecipe

end Flow.Composed

/-! ## Selectors -/

/-- The code of a custom condition makes composed flows. -/
def Condition.Composed (k : Kit) (condition : Condition H) : Prop :=
  ∀ found w c w', condition.check found w = (.ok c, w') → c.Composed k

/-- The step asks only for what is in the kit. -/
def Step.Composed (k : Kit) : Step H → Prop
  | .query _ => True
  | .filter condition _ => condition.Composed k
  | .waitFor condition _ _ _ =>
    k.alternation = true ∧ k.retrying = true ∧ condition.Composed k
  | .pick _ => True

/-- Every step of the selector asks only for what is in the kit. -/
def Selector.Composed (k : Kit) (a : Selector H) : Prop := ∀ step ∈ a.steps, step.Composed k

namespace Condition.Composed

theorem atLeastOne : (Condition.atLeastOne : Condition H).Composed k := by
  intro found w c w' h
  cases h
  split
  · exact .fail _
  · exact .unit

theorem single : (Condition.single : Condition H).Composed k := by
  intro found w c w' h
  cases h
  split
  · exact .fail _
  · exact .unit
  · exact .fail _

theorem present : (Condition.present : Condition H).Composed k := by
  intro found w c w' h
  cases h
  split
  · exact .failure _ []
  · exact .unit

end Condition.Composed

namespace Step

theorem composed_lookUp (criterion : Criterion) : (lookUp criterion : Flow H _).Composed k :=
  .callSession _ _

theorem composed_lookUpInsideAll (criterion : Criterion) (found : List H.Element) :
    (lookUpInsideAll criterion found).Composed k := by
  unfold lookUpInsideAll
  split
  · exact .pure []
  · refine .map _ (.sequence fun c hc => ?_)
    obtain ⟨element, -, rfl⟩ := List.mem_map.mp hc
    exact .callSession _ _

theorem composed_checked {condition : Condition H} {before : Flow H (List H.Element)}
    (hcondition : condition.Composed k) (hbefore : before.Composed k) :
    (checked condition before).Composed k := by
  refine .bind hbefore fun found w c w' h => ?_
  obtain ⟨verdict, hverdict, rfl⟩ := Act.map_eq_ok h
  exact .andThen (hcondition found w verdict w' hverdict) (.pure found)

theorem composed_pickFrom (index : Int) (found : List H.Element) :
    (pickFrom index found).Composed k := by
  unfold pickFrom
  dsimp only
  split
  · exact .fail _
  · split
    · exact .pure _
    · exact .fail _

theorem composed_compile {step : Step H} {before : Option (Flow H (List H.Element))}
    (hstep : step.Composed k) (hbefore : ∀ c, before = some c → c.Composed k) :
    (step.compile before).Composed k := by
  cases before with
  | none =>
    cases step with
    | query criterion => exact composed_lookUp criterion
    | filter condition description => exact .fail _
    | waitFor condition description interval wait => exact .fail _
    | pick index => exact .fail _
  | some c =>
    have hc := hbefore c rfl
    cases step with
    | query criterion =>
      refine .bind hc fun found w d w' h => ?_
      cases h
      exact composed_lookUpInsideAll criterion found
    | filter condition description => exact composed_checked hstep hc
    | waitFor condition description interval wait =>
      obtain ⟨alternation, retrying, hcondition⟩ := hstep
      exact .waitUntilSucceeds alternation retrying (composed_checked hcondition hc) _ _ _
    | pick index =>
      refine .bind hc fun found w d w' h => ?_
      cases h
      exact composed_pickFrom index found

end Step

namespace Selector

theorem composed_compileSteps {steps : List (Step H)} (hsteps : ∀ step ∈ steps, step.Composed k)
    {before : Option (Flow H (List H.Element))} (hbefore : ∀ c, before = some c → c.Composed k)
    (c : Flow H (List H.Element)) (h : compileSteps before steps = some c) : c.Composed k := by
  induction steps generalizing before with
  | nil => exact hbefore c h
  | cons step steps ih =>
    obtain ⟨hstep, hsteps⟩ := List.forall_mem_cons.mp hsteps
    have hnext : ∀ d, some (step.compile before) = some d → d.Composed k := by
      intro d hd
      cases hd
      exact Step.composed_compile hstep hbefore
    exact ih hsteps hnext h

variable {a : Selector H}

theorem composed_compile (ha : a.Composed k) {before : Option (Flow H (List H.Element))}
    (hbefore : ∀ c, before = some c → c.Composed k) : (a.compile before).Composed k := by
  unfold compile
  rcases hsteps : compileSteps before a.steps with _ | c
  · exact Step.composed_lookUp everything
  · exact composed_compileSteps ha hbefore c hsteps

theorem composed_findAll (ha : a.Composed k) : a.findAll.Composed k :=
  composed_compile ha fun _ h => nomatch h

theorem composed_findInside (element : H.Element) (ha : a.Composed k) :
    (a.findInside element).Composed k := by
  refine composed_compile ha fun c h => ?_
  cases h
  exact .pure _

theorem composed_findOne (ha : a.Composed k) : a.findOne.Composed k := by
  refine .bind (composed_findAll ha) fun found w c w' h => ?_
  cases h
  split
  · exact .fail _
  · exact .pure _
  · exact .fail _

theorem composed_findFirst (ha : a.Composed k) : a.findFirst.Composed k := by
  refine .bind (composed_findAll ha) fun found w c w' h => ?_
  cases h
  split
  · exact .fail _
  · exact .pure _

theorem composed_findFirstOrNone (ha : a.Composed k) : a.findFirstOrNone.Composed k :=
  .map _ (composed_findAll ha)

/-! ## Snapshots -/

theorem composed_probe (label property : String) (command : Command H.Element H.Datum α)
    (fill : α → Snapshot → Snapshot) :
    (probe label property command fill : Flow H _).Composed k :=
  .retype fill (.callSession _ command)

theorem composed_snapshotElement (alternation : k.alternation = true) (element : H.Element)
    (a : Selector H) (index : Int) : (a.snapshotElement element index).Composed k := by
  refine .map _ (.sequence ?_)
  simp only [probes, List.forall_mem_cons, composed_probe, true_and]
  exact ⟨.orElse alternation (composed_probe _ _ _ _) (.pure _), fun c hc => nomatch hc⟩

theorem composed_snapshot (alternation : k.alternation = true) (ha : a.Composed k) :
    a.snapshot.Composed k := by
  refine .bind (composed_findAll ha) fun found w c w' h => ?_
  cases h
  refine .sequence fun c hc => ?_
  obtain ⟨⟨element, index⟩, -, rfl⟩ := List.mem_map.mp hc
  exact composed_snapshotElement alternation element a index

end Selector

/-! ## Actions and assertions -/

namespace Action

variable {a : Selector H}

theorem composed_announced (line label : String) (command : Command H.Element H.Datum α) :
    (announced line label command : Flow H α).Composed k :=
  .andThen (.write .info line) (.callSession label command)

theorem composed_onElement (ha : a.Composed k) (label : String)
    (command : H.Element → Command H.Element H.Datum α) :
    (onElement a label command).Composed k := by
  refine .bind (Selector.composed_findOne ha) fun element w c w' h => ?_
  cases h
  exact .callSession _ _

theorem composed_announcedOn (ha : a.Composed k) (line label : String)
    (command : H.Element → Command H.Element H.Datum α) :
    (announcedOn a line label command).Composed k :=
  .andThen (.write .info line) (composed_onElement ha label command)

theorem composed_setCheckbox (ha : a.Composed k) (checked : Bool) :
    (setCheckbox a checked).Composed k := by
  refine .context _ (.bind (composed_onElement ha _ _) fun current w c w' h => ?_)
  cases h
  split
  · exact .write .info _
  · exact composed_announcedOn ha _ _ _

theorem composed_ready (a : Selector H) (element : H.Element) :
    (ready a element).Composed k := by
  refine .bind (.map _ (.sequence ?_)) fun isReady w c w' h => ?_
  · simp only [List.forall_mem_cons, Flow.Composed.callSession, true_and]
    exact fun c hc => nomatch hc
  · cases h
    split
    · exact .pure _
    · exact .failure _ []

theorem composed_waitUntilClickable (alternation : k.alternation = true)
    (retrying : k.retrying = true) (ha : a.Composed k) (interval wait : Option Span) :
    (waitUntilClickable a interval wait).Composed k := by
  refine .andThen (.write .info _) (.waitUntilSucceeds alternation retrying ?_ _ _ _)
  refine .bind (Selector.composed_findOne ha) fun element w c w' h => ?_
  cases h
  exact composed_ready a element

theorem composed_prettyPrint (alternation : k.alternation = true) (ha : a.Composed k) :
    (prettyPrint a).Composed k := by
  refine .context _ (.bind (Selector.composed_snapshot alternation ha) fun found w c w' h => ?_)
  cases h
  split
  · exact .andThen (.write .info _) (.pure found)
  · refine .andThen (.sequence fun c hc => ?_) (.pure found)
    obtain ⟨s, -, rfl⟩ := List.mem_map.mp hc
    exact .write .info _

end Action

namespace Assertion

theorem composed_assertThat {fact : Flow H Bool} (hfact : fact.Composed k) (label : String) :
    (assertThat fact label).Composed k := by
  refine .bind hfact fun holds w c w' h => ?_
  cases h
  split
  · exact .write .info _
  · exact .failWith _

theorem composed_elementHasText {a : Selector H} (ha : a.Composed k) (expected : String) :
    (elementHasText a expected).Composed k := by
  refine .bind (Action.composed_onElement ha _ _) fun actual w c w' h => ?_
  cases h
  split
  · exact .write .info _
  · exact .failWith _

end Assertion

end Walkthrough
