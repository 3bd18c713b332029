import Mathlib.Data.List.Forall2
import Walkthrough.Assertion
import Walkthrough.Proofs.Twin.Basic

/-!
# Twins of what the library builds

Failing, asking the session, selectors, snapshots, actions and assertions are built alike for every
host, so each is a twin of itself under a host with other sessions. Only what they are given may
differ: the flows, and the code of the custom conditions of a selector (`Selector.Twin`).
-/

namespace Walkthrough

variable {H : Host} {calls : H.Caller} {swaps : H.Exchange} {α β γ : Type}

namespace Flow.Twin

/-- The flows that a function makes without throwing are twins. -/
theorem bindOk {c : Flow H α} {c' : Flow (H.answeringWith calls) α} {f : α → Flow H β}
    {f' : α → Flow (H.answeringWith calls) β} (hc : Twin calls swaps c c')
    (hf : ∀ a, Twin calls swaps (f a) (f' a)) :
    Twin calls swaps (c.bind fun a => .ok (f a)) (c'.bind fun a => .ok (f' a)) :=
  bind (fun _ _ h => h) hc fun a w => .gave (hf a) w

theorem andThen {c : Flow H α} {c' : Flow (H.answeringWith calls) α} {e : Flow H β}
    {e' : Flow (H.answeringWith calls) β} (hc : Twin calls swaps c c')
    (he : Twin calls swaps e e') :
    Twin calls swaps (c.andThen e) (c'.andThen e') :=
  bindOk hc fun _ => he

theorem orElse {c e : Flow H α} {c' e' : Flow (H.answeringWith calls) α}
    (hc : Twin calls swaps c c') (he : Twin calls swaps e e') :
    Twin calls swaps (c.orElse e) (c'.orElse e') :=
  orElseWith (fun _ _ h => h) hc fun _ w => .gave he w

theorem mapFail {c : Flow H α} {c' : Flow (H.answeringWith calls) α}
    (f : List Failure → Act H.World (List Failure)) (hc : Twin calls swaps c c') :
    Twin calls swaps (c.mapFail f) (c'.mapFail f) := bimap .ok f hc

theorem asks (f : H.Env → Act H.World α) : Twin calls swaps (asks f) (asks f) := map f ask

theorem fail (f : Failure) : Twin calls swaps (fail f : Flow H α) (fail f) :=
  andThen (write .error f.message) (failure f [])

theorem require (value : Option α) (label : String) :
    Twin calls swaps (require value label : Flow H α) (require value label) := by
  cases value with
  | some a => exact pure a
  | none => exact fail _

theorem callSession (label : String) (command : Command H.Element H.Datum α) :
    Twin calls swaps (callSession label command) (callSession label command) :=
  bindOk session fun handle => tryAsk handle command _

theorem forEach {values : List γ} {f : γ → Flow H α} {f' : γ → Flow (H.answeringWith calls) α}
    (hf : ∀ b ∈ values, Twin calls swaps (f b) (f' b)) :
    Twin calls swaps (forEach values f) (forEach values f') := by
  have hitems : ∀ item ∈ values.map fun b => (f b, f' b), Twin calls swaps item.1 item.2 := by
    intro item hitem
    obtain ⟨b, hb, rfl⟩ := List.mem_map.mp hitem
    exact hf b hb
  have hsequence := sequence hitems
  rw [List.map_map, List.map_map] at hsequence
  exact hsequence

theorem ofBody {body : H.World → Body H α} {body' : H.World → Body (H.answeringWith calls) α}
    (h : ∀ w, (body w).Alike (fun _ => Twin calls swaps) (body' w)) :
    Twin calls swaps (ofBody body) (ofBody body') := by
  have hrecipe : Twin calls swaps (Flow.ofRecipe (.ok (.body body)))
      (Flow.ofRecipe (.ok (.body body'))) :=
    ofRecipe (fun _ _ h => h) fun w => .gave (.body h) w
  exact hrecipe

end Flow.Twin

/-! ## Selectors -/

/-- The conditions make twins of the same elements. -/
def Condition.Twin (calls : H.Caller) (swaps : H.Exchange) (condition : Condition H)
    (condition' : Condition (H.answeringWith calls)) : Prop :=
  ∀ found w, Alike (Flow.Twin calls swaps) (condition.check found w) (condition'.check found w)

/-- The steps differ only in the code of their conditions. -/
inductive Step.Twin (calls : H.Caller) (swaps : H.Exchange) :
    Step H → Step (H.answeringWith calls) → Prop where
  | query (criterion : Criterion) : Step.Twin calls swaps (.query criterion) (.query criterion)
  | filter {condition : Condition H} {condition' : Condition (H.answeringWith calls)}
      (h : condition.Twin calls swaps condition') (description : String) :
      Step.Twin calls swaps (.filter condition description) (.filter condition' description)
  | waitFor {condition : Condition H} {condition' : Condition (H.answeringWith calls)}
      (h : condition.Twin calls swaps condition') (description : String)
      (interval wait : Option Span) :
      Step.Twin calls swaps (.waitFor condition description interval wait)
        (.waitFor condition' description interval wait)
  | pick (index : Int) : Step.Twin calls swaps (.pick index) (.pick index)

/-- The steps of the selectors are twins one by one. -/
def Selector.Twin (calls : H.Caller) (swaps : H.Exchange) (a : Selector H)
    (a' : Selector (H.answeringWith calls)) : Prop :=
  List.Forall₂ (Step.Twin calls swaps) a.steps a'.steps

namespace Condition.Twin

theorem atLeastOne : Condition.Twin (H := H) calls swaps .atLeastOne .atLeastOne := by
  intro found w
  refine .gave ?_ w
  split
  · exact .fail _
  · exact .pure ()

theorem single : Condition.Twin (H := H) calls swaps .single .single := by
  intro found w
  refine .gave ?_ w
  match found with
  | [] => exact .fail _
  | [_] => exact .pure ()
  | _ :: _ :: _ => exact .fail _

theorem present : Condition.Twin (H := H) calls swaps .present .present := by
  intro found w
  refine .gave ?_ w
  split
  · exact .failure _ []
  · exact .pure ()

end Condition.Twin

namespace Step

theorem twin_lookUp (criterion : Criterion) :
    Flow.Twin calls swaps (lookUp criterion) (lookUp criterion) := .callSession _ _

theorem twin_lookUpInsideAll (criterion : Criterion) (found : List H.Element) :
    Flow.Twin calls swaps (lookUpInsideAll criterion found) (lookUpInsideAll criterion found) := by
  unfold lookUpInsideAll
  split
  · exact .pure []
  · exact .map _ (.forEach fun element _ => .callSession _ _)

theorem twin_checked {condition : Condition H} {condition' : Condition (H.answeringWith calls)}
    {before : Flow H (List H.Element)} {before' : Flow (H.answeringWith calls) (List H.Element)}
    (hcondition : condition.Twin calls swaps condition')
    (hbefore : Flow.Twin calls swaps before before') :
    Flow.Twin calls swaps (checked condition before) (checked condition' before') := by
  refine .bind (fun _ _ h => h) hbefore fun found w => ?_
  unfold Act.map Act.andThen
  obtain ⟨e, w', hmade, hmade'⟩ | ⟨c, c', w', hc, hmade, hmade'⟩ :=
    (hcondition found w).threw_or_gave
  · rw [hmade, hmade']
    exact .threw e w'
  · rw [hmade, hmade']
    exact .gave (.andThen hc (.pure found)) w'

theorem twin_pickFrom (index : Int) (found : List H.Element) :
    Flow.Twin calls swaps (pickFrom index found) (pickFrom index found) := by
  unfold pickFrom
  dsimp only
  split
  · exact .fail _
  · cases found[index.toNat]? with
    | some element => exact .pure [element]
    | none => exact .fail _

/-- What is found so far, if anything is looked for yet, is found by twins. -/
inductive TwinBefore (calls : H.Caller) (swaps : H.Exchange) :
    Option (Flow H (List H.Element)) → Option (Flow (H.answeringWith calls) (List H.Element)) →
      Prop where
  | none : TwinBefore calls swaps none none
  | some {c : Flow H (List H.Element)} {c' : Flow (H.answeringWith calls) (List H.Element)}
      (h : Flow.Twin calls swaps c c') : TwinBefore calls swaps (some c) (some c')

theorem TwinBefore.getD {before : Option (Flow H (List H.Element))}
    {before' : Option (Flow (H.answeringWith calls) (List H.Element))}
    (h : TwinBefore calls swaps before before') {c : Flow H (List H.Element)}
    {c' : Flow (H.answeringWith calls) (List H.Element)} (hc : Flow.Twin calls swaps c c') :
    Flow.Twin calls swaps (before.getD c) (before'.getD c') := by
  cases h with
  | none => exact hc
  | some hbefore => exact hbefore

theorem twin_compile {step : Step H} {step' : Step (H.answeringWith calls)}
    {before : Option (Flow H (List H.Element))}
    {before' : Option (Flow (H.answeringWith calls) (List H.Element))}
    (hstep : Step.Twin calls swaps step step') (hbefore : TwinBefore calls swaps before before') :
    Flow.Twin calls swaps (step.compile before) (step'.compile before') := by
  cases hbefore with
  | none =>
    cases hstep with
    | query criterion => exact twin_lookUp criterion
    | filter h description => exact .fail _
    | waitFor h description interval wait => exact .fail _
    | pick index => exact .fail _
  | some hc =>
    cases hstep with
    | query criterion => exact .bindOk hc fun found => twin_lookUpInsideAll criterion found
    | filter h description => exact twin_checked h hc
    | waitFor h description interval wait =>
      exact .waitUntilSucceeds (twin_checked h hc) interval wait description
    | pick index => exact .bindOk hc fun found => twin_pickFrom index found

theorem description_twin {step : Step H} {step' : Step (H.answeringWith calls)}
    (h : Step.Twin calls swaps step step') : step'.description = step.description := by
  cases h with
  | query criterion => rfl
  | filter h description => rfl
  | waitFor h description interval wait => rfl
  | pick index => rfl

end Step

namespace Selector

theorem twin_compileSteps {steps : List (Step H)} {steps' : List (Step (H.answeringWith calls))}
    (h : List.Forall₂ (Step.Twin calls swaps) steps steps')
    {before : Option (Flow H (List H.Element))}
    {before' : Option (Flow (H.answeringWith calls) (List H.Element))}
    (hbefore : Step.TwinBefore calls swaps before before') :
    Step.TwinBefore calls swaps (compileSteps before steps) (compileSteps before' steps') := by
  induction h generalizing before before' with
  | nil => exact hbefore
  | cons hstep hsteps ih => exact ih (.some (Step.twin_compile hstep hbefore))

variable {a : Selector H} {a' : Selector (H.answeringWith calls)}

/-- Twins are described alike, so what is said about them in labels and failures is the same. -/
theorem describe_twin (ha : a.Twin calls swaps a') : a'.describe = a.describe := by
  have hwords : ∀ {steps : List (Step H)} {steps' : List (Step (H.answeringWith calls))},
      List.Forall₂ (Step.Twin calls swaps) steps steps' →
        steps'.map Step.description = steps.map Step.description ∧
          steps'.isEmpty = steps.isEmpty := by
    intro steps steps' h
    induction h with
    | nil => exact ⟨rfl, rfl⟩
    | cons hstep hsteps ih =>
      rw [List.map_cons, List.map_cons, Step.description_twin hstep, ih.1]
      exact ⟨rfl, rfl⟩
  unfold describe
  rw [(hwords ha).1, (hwords ha).2]

theorem twin_compile (ha : a.Twin calls swaps a') {before : Option (Flow H (List H.Element))}
    {before' : Option (Flow (H.answeringWith calls) (List H.Element))}
    (hbefore : Step.TwinBefore calls swaps before before') :
    Flow.Twin calls swaps (a.compile before) (a'.compile before') :=
  (twin_compileSteps ha hbefore).getD (Step.twin_lookUp everything)

theorem twin_findAll (ha : a.Twin calls swaps a') : Flow.Twin calls swaps a.findAll a'.findAll :=
  twin_compile ha .none

theorem twin_findInside (element : H.Element) (ha : a.Twin calls swaps a') :
    Flow.Twin calls swaps (a.findInside element) (a'.findInside element) :=
  twin_compile ha (.some (.pure [element]))

theorem twin_findOne (ha : a.Twin calls swaps a') : Flow.Twin calls swaps a.findOne a'.findOne := by
  refine .bindOk (twin_findAll ha) fun found => ?_
  match found with
  | [] =>
    dsimp only
    rw [notFound, notFound, describe_twin ha]
    exact .fail _
  | [element] => exact .pure element
  | _ :: _ :: _ =>
    dsimp only
    rw [describe_twin ha]
    exact .fail _

theorem twin_findFirst (ha : a.Twin calls swaps a') :
    Flow.Twin calls swaps a.findFirst a'.findFirst := by
  refine .bindOk (twin_findAll ha) fun found => ?_
  match found with
  | [] =>
    dsimp only
    rw [notFound, notFound, describe_twin ha]
    exact .fail _
  | element :: _ => exact .pure element

theorem twin_findFirstOrNone (ha : a.Twin calls swaps a') :
    Flow.Twin calls swaps a.findFirstOrNone a'.findFirstOrNone := .map _ (twin_findAll ha)

/-! ## Snapshots -/

theorem twin_probe (label property : String) (command : Command H.Element H.Datum α)
    (fill : α → Snapshot → Snapshot) :
    Flow.Twin calls swaps (probe label property command fill) (probe label property command fill) :=
  .retype fill (.callSession _ command)

theorem twin_snapshotElement (element : H.Element) (ha : a.Twin calls swaps a') (index : Int) :
    Flow.Twin calls swaps (a.snapshotElement element index) (a'.snapshotElement element index) := by
  unfold snapshotElement
  rw [describe_twin ha]
  refine .map _ ?_
  have hprobes : ∀ item ∈ (probes a.describe element).zip
      (probes (H := H.answeringWith calls) a.describe element),
      Flow.Twin calls swaps item.1 item.2 := by
    simp only [probes, List.zip_cons_cons, List.zip_nil_right, List.forall_mem_cons, twin_probe,
      true_and]
    exact ⟨.orElse (twin_probe _ _ _ _) (.pure _), fun c hc => nomatch hc⟩
  exact .sequence hprobes

theorem twin_snapshot (ha : a.Twin calls swaps a') :
    Flow.Twin calls swaps a.snapshot a'.snapshot := by
  refine .bindOk (twin_findAll ha) fun found => ?_
  exact .forEach fun item _ => twin_snapshotElement item.1 ha item.2

end Selector

/-! ## Actions and assertions -/

namespace Action

variable {a : Selector H} {a' : Selector (H.answeringWith calls)}

theorem twin_announced (line label : String) (command : Command H.Element H.Datum α) :
    Flow.Twin calls swaps (announced line label command) (announced line label command) :=
  .andThen (.write .info line) (.callSession label command)

theorem twin_onElement (ha : a.Twin calls swaps a') (label : String)
    (command : H.Element → Command H.Element H.Datum α) :
    Flow.Twin calls swaps (onElement a label command) (onElement a' label command) := by
  unfold onElement
  rw [Selector.describe_twin ha]
  exact .bindOk (Selector.twin_findOne ha) fun element => .callSession _ _

theorem twin_announcedOn (ha : a.Twin calls swaps a') (line label : String)
    (command : H.Element → Command H.Element H.Datum α) :
    Flow.Twin calls swaps (announcedOn a line label command)
      (announcedOn a' line label command) :=
  .andThen (.write .info line) (twin_onElement ha label command)

end Action

namespace Assertion

theorem twin_assertThat {fact : Flow H Bool} {fact' : Flow (H.answeringWith calls) Bool}
    (hfact : Flow.Twin calls swaps fact fact') (label : String) :
    Flow.Twin calls swaps (assertThat fact label) (assertThat fact' label) := by
  refine .bindOk hfact fun holds => ?_
  cases holds with
  | true => exact .write .info _
  | false => exact .fail _

end Assertion

end Walkthrough
