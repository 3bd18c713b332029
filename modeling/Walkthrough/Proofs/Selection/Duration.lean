import Walkthrough.Proofs.Waiting.Nested
import Walkthrough.Selector

/-!
# Selectors resolve in time

A wait step runs all the steps before it again and again, and there may be waits among these, with
deadlines of their own. The attempts multiply, but the time does not: from whatever state a wait is
started, it starts its last attempt no later than a microsecond after its deadline, and the steps
before it take no longer in that attempt than in any other. So the timeouts add up
(`Selector.resolves_in_time`), by induction on the steps, each of which adds its own timeout and a
microsecond, or nothing (`Step.takes_compile`).

All the waits of a selector are started from one state, that in which its elements are looked for,
so timeouts that are not given are taken from the settings of that state.
-/

namespace Walkthrough

variable {H : Host} {d : Driver H}

/-- Code of the condition takes no time. -/
def Condition.Instant (d : Driver H) : Condition H → Prop
  | custom check => ∀ found, (check found).MakesInstant d
  | _ => True

/-- The conditions of the library are instant, and a custom one makes instant flows. -/
theorem Condition.Instant.check (instant : H.Instant d) {condition : Condition H}
    (h : condition.Instant d) (found : List H.Element) :
    (condition.check found).MakesInstant d := by
  cases condition with
  | atLeastOne =>
    refine .ok ?_
    split
    · exact .fail instant _
    · exact .pure ()
  | single =>
    refine .ok ?_
    split
    · exact .fail instant _
    · exact .pure ()
    · exact .fail instant _
  | present =>
    refine .ok ?_
    split
    · exact .failure _ _
    · exact .pure ()
  | custom check => exact h found

/-! ## Steps -/

namespace Step

/-- Code of the step takes no time. -/
def Instant (d : Driver H) : Step H → Prop
  | filter condition _ => condition.Instant d
  | waitFor condition _ _ _ => condition.Instant d
  | _ => True

/-- How long the step may wait, if it is one that waits. -/
def timeout? (s : H.State) : Step H → Option Rat
  | waitFor _ _ _ wait => some (Span.toSecondsOr H.precision s.settings.wait wait)
  | _ => none

/-! ### What a step takes -/

section

variable (instant : H.Instant d)

include instant

/-- Looking elements up takes the time of the call, which is none. -/
theorem instant_lookUp (criterion : Criterion) :
    (lookUp criterion : Flow H (List H.Element)).Instant d := .callSession instant _ _

/-- A step without a query before it fails at once. -/
theorem instant_standalone (action : String) :
    (standalone action : Flow H (List H.Element)).Instant d := .fail instant _

/-- Nor does looking inside each element found take time. -/
theorem instant_lookUpInsideAll (criterion : Criterion) (found : List H.Element) :
    (lookUpInsideAll criterion found).Instant d := by
  unfold lookUpInsideAll
  split
  · exact .pure []
  · have hitems : ∀ c ∈ found.map (lookUpInside criterion), c.Instant d :=
      List.forall_mem_map.mpr fun element _ => .callSession instant _ _
    exact fun s => (Flow.Instant.sequence hitems s).map fun _ _ => rfl

/-- Picking an element, or failing to, takes no time. -/
theorem instant_pickFrom (index : Int) (found : List H.Element) :
    (pickFrom index found).Instant d := by
  unfold pickFrom
  dsimp only
  split
  · exact .fail instant _
  · split
    · exact .pure _
    · exact .fail instant _

variable {before : Flow H (List H.Element)} {T : Rat} {s : H.State}

/-- A filter takes no time beyond that of the steps before it. -/
theorem takes_checked {condition : Condition H} (hcondition : condition.Instant d)
    (hbefore : before.Takes d T s) : (checked condition before).Takes d T s :=
  hbefore.bind fun found => (hcondition.check instant found).map fun _ hverdict s =>
    (hverdict s).andThen (.pure found)

variable (punctual : H.Punctual) (pauses : d.Pauses)

include punctual pauses

/-- A step takes what the steps before it take, and its own timeout and a microsecond when it
waits. -/
theorem takes_compile {step : Step H} (hstep : step.Instant d)
    {before : Option (Flow H (List H.Element))} (hT : 0 ≤ T)
    (hbefore : ∀ c ∈ before, c.Takes d T s) :
    (step.compile before).Takes d (T + Wait.nested (step.timeout? s).toList) s := by
  cases before with
  | none =>
    have hnone : (step.compile none).Instant d := by
      cases step with
      | query criterion => exact instant_lookUp instant criterion
      | filter condition description => exact instant_standalone instant _
      | waitFor condition description interval wait => exact instant_standalone instant _
      | pick index => exact instant_standalone instant _
    exact (hnone s).mono (add_nonneg hT (Wait.nested_nonneg _))
  | some before =>
    replace hbefore : before.Takes d T s := hbefore before rfl
    cases step with
    | query criterion =>
      exact (hbefore.bind fun found =>
        .ok (instant_lookUpInsideAll instant criterion found)).mono (add_zero T).ge
    | filter condition description =>
      exact (takes_checked instant hstep hbefore).mono (add_zero T).ge
    | waitFor condition description interval wait =>
      have hwait := (takes_checked instant hstep hbefore).waitUntilSucceeds punctual pauses instant
        interval wait description
      exact hwait.mono (by simp [timeout?])
    | pick index =>
      exact (hbefore.bind fun found =>
        .ok (instant_pickFrom instant index found)).mono (add_zero T).ge

end

end Step

/-! ## Selectors -/

namespace Selector

/-- How long each wait of the selector may last when it is started from a state. -/
def timeouts (a : Selector H) (s : H.State) : List Rat := a.steps.filterMap (Step.timeout? s)

/-- The flow resolves the selector, on the page or going on from an element. -/
inductive Resolves (a : Selector H) : {α : Type} → Flow H α → Prop where
  | all : Resolves a a.findAll
  | inside (element : H.Element) : Resolves a (findInside element a)
  | one : Resolves a a.findOne
  | first : Resolves a a.findFirst
  | firstOrNone : Resolves a a.findFirstOrNone

/-- A wait step of the selector is this wait when it is started in the world. The steps before it
look on the page, or go on from an element. -/
inductive Waits (a : Selector H) : Wait H (Except Failure (List H.Element)) → H.World → Prop where
  | intro {steps more : List (Step H)} {condition : Condition H} {description : String}
      {interval wait : Option Span} {start : Option H.Element} {before : Flow H (List H.Element)}
      (hsteps : a.steps = steps ++ .waitFor condition description interval wait :: more)
      (hbefore : compileSteps (start.map fun element => .pure [element]) steps = some before)
      (env : H.Env) (s : H.State) (w : H.World) :
      Waits a (.begun (.attempt (Step.checked condition before)) (Flow.succeedsWatch description)
        interval wait env s w) w

section

variable (punctual : H.Punctual) (pauses : d.Pauses) (instant : H.Instant d)

include punctual pauses instant

/-- By induction on the steps: a wait adds its timeout to what the steps before it take, and every
other step adds nothing. -/
theorem takes_compileSteps {steps : List (Step H)} (hsteps : ∀ step ∈ steps, step.Instant d)
    {before : Option (Flow H (List H.Element))} {T : Rat} {s : H.State} (hT : 0 ≤ T)
    (hbefore : ∀ c ∈ before, c.Takes d T s) :
    ∀ c ∈ compileSteps before steps,
      c.Takes d (T + Wait.nested (steps.filterMap (Step.timeout? s))) s := by
  induction steps generalizing before T with
  | nil => exact fun c hc => (hbefore c hc).mono (add_zero T).ge
  | cons step steps ih =>
    -- the first step is compiled first, and its time is spent before the rest begins
    obtain ⟨hstep, hrest⟩ := List.forall_mem_cons.mp hsteps
    have hT' : 0 ≤ T + Wait.nested (step.timeout? s).toList :=
      add_nonneg hT (Wait.nested_nonneg _)
    have hcompiled : ∀ c ∈ some (step.compile before),
        c.Takes d (T + Wait.nested (step.timeout? s).toList) s := fun c hc =>
      Option.mem_some.mp hc ▸ Step.takes_compile instant punctual pauses hstep hT hbefore
    intro c hc
    rw [Wait.nested_filterMap_cons, ← add_assoc]
    exact ih hrest hT' hcompiled c hc

variable {a : Selector H} (ha : ∀ step ∈ a.steps, step.Instant d)

include ha

/-- A selector takes at most the timeouts of its waits, one inside the other. -/
theorem takes_compile {before : Option (Flow H (List H.Element))}
    (hbefore : ∀ c ∈ before, c.Instant d) (s : H.State) :
    (a.compile before).Takes d (Wait.nested (a.timeouts s)) s := by
  have hsteps := takes_compileSteps punctual pauses instant ha (le_refl 0)
    fun c hc => hbefore c hc s
  rw [zero_add] at hsteps
  unfold compile
  cases hcompiled : compileSteps before a.steps with
  | none => exact (Step.instant_lookUp instant _ s).mono (Wait.nested_nonneg _)
  | some c => exact hsteps c hcompiled

/-- Every way to resolve a selector takes no longer than finding all its elements. -/
theorem Resolves.takes {α : Type} {c : Flow H α} (h : a.Resolves c) (s : H.State) :
    c.Takes d (Wait.nested (a.timeouts s)) s := by
  have hall : a.findAll.Takes d (Wait.nested (a.timeouts s)) s :=
    takes_compile punctual pauses instant ha (fun _ hc => absurd hc (Option.not_mem_none _)) s
  cases h with
  | all => exact hall
  | inside element =>
    exact takes_compile punctual pauses instant ha
      (fun c hc => Option.mem_some.mp hc ▸ .pure [element]) s
  | one =>
    refine hall.bind fun found => .ok ?_
    split
    · exact .fail instant _
    · exact .pure _
    · exact .fail instant _
  | first =>
    refine hall.bind fun found => .ok ?_
    split
    · exact .fail instant _
    · exact .pure _
  | firstOrNone => exact hall.map fun _ _ => rfl

/-- Each wait among the steps of a selector stops of its own accord. -/
theorem Waits.stops {x : Wait H (Except Failure (List H.Element))} {w : H.World}
    (h : a.Waits x w) : x.Stops d w := by
  obtain @⟨steps, more, condition, description, interval, wait, start, before, hsteps, hbefore,
    env, s⟩ := h
  rw [hsteps, List.forall_mem_append, List.forall_mem_cons] at ha
  obtain ⟨hearlier, hcondition, -⟩ := ha
  have hstart : ∀ c ∈ start.map fun element => (.pure [element] : Flow H (List H.Element)),
      c.Takes d 0 s := by
    intro c hc
    obtain ⟨element, -, rfl⟩ := Option.mem_map.mp hc
    exact Flow.Instant.pure [element] s
  have hprefix := takes_compileSteps punctual pauses instant hearlier (le_refl 0) hstart before
    hbefore
  exact Wait.stops_begun punctual pauses
    (Step.takes_checked instant hcondition hprefix).attempt (.succeeds description) env w

end

/-- When only pauses take time, every wait of a selector stops of its own accord, and the selector
is resolved when its timeouts are over, one after the other, and a microsecond for each of them. A
negative timeout counts as none. -/
theorem resolves_in_time (punctual : H.Punctual) (pauses : d.Pauses) (instant : H.Instant d)
    {a : Selector H} (ha : ∀ step ∈ a.steps, step.Instant d) :
    (∀ x w, a.Waits x w → x.Stops d w) ∧
      ∀ {α : Type} (c : Flow H α), a.Resolves c → ∀ env s w,
        H.now (c.history d env s w).world ≤
          H.now w + ((a.timeouts s).map (max · 0)).sum + (a.timeouts s).length / 1000000 := by
  refine ⟨fun x w h => h.stops punctual pauses instant ha, fun c h env s w => ?_⟩
  obtain ⟨-, hlatest⟩ := (h.takes punctual pauses instant ha s).history env w
  rwa [Wait.nested_eq, ← add_assoc] at hlatest

/-- A host like `Host.timekeeping` whose sessions answer at once. Lookups find nothing before the
fourth microsecond, and one element from then on. -/
abbrev ripening : Host :=
  { Host.timekeeping with
    call := fun _ command w =>
      match command with
      | .findElements _ _ => (.ok (.value (if 4 ≤ w then [()] else [])), w)
      | _ => (.error (.fault ⟨"SessionError", "refused"⟩), w) }

/-- A wait of two microseconds inside one of five. The inner wait is tried twice: it gives up after
two microseconds, is started again after the pause of the outer one, and finds the element at the
fourth. -/
theorem resolves_in_time_ripening :
    let a : Selector ripening := ((css "ul").waitUntilExistsFor (some (.seconds (1 / 1000000)))
      (some (.seconds (2 / 1000000)))).waitUntilExistsFor (some (.seconds (1 / 1000000)))
      (some (.seconds (5 / 1000000)))
    let s : ripening.State := (ripening.initialState (some ()) { sinks := () }).withMuted true
    let run := a.findAll.history .blocking () s (0 : Nat)
    ripening.Punctual ∧ (Driver.blocking : Driver ripening).Pauses ∧
      ripening.Instant Driver.blocking ∧ (∀ step ∈ a.steps, step.Instant .blocking) ∧
      a.timeouts s = [2 / 1000000, 5 / 1000000] ∧ run.outcome.value? = some [()] ∧
      run.world = (4 : Nat) ∧ ripening.now run.world ≤ 9 / 1000000 := by
  intro a s run
  have punctual : ripening.Punctual := ⟨rfl, Host.punctual_timekeeping.sleep⟩
  have instant : ripening.Instant Driver.blocking :=
    ⟨fun _ command _ => by cases command <;> rfl, fun _ _ _ _ => rfl, fun _ _ _ => rfl,
      fun _ _ _ => rfl⟩
  have ha : ∀ step ∈ a.steps, step.Instant .blocking :=
    List.forall_mem_cons.mpr ⟨trivial, List.forall_mem_cons.mpr ⟨trivial,
      List.forall_mem_singleton.mpr trivial⟩⟩
  have htimeouts : a.timeouts s = [2 / 1000000, 5 / 1000000] := by decide +kernel
  have hrun : run = (a.findAll () s (0 : Nat)).history .blocking s := Flow.history_eq ..
  have hlatest := (resolves_in_time punctual Driver.pauses_blocking instant ha).2 _ .all () s
    (0 : Nat)
  refine ⟨punctual, Driver.pauses_blocking, instant, ha, htimeouts, ?_, ?_, ?_⟩
  · rw [hrun]
    decide +kernel
  · rw [hrun]
    decide +kernel
  · refine hlatest.trans ?_
    rw [htimeouts]
    decide +kernel

end Selector

end Walkthrough
