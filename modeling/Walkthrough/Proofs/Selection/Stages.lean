import Mathlib.Data.List.Induction
import Walkthrough.Proofs.Behaviour.Bind
import Walkthrough.Selector

/-!
# Selectors resolve in stages

Finding the elements of one selector after another is finding those of the first, and then going on
from them with the second: both ways end alike and look alike from outside, from every state without
failures (`Selector.findAll_append`). So it does not matter where a concatenation is cut. The second
selector must not wait, since a wait tries all the steps before it again and not only those of its
own stage, and the code of its conditions must not throw.

A step that does not wait binds what is found so far to a function that makes a flow
(`Step.Direct.compile_eq_bind`), so the steps of the second selector are moved into the function of
the first one by one, by associativity of `bind`. When none of them is left there is still `pure`,
which drops the value of a faulted outcome; finding elements never ends with such a value
(`Flow.Strict`).
-/

namespace Walkthrough

variable {H : Host} {α β : Type} {d : Driver H}

/-! ## Flows whose failures carry no value -/

namespace Flow

/-- Started without failures, the flow ends with a value only when it does not fail. -/
def Strict (d : Driver H) (c : Flow H α) : Prop :=
  ∀ env s w, s.failures = [] →
    (c env s w).Keeps d (fun _ => True) s fun o => o.dropFaultedValue = o

namespace Strict

/-- A value is no failure, so there is no value to lose. -/
theorem keeps_value (a : α) {s : H.State} (hs : s.failures = []) (w : H.World) (start : H.State) :
    (Program.finish (.of a s) w).Keeps d (fun _ => True) start fun o => o.dropFaultedValue = o := by
  refine .finish w ?_
  rw [Outcome.of_eq_success hs]
  rfl

theorem pure (a : α) : (Flow.pure a : Flow H α).Strict d :=
  fun _ s w hs => keeps_value a hs w s

theorem failure (f : Failure) (fs : List Failure) : (Flow.failure f fs : Flow H α).Strict d :=
  fun _ _ w _ => .finish w rfl

/-- The step that takes the place of another one is strict for it. -/
theorem keeps_endWith {c : Flow H α} (hc : c.Strict d) (env : H.Env) {s : H.State}
    (hs : s.failures = []) (w : H.World) (start : H.State) :
    (c.endWith env s w).Keeps d (fun _ => True) start fun o => o.dropFaultedValue = o :=
  .run trivial (hc env s w hs) (fun _ _ => trivial) fun _ w' ho => .finish w' ho

/-- A flow whose program goes on from another flow is strict when all that follows is. -/
theorem of_run {c : Flow H α} {d : Driver H} {next : Outcome H α → H.World → Program H β}
    {env : H.Env} {s start : H.State} {w : H.World}
    (hnext : ∀ o w', (next o w').Keeps d (fun _ => True) start fun o => o.dropFaultedValue = o) :
    (Program.run c env s w next).Keeps d (fun _ => True) start fun o => o.dropFaultedValue = o :=
  .run (R := fun _ => True) trivial ⟨fun _ _ => trivial, trivial⟩ (fun _ _ => trivial)
    fun o w' _ => hnext o w'

/-- The first flow may end as it likes: what counts is what is made from its value. -/
theorem bind {c : Flow H α} {f : α → Act H.World (Flow H β)}
    (hf : ∀ a w c' w', f a w = (.ok c', w') → c'.Strict d) : (c.bind f).Strict d := by
  intro env s w hs
  refine of_run fun o w' => ?_
  cases o with
  | faulted v t h => exact .finish w' rfl
  | success a t h =>
    dsimp only
    rcases hmade : f a w' with ⟨e | c', w''⟩
    · exact .raise w'' rfl
    · exact (hf a w' c' w'' hmade).keeps_endWith env h w'' s

/-- What comes last decides: the first flow loses its value anyway. -/
theorem andThen {c : Flow H α} {c' : Flow H β} (hc' : c'.Strict d) : (c.andThen c').Strict d := by
  refine bind fun a w e w' h => ?_
  cases h
  exact hc'

/-- Failing leaves no value. -/
theorem fail (f : Failure) : (Flow.fail f : Flow H α).Strict d := andThen (failure f [])

/-- A failure of the flow loses its value on the way. -/
theorem map {c : Flow H α} (f : α → Act H.World β) : (c.map f).Strict d := by
  intro env s w hs
  refine of_run fun o w' => ?_
  cases o with
  | faulted v t h => exact .finish w' rfl
  | success a t h =>
    dsimp only
    rcases f a w' with ⟨e | b, w''⟩
    · exact .raise w'' rfl
    · exact keeps_value b h w'' s

/-- Settling a failure leaves no value with it. -/
theorem settle (c : Flow H (Except Failure α)) : (Flow.settle c).Strict d := by
  intro env s w hs
  refine of_run fun o w' => ?_
  cases o with
  | faulted v t h => exact .finish w' rfl
  | success r t h =>
    cases r with
    | ok a => exact keeps_value a h w' s
    | error f => exact .finish w' rfl

/-- An outside call gives a value or fails without one. -/
theorem tryEffect (e : Effect H (Reply H.World α)) (label : Thrown → Act H.World String) :
    (Flow.tryEffect e label).Strict d := by
  intro env s w hs
  refine .outside (fun _ => trivial) (fun _ _ => trivial) fun r w' => ?_
  cases r with
  | ok a => exact keeps_value a hs w' s
  | error thrown =>
    dsimp only
    split
    · exact .raise _ rfl
    · exact (fail _).keeps_endWith env hs _ s

/-- So does a call of the session. -/
theorem callSession (label : String) (command : Command H.Element H.Datum α) :
    (Flow.callSession label command).Strict d := by
  refine bind fun handle w c w' h => ?_
  cases h
  exact tryEffect _ _

end Strict

end Flow

/-! ## Steps -/

namespace Step

/-- A batch of lookups that fails leaves no value. -/
theorem strict_lookUpInsideAll (criterion : Criterion) (found : List H.Element) :
    (lookUpInsideAll criterion found).Strict d := by
  unfold lookUpInsideAll
  split
  · exact .pure []
  · exact .map _

/-- Picking fails without a value. -/
theorem strict_pickFrom (index : Int) (found : List H.Element) :
    (pickFrom index found).Strict d := by
  unfold pickFrom
  dsimp only
  split
  · exact .fail _
  · cases found[index.toNat]? with
    | some element => exact .pure [element]
    | none => exact .fail _

/-- A filter that fails leaves no elements. -/
theorem strict_checked (condition : Condition H) (before : Flow H (List H.Element)) :
    (checked condition before).Strict d := by
  refine .bind fun found w c w' h => ?_
  obtain ⟨verdict, -, rfl⟩ := Act.map_eq_ok h
  exact .andThen (.pure found)

/-- No step of a selector fails with elements in hand. -/
theorem strict_compile (step : Step H) (before : Option (Flow H (List H.Element))) :
    (step.compile before).Strict d := by
  cases before with
  | none =>
    cases step with
    | query criterion => exact .callSession _ _
    | filter condition description => exact .fail _
    | waitFor condition description interval wait => exact .fail _
    | pick index => exact .fail _
  | some before =>
    cases step with
    | query criterion =>
      refine .bind fun found w c w' h => ?_
      cases h
      exact strict_lookUpInsideAll criterion found
    | filter condition description => exact strict_checked condition before
    | waitFor condition description interval wait => exact .settle _
    | pick index =>
      refine .bind fun found w c w' h => ?_
      cases h
      exact strict_pickFrom index found

/-- The step does not wait, and the code of its condition does not throw. -/
def Direct : Step H → Prop
  | query _ => True
  | filter condition _ => ∀ found, (condition.check found).Calm
  | waitFor .. => False
  | pick _ => True

/-- What a direct step does with what is found so far depends on nothing else. -/
theorem Direct.compile_eq_bind {step : Step H} (h : step.Direct) :
    ∃ f : List H.Element → Act H.World (Flow H (List H.Element)),
      (∀ found, (f found).Calm) ∧ ∀ before, step.compile (some before) = before.bind f := by
  cases step with
  | query criterion => exact ⟨_, fun found => Act.calm_ok _, fun before => rfl⟩
  | filter condition description => exact ⟨_, fun found => (h found).map _, fun before => rfl⟩
  | waitFor condition description interval wait => exact h.elim
  | pick index => exact ⟨_, fun found => Act.calm_ok _, fun before => rfl⟩

end Step

/-! ## Selectors -/

namespace Selector

/-- The selector does not wait, and the code of its conditions does not throw. -/
def Direct (a : Selector H) : Prop := ∀ step ∈ a.steps, step.Direct

/-- Steps with something before them are a selector that is compiled after it. -/
theorem compileSteps_some (before : Flow H (List H.Element)) (steps : List (Step H)) :
    compileSteps (some before) steps = some (compile ⟨steps⟩ (some before)) := by
  have hsome : ∃ c, compileSteps (some before) steps = some c := by
    induction steps generalizing before with
    | nil => exact ⟨before, rfl⟩
    | cons step steps ih => exact ih (step.compile (some before))
  obtain ⟨c, hc⟩ := hsome
  unfold compile
  rw [hc]
  rfl

/-- The last step is compiled after all others. -/
theorem compile_concat (before : Flow H (List H.Element)) (steps : List (Step H)) (step : Step H) :
    compile ⟨steps ++ [step]⟩ (some before) =
      step.compile (some (compile ⟨steps⟩ (some before))) := by
  rw [compile, compileSteps_append, compileSteps_some]
  rfl

/-- A selector with steps fails without elements. -/
theorem strict_findAll {a : Selector H} (ha : a.steps ≠ []) : a.findAll.Strict d := by
  obtain ⟨steps⟩ := a
  obtain ⟨init, last, rfl⟩ : ∃ init last, steps = init ++ [last] :=
    ⟨_, _, (List.dropLast_concat_getLast ha).symm⟩
  have hfind : (Selector.mk (init ++ [last])).findAll = last.compile (compileSteps none init) := by
    rw [findAll, compile, compileSteps_append]
    rfl
  rw [hfind]
  exact Step.strict_compile last _

/-- Going on from a flow with the steps of a direct selector is binding the flow to them. The
induction is on the last step, which `bind` associates to the right. -/
theorem compile_behaviour {b : Selector H} (hb : b.Direct) {c : Flow H (List H.Element)}
    (hc : c.Strict d) (env : H.Env) {s : H.State} (hs : s.failures = []) (w : H.World) :
    (b.compile (some c)).behaviour d env s w =
      (c.bind fun found => .ok (b.compile (some (.pure found)))).behaviour d env s w := by
  obtain ⟨steps⟩ := b
  induction steps using List.reverseRecOn with
  | nil =>
    have hvalue : (c.behaviour d env s w).dropFaultedValue = c.behaviour d env s w := by
      have hstrict := (hc env s w hs).outcome
      rw [← Flow.history_eq] at hstrict
      exact congrArg (fun o => (⟨_, o, _⟩ : History H _)) hstrict
    exact hvalue.symm.trans (Flow.bind_pure_behaviour d env c s w).symm
  | append_singleton steps step ih =>
    have hsteps : Direct ⟨steps⟩ := fun x hx => hb x (List.mem_append_left _ hx)
    obtain ⟨f, calm, hstep⟩ := (hb step (by simp)).compile_eq_bind
    calc
      (compile ⟨steps ++ [step]⟩ (some c)).behaviour d env s w
        = ((compile ⟨steps⟩ (some c)).bind f).behaviour d env s w := by
          rw [compile_concat, hstep]
      _ = ((c.bind fun found => .ok (compile ⟨steps⟩ (some (.pure found)))).bind f).behaviour
            d env s w := by
          rw [Flow.behaviour_bind, ih hsteps, ← Flow.behaviour_bind]
      _ = (c.bind fun found =>
            .ok ((compile ⟨steps⟩ (some (.pure found))).bind f)).behaviour d env s w :=
          Flow.bind_bind_behavesAs c _ calm d env s w
      _ = (c.bind fun found =>
            .ok (compile ⟨steps ++ [step]⟩ (some (.pure found)))).behaviour d env s w := by
          simp only [compile_concat, hstep]

/-- Two selectors one after the other are the second one, compiled after the search of the first. -/
theorem findAll_append_eq {a : Selector H} (ha : a.steps ≠ []) (b : Selector H) :
    (a ++ b).findAll = b.compile (some a.findAll) := by
  obtain ⟨first, rest, hsteps⟩ := List.exists_cons_of_ne_nil ha
  have hfound : compileSteps none a.steps = some a.findAll := by
    have hrest : compileSteps none a.steps = some (compile ⟨rest⟩ (some (first.compile none))) := by
      rw [hsteps]
      exact compileSteps_some _ rest
    rw [findAll, compile, hrest]
    rfl
  rw [findAll, compile, steps_append, compileSteps_append, hfound]
  rfl

/-- Finding the elements of `a` and then `b` behaves as finding those of `a` and going on from them
with `b`, and the rest of a longer concatenation may be cut off at either place. -/
theorem findAll_append {a b : Selector H} (ha : a.steps ≠ []) (hb : b.Direct) (d : Driver H)
    (env : H.Env) {s : H.State} (hs : s.failures = []) (w : H.World) :
    (a ++ b).findAll.behaviour d env s w =
        (a.findAll.bind fun found => .ok (b.compile (some (.pure found)))).behaviour d env s w ∧
      ∀ c : Selector H, c.Direct →
        ((a ++ b).findAll.bind fun found =>
            .ok (c.compile (some (.pure found)))).behaviour d env s w =
          (a.findAll.bind fun found =>
            .ok ((b ++ c).compile (some (.pure found)))).behaviour d env s w := by
  have hcut : ∀ {x y : Selector H}, x.steps ≠ [] → y.Direct →
      (x ++ y).findAll.behaviour d env s w =
        (x.findAll.bind fun found => .ok (y.compile (some (.pure found)))).behaviour d env s w := by
    intro x y hx hy
    rw [findAll_append_eq hx]
    exact compile_behaviour hy (strict_findAll hx) env hs w
  refine ⟨hcut ha hb, fun c hc => ?_⟩
  have hab : (a ++ b).steps ≠ [] := by simp [ha]
  have hbc : (b ++ c).Direct := List.forall_mem_append.mpr ⟨hb, hc⟩
  -- both are the stages of one concatenation
  have hassoc : (a ++ b) ++ c = a ++ (b ++ c) := congrArg Selector.mk (List.append_assoc _ _ _)
  rw [← hcut hab hc, hassoc, hcut ha hbc]

/-- A first stage that waits, a second one that looks inside what was found, checks it by code of
its own and picks from it, and a check at the end. -/
theorem findAll_append_waiting :
    let start : Host.refusing.State := Host.refusing.initialState (some ()) { sinks := () }
    let a : Selector Host.refusing := (css "ul").waitUntilExists
    let b : Selector Host.refusing :=
      ((css "li").filterBy (.custom fun found => .ok (.info (toString found.length)))
        "told").atIndex 1
    let c : Selector Host.refusing := identity.whenSingle
    a.steps ≠ [] ∧ b.Direct ∧ c.Direct ∧ start.failures = [] ∧
      (a ++ b).findAll.behaviour .blocking () start (0 : Nat) =
        (a.findAll.bind fun found => .ok (b.compile (some (.pure found)))).behaviour .blocking ()
          start (0 : Nat) ∧
      ((a ++ b).findAll.bind fun found => .ok (c.compile (some (.pure found)))).behaviour .blocking
          () start (0 : Nat) =
        (a.findAll.bind fun found => .ok ((b ++ c).compile (some (.pure found)))).behaviour
          .blocking () start (0 : Nat) := by
  intro start a b c
  have ha : a.steps ≠ [] := List.cons_ne_nil _ _
  have hb : b.Direct := by
    simp only [Direct, b, atIndex, filterBy, andThen, css, of, ofCriterion, List.cons_append,
      List.nil_append, List.forall_mem_cons]
    exact ⟨trivial, fun found => Act.calm_ok _, trivial, fun step hstep => nomatch hstep⟩
  have hc : c.Direct := by
    intro step hstep
    obtain rfl := List.mem_singleton.mp hstep
    exact fun found => Act.calm_ok _
  obtain ⟨hstages, hcuts⟩ := findAll_append ha hb .blocking () (s := start) rfl (0 : Nat)
  exact ⟨ha, hb, hc, rfl, hstages, hcuts c hc⟩

end Selector

end Walkthrough
