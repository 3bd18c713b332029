import Walkthrough.Proofs.Behaviour.Basic
import Walkthrough.Proofs.Run.Keeps

/-!
# Alternatives

When a flow fails, its alternative is run from the same state, and nothing of the failed flow is
left in the state but its failures (`Outcome.afterFailing`). So what is seen of alternatives is what
is seen of each of them, alone and from that state, up to the first that succeeds; when none does,
the state is left as it was, with the failures of all in their order. How the alternatives are put
in parentheses does not count (`Flow.orElse_alternatives`).

An alternative may be made by a function of the failures. When the function gives a flow, be it one
that throws as soon as it is started, the failures of both are kept. What the function itself throws
leaves the step, and of the failures that it was called with none is kept
(`Flow.orElseWith_failures`).
-/

namespace Walkthrough

variable {H : Host} {α : Type}

/-! ## One flow in the place of another -/

namespace Outcome

/-- How an alternative ends that was run from `s` after others had failed with `fs`: a success stays
as it is, and with a failure there are those of all in the state `s`. -/
def afterFailing (s : H.State) (fs : List Failure) : Outcome H α → Outcome H α
  | success a t sound => success a t sound
  | faulted _ t unsound => faulted none (s.addFailures (fs ++ t.failures)) (by simp [unsound])

variable {s : H.State} {fs gs : List Failure} {o : Outcome H α}

/-- An outcome is faulted before and after failures are put in front. -/
@[simp] theorem isFaulted_afterFailing : (o.afterFailing s fs).isFaulted = o.isFaulted := by
  cases o <;> rfl

/-- A success forgets the failures before it. -/
theorem afterFailing_of_unfaulted (h : o.isFaulted = false) : o.afterFailing s fs = o := by
  cases o with
  | success a t sound => rfl
  | faulted v t unsound => cases h

/-- A failure after failures leaves the state that all were run from, with one after the other. -/
theorem afterFailing_of_faulted (h : o.isFaulted = true) :
    (o.afterFailing s fs).value? = none ∧
      (o.afterFailing s fs).state = s.addFailures (fs ++ o.failures) := by
  cases o with
  | success a t sound => cases h
  | faulted v t unsound => exact ⟨rfl, rfl⟩

/-- A failure comes after the failures before it. -/
theorem failures_afterFailing (hs : s.failures = []) (h : o.isFaulted = true) :
    (o.afterFailing s fs).failures = fs ++ o.failures := by
  rw [failures, (afterFailing_of_faulted h).2, RunState.failures_addFailures, hs, List.nil_append]

/-- What is thrown is the only failure of a state that had none. -/
theorem failures_raised (hs : s.failures = []) (e : Thrown) :
    (raised s e : Outcome H α).failures = [.ofThrown e none] := by
  show (s.addFailures [.ofThrown e none]).failures = _
  rw [RunState.failures_addFailures, hs, List.nil_append]

/-- Failures that are put in front twice keep their order. -/
theorem afterFailing_afterFailing (hs : s.failures = []) :
    (o.afterFailing s gs).afterFailing s fs = o.afterFailing s (fs ++ gs) := by
  cases o with
  | success a t sound => rfl
  | faulted v t unsound => simp [afterFailing, hs]

end Outcome

namespace History

/-- Goes on from the failures; a success is the end. -/
def onFailure (h : History H α) (f : List Failure → H.World → History H α) : History H α :=
  h.andThen fun o w =>
    match o with
    | .success .. => atOnce o w
    | .faulted _ t _ => f t.failures w

/-- The history of an alternative, with the failures of those before it. -/
def afterFailing (h : History H α) (s : H.State) (fs : List Failure) : History H α :=
  { h with outcome := h.outcome.afterFailing s fs }

variable {h : History H α} {s : H.State}

/-- A success has no use for an alternative. -/
theorem onFailure_of_unfaulted (hout : h.outcome.isFaulted = false)
    (f : List Failure → H.World → History H α) : h.onFailure f = h := by
  obtain ⟨events, o, w⟩ := h
  cases o with
  | success a t sound => simp [onFailure, andThen, after, atOnce]
  | faulted v t unsound => cases hout

/-- After a failure the alternative is run, from the failures and the world that were left. -/
theorem onFailure_of_faulted (hout : h.outcome.isFaulted = true)
    (f : List Failure → H.World → History H α) :
    h.onFailure f = (f h.outcome.failures h.world).after h.events := by
  obtain ⟨events, o, w⟩ := h
  cases o with
  | success a t sound => cases hout
  | faulted v t unsound => rfl

/-- Alternatives may be put in parentheses in either way. -/
theorem onFailure_assoc (h : History H α) (f g : List Failure → H.World → History H α) :
    (h.onFailure f).onFailure g = h.onFailure fun fs w => (f fs w).onFailure g := by
  unfold onFailure
  rw [andThen_assoc]
  refine congrArg h.andThen (funext fun o => funext fun w => ?_)
  cases o with
  | success a t sound => rfl
  | faulted v t unsound => rfl

/-- The same for the history of a success. -/
theorem afterFailing_of_unfaulted (hout : h.outcome.isFaulted = false) (fs : List Failure) :
    h.afterFailing s fs = h := by
  rw [afterFailing, Outcome.afterFailing_of_unfaulted hout]

/-- The failures of earlier alternatives may be put in front before the next one is run, or after
that. -/
theorem afterFailing_onFailure (hs : s.failures = []) (fs : List Failure)
    (next : H.World → History H α) :
    ((h.afterFailing s fs).onFailure fun gs w => (next w).afterFailing s gs) =
      (h.onFailure fun gs w => (next w).afterFailing s gs).afterFailing s fs := by
  have hkept : (h.afterFailing s fs).outcome.isFaulted = h.outcome.isFaulted :=
    Outcome.isFaulted_afterFailing
  cases hout : h.outcome.isFaulted with
  | false => rw [onFailure_of_unfaulted (hkept.trans hout), onFailure_of_unfaulted hout]
  | true =>
    rw [onFailure_of_faulted (hkept.trans hout), onFailure_of_faulted hout]
    simp only [afterFailing, after, Outcome.failures_afterFailing hs hout,
      Outcome.afterFailing_afterFailing hs]

end History

/-! ## Alternatives of flows -/

namespace Flow

section

variable (d : Driver H) (env : H.Env) (s : H.State) (w : H.World)

/-- What is seen of the alternative that outside code makes in a step that was started from `s`,
after a flow has failed with `fs`, or when the code throws. -/
def behaviourInstead (made : Except Thrown (Flow H α) × H.World) (fs : List Failure) :
    History H α :=
  match made with
  | (.ok c, w) => (c.behaviour d env s w).afterFailing s fs
  | (.error e, w) => .atOnce (.raised s e) w

/-- `orElseWith` in one equation: the alternative is made from the failures, and run from the state
that all was started from. -/
theorem behaviour_orElseWith (c : Flow H α) (f : List Failure → Act H.World (Flow H α)) :
    (c.orElseWith f).behaviour d env s w =
      (c.behaviour d env s w).onFailure fun fs w' => behaviourInstead d env s (f fs w') fs := by
  rw [behaviour_eq (c.orElseWith f)]
  unfold orElseWith
  rw [Program.outward_run]
  refine congrArg (History.andThen _) (funext fun o => funext fun w' => ?_)
  cases o with
  | success a t sound => rfl
  | faulted v t unsound =>
    dsimp only
    rcases f t.failures w' with ⟨e | c', w''⟩
    · rfl
    · show (Program.history d (.run c' env s w'' _) s).outward =
        (c'.behaviour d env s w'').afterFailing s t.failures
      rw [Program.outward_run]
      -- what is done about the outcome of the alternative shows nothing
      obtain ⟨events, o, v⟩ := c'.behaviour d env s w''
      cases o with
      | success a u hu =>
        simp [History.andThen, History.after, Program.history, History.outward,
          History.afterFailing, Outcome.afterFailing]
      | faulted b u hu =>
        simp [History.andThen, History.after, Program.history, History.outward,
          History.afterFailing, Outcome.afterFailing]

/-- The same for an alternative that is there already. -/
theorem behaviour_orElse (c c' : Flow H α) :
    (c.orElse c').behaviour d env s w =
      (c.behaviour d env s w).onFailure fun fs w' => (c'.behaviour d env s w').afterFailing s fs :=
  behaviour_orElseWith d env s w c _

/-- The alternative of a flow that ends well is never run. -/
theorem behaviour_orElse_of_success {c : Flow H α}
    (hc : (c.behaviour d env s w).outcome.isFaulted = false) (c' : Flow H α) :
    (c.orElse c').behaviour d env s w = c.behaviour d env s w := by
  rw [behaviour_orElse]
  exact History.onFailure_of_unfaulted hc _

variable {s}

/-- The parentheses of alternatives do not count. -/
theorem orElse_assoc_behaviour (hs : s.failures = []) (a b c : Flow H α) :
    ((a.orElse b).orElse c).behaviour d env s w =
      (a.orElse (b.orElse c)).behaviour d env s w := by
  simp only [behaviour_orElse, History.onFailure_assoc, History.afterFailing_onFailure hs]

end

section

variable {c : Flow H α} {d : Driver H} {env : H.Env} {s : H.State} {w v : H.World}
  (hc : (c.behaviour d env s w).outcome.isFaulted = true)
  {f : List Failure → Act H.World (Flow H α)}

include hc

/-- When the alternative could be made, its failures come after those of the first flow. -/
theorem behaviour_orElseWith_of_made {c' : Flow H α}
    (hf : f (c.behaviour d env s w).outcome.failures (c.behaviour d env s w).world = (.ok c', v)) :
    (c.orElseWith f).behaviour d env s w =
      ((c'.behaviour d env s v).afterFailing s (c.behaviour d env s w).outcome.failures).after
        (c.behaviour d env s w).events := by
  rw [behaviour_orElseWith, History.onFailure_of_faulted hc, hf]
  rfl

/-- When making it throws, that is the only failure, and those of the first flow are lost. -/
theorem behaviour_orElseWith_throws {e : Thrown}
    (hf : f (c.behaviour d env s w).outcome.failures (c.behaviour d env s w).world =
      (.error e, v)) :
    (c.orElseWith f).behaviour d env s w =
      ⟨(c.behaviour d env s w).events, .raised s e, v⟩ := by
  rw [behaviour_orElseWith, History.onFailure_of_faulted hc, hf]
  simp [behaviourInstead, History.after, History.atOnce]

/-- An alternative that is there already is always run after a failure. -/
theorem behaviour_orElse_of_failure (c' : Flow H α) :
    (c.orElse c').behaviour d env s w =
      ((c'.behaviour d env s (c.behaviour d env s w).world).afterFailing s
        (c.behaviour d env s w).outcome.failures).after (c.behaviour d env s w).events :=
  behaviour_orElseWith_of_made hc rfl

/-- With an alternative that was made, both fail or none does, and the failures of both are kept. -/
theorem failures_orElseWith_of_made (hs : s.failures = []) {c' : Flow H α}
    (hf : f (c.behaviour d env s w).outcome.failures (c.behaviour d env s w).world = (.ok c', v)) :
    let whole := (c.orElseWith f).behaviour d env s w
    whole.outcome.isFaulted = (c'.behaviour d env s v).outcome.isFaulted ∧
      (whole.outcome.isFaulted = true → whole.outcome.failures =
        (c.behaviour d env s w).outcome.failures ++
          (c'.behaviour d env s v).outcome.failures) := by
  intro whole
  have hwhole := congrArg History.outcome (behaviour_orElseWith_of_made hc hf)
  have hfaulted : whole.outcome.isFaulted = (c'.behaviour d env s v).outcome.isFaulted :=
    (congrArg Outcome.isFaulted hwhole).trans Outcome.isFaulted_afterFailing
  refine ⟨hfaulted, fun hfails => ?_⟩
  exact (congrArg Outcome.failures hwhole).trans
    (Outcome.failures_afterFailing hs (hfaulted.symm.trans hfails))

end

/-- Of three alternatives the first that succeeds is seen as it is alone, from the state that all
are run from, after what the others before it have done outside. When all fail, that state is left
with the failures of all, in their order. The parentheses do not count. -/
theorem orElse_alternatives (a b c : Flow H α) (d : Driver H) (env : H.Env) {s : H.State}
    (hs : s.failures = []) (w : H.World) :
    let first := a.behaviour d env s w
    let second := b.behaviour d env s first.world
    let third := c.behaviour d env s second.world
    let whole := ((a.orElse b).orElse c).behaviour d env s w
    whole = (a.orElse (b.orElse c)).behaviour d env s w ∧
      (first.outcome.isFaulted = false → whole = first) ∧
      (first.outcome.isFaulted = true → second.outcome.isFaulted = false →
        whole = second.after first.events) ∧
      (first.outcome.isFaulted = true → second.outcome.isFaulted = true →
        third.outcome.isFaulted = false → whole = third.after (first.events ++ second.events)) ∧
      (first.outcome.isFaulted = true → second.outcome.isFaulted = true →
        third.outcome.isFaulted = true →
        whole.events = first.events ++ second.events ++ third.events ∧
          whole.outcome.value? = none ∧ whole.world = third.world ∧
          whole.outcome.state = s.addFailures
            (first.outcome.failures ++ second.outcome.failures ++ third.outcome.failures)) := by
  intro first second third whole
  have hwhole : whole = (a.orElse (b.orElse c)).behaviour d env s w :=
    orElse_assoc_behaviour d env w hs a b c
  have hfailed : first.outcome.isFaulted = true → whole =
      (((b.orElse c).behaviour d env s first.world).afterFailing s
        first.outcome.failures).after first.events := by
    intro hfirst
    rw [hwhole]
    exact behaviour_orElse_of_failure hfirst _
  have hthird : first.outcome.isFaulted = true → second.outcome.isFaulted = true → whole =
      (third.afterFailing s (first.outcome.failures ++ second.outcome.failures)).after
        (first.events ++ second.events) := by
    intro hfirst hsecond
    rw [hfailed hfirst, behaviour_orElse_of_failure hsecond]
    simp only [third, second, first, History.afterFailing, History.after,
      Outcome.afterFailing_afterFailing hs, List.append_assoc]
  refine ⟨hwhole, fun hfirst => ?_, fun hfirst hsecond => ?_, fun hfirst hsecond hlast => ?_,
    fun hfirst hsecond hlast => ?_⟩
  · rw [hwhole]
    exact behaviour_orElse_of_success d env s w hfirst _
  · rw [hfailed hfirst, behaviour_orElse_of_success d env s first.world hsecond]
    exact congrArg (History.after · first.events) (History.afterFailing_of_unfaulted hsecond _)
  · rw [hthird hfirst hsecond, History.afterFailing_of_unfaulted hlast]
  · rw [hthird hfirst hsecond]
    exact ⟨rfl, (Outcome.afterFailing_of_faulted hlast).1, rfl,
      (Outcome.afterFailing_of_faulted hlast).2⟩

/-- The first alternative has written a line when it fails, the second one has set the
configuration, and the last one fails twice. -/
theorem orElse_alternatives_exhausted :
    let broken : String → Failure := .ofMessage .assertion
    let a : Flow Host.refusing Unit := (info "looked").andThen (failure (broken "banner") [])
    let b : Flow Host.refusing Unit :=
      (initConfig [("shop", "books")]).andThen (failure (broken "shop") [])
    let c : Flow Host.refusing Unit := failure (broken "price") [broken "stock"]
    let whole := ((a.orElse b).orElse c).behaviour .blocking () Host.refusingStart (0 : Nat)
    Host.refusingStart.failures = [] ∧
      whole = (a.orElse (b.orElse c)).behaviour .blocking () Host.refusingStart (0 : Nat) ∧
      whole.outcome.value? = none ∧
      whole.outcome.state = Host.refusingStart.addFailures
        [broken "banner", broken "shop", broken "price", broken "stock"] := by
  intro broken a b c whole
  obtain ⟨hwhole, -, -, -, hall⟩ :=
    orElse_alternatives a b c .blocking () (s := Host.refusingStart) rfl (0 : Nat)
  have ha : (a.behaviour .blocking () Host.refusingStart (0 : Nat)).outcome.failures =
      [broken "banner"] := by
    rw [behaviour_eq]
    rfl
  have hb : ∀ v, (b.behaviour .blocking () Host.refusingStart v).outcome.failures =
      [broken "shop"] := by
    intro v
    rw [behaviour_eq]
    rfl
  have hc : ∀ v, (c.behaviour .blocking () Host.refusingStart v).outcome.failures =
      [broken "price", broken "stock"] := by
    intro v
    rw [behaviour_eq]
    rfl
  obtain ⟨-, hvalue, -, hstate⟩ := hall (Outcome.isFaulted_iff.mpr (by simp [ha]))
    (Outcome.isFaulted_iff.mpr (by simp [hb])) (Outcome.isFaulted_iff.mpr (by simp [hc]))
  rw [ha, hb, hc] at hstate
  exact ⟨rfl, hwhole, hvalue, hstate⟩

/-- A flow has failed. When its alternative, or the function that makes one, gives a flow, the whole
fails with that flow, and then the failures of the first flow come before those of the second; a
flow that throws when it is started is no exception. Only when the function itself throws are the
failures of the first flow lost: what is left is the state that both are run from, with what was
thrown. -/
theorem orElseWith_failures {c : Flow H α} {d : Driver H} {env : H.Env} {s : H.State}
    (hs : s.failures = []) {w : H.World}
    (hc : (c.behaviour d env s w).outcome.isFaulted = true) :
    let left := c.behaviour d env s w
    (∀ c' : Flow H α,
      let right := c'.behaviour d env s left.world
      let whole := (c.orElse c').behaviour d env s w
      whole.outcome.isFaulted = right.outcome.isFaulted ∧
        (whole.outcome.isFaulted = true →
          whole.outcome.failures = left.outcome.failures ++ right.outcome.failures)) ∧
    ∀ f : List Failure → Act H.World (Flow H α),
      let whole := (c.orElseWith f).behaviour d env s w
      (∀ c' v, f left.outcome.failures left.world = (.ok c', v) →
        let right := c'.behaviour d env s v
        whole.outcome.isFaulted = right.outcome.isFaulted ∧
          (whole.outcome.isFaulted = true →
            whole.outcome.failures = left.outcome.failures ++ right.outcome.failures)) ∧
      (∀ e v, f left.outcome.failures left.world = (.ok (throwing e), v) →
        whole.outcome.failures = left.outcome.failures ++ [.ofThrown e none]) ∧
      (∀ e v, f left.outcome.failures left.world = (.error e, v) →
        whole = ⟨left.events, .raised s e, v⟩ ∧ whole.outcome.failures = [.ofThrown e none]) := by
  intro left
  refine ⟨fun c' => failures_orElseWith_of_made hc hs rfl,
    fun f => ⟨fun c' v hf => failures_orElseWith_of_made hc hs hf, fun e v hf => ?_,
      fun e v hf => ?_⟩⟩
  · have hthrew : (throwing e : Flow H α).behaviour d env s v = .atOnce (.raised s e) v := by
      rw [behaviour_eq]
      rfl
    obtain ⟨hfaulted, hfailures⟩ := failures_orElseWith_of_made hc hs hf
    rw [hthrew] at hfaulted hfailures
    exact (hfailures hfaulted).trans (congrArg (_ ++ ·) (Outcome.failures_raised hs e))
  · have hwhole := behaviour_orElseWith_throws hc hf
    refine ⟨hwhole, ?_⟩
    rw [hwhole]
    exact Outcome.failures_raised hs e

/-- The function that makes the alternative of a failed flow gives a flow that fails as well, or a
flow that throws when it is started, or throws itself. -/
theorem orElseWith_failures_told :
    let broken : Thrown := .fault ⟨"RuntimeError", "broken"⟩
    let c : Flow Host.refusing Unit := failWith "left"
    let c' : Flow Host.refusing Unit := failWith "right"
    let texts : (List Failure → Act Nat (Flow Host.refusing Unit)) → List String := fun f =>
      ((c.orElseWith f).behaviour .blocking () Host.refusingStart
        (0 : Nat)).outcome.failures.map Failure.text
    Host.refusingStart.failures = [] ∧
      (c.behaviour .blocking () Host.refusingStart (0 : Nat)).outcome.isFaulted = true ∧
      texts (fun _ => .ok c') = ["left", "right"] ∧
      texts (fun _ => .ok (throwing broken)) = ["left", "broken"] ∧
      texts (fun _ => .throw broken) = ["broken"] := by
  intro broken c c' texts
  obtain ⟨hc, hleft⟩ : (c.behaviour .blocking () Host.refusingStart
      (0 : Nat)).outcome.isFaulted = true ∧ (c.behaviour .blocking () Host.refusingStart
        (0 : Nat)).outcome.failures.map Failure.text = ["left"] := by
    rw [behaviour_eq]
    exact ⟨rfl, rfl⟩
  have hright : ∀ v, (c'.behaviour .blocking () Host.refusingStart v).outcome.isFaulted = true ∧
      (c'.behaviour .blocking () Host.refusingStart v).outcome.failures.map Failure.text =
        ["right"] := by
    intro v
    rw [behaviour_eq]
    exact ⟨rfl, rfl⟩
  obtain ⟨-, hmade⟩ := orElseWith_failures (s := Host.refusingStart) rfl hc
  refine ⟨rfl, hc, ?_, ?_, ?_⟩
  · obtain ⟨hboth, -, -⟩ := hmade fun _ => .ok c'
    obtain ⟨hfaulted, hfailures⟩ := hboth _ _ rfl
    obtain ⟨hfails, hright⟩ := hright _
    refine (congrArg (List.map Failure.text) (hfailures (hfaulted.trans hfails))).trans ?_
    rw [List.map_append, hleft, hright]
    rfl
  · obtain ⟨-, hthrown, -⟩ := hmade fun _ => .ok (throwing broken)
    refine (congrArg (List.map Failure.text) (hthrown broken _ rfl)).trans ?_
    rw [List.map_append, hleft]
    rfl
  · obtain ⟨-, -, hthrew⟩ := hmade fun _ => .throw broken
    exact congrArg (List.map Failure.text) (hthrew broken _ rfl).2

/-- The function that makes the alternative throws: the failures of the whole do not begin with that
of the flow that has failed, although both sides have failed. -/
theorem orElseWith_failures_lost :
    let broken : Thrown := .fault ⟨"RuntimeError", "broken"⟩
    let c : Flow Host.refusing Unit := failWith "left"
    let left := c.history .blocking () Host.refusingStart (0 : Nat)
    let whole := (c.orElseWith fun _ => .throw broken).history .blocking () Host.refusingStart
      (0 : Nat)
    left.outcome.isFaulted = true ∧ left.outcome.failures.map Failure.text = ["left"] ∧
      whole.outcome.isFaulted = true ∧ whole.outcome.failures.map Failure.text = ["broken"] ∧
      ¬ left.outcome.failures <+: whole.outcome.failures := by
  intro broken c left whole
  have hleft : left = (c () Host.refusingStart (0 : Nat)).history .blocking Host.refusingStart :=
    history_eq ..
  have hwhole : whole = ((c.orElseWith fun _ => .throw broken) () Host.refusingStart
      (0 : Nat)).history .blocking Host.refusingStart := history_eq ..
  have hkept : left.outcome.failures.map Failure.text = ["left"] := by
    rw [hleft]
    rfl
  have hlost : whole.outcome.failures.map Failure.text = ["broken"] := by
    rw [hwhole]
    rfl
  refine ⟨?_, hkept, ?_, hlost, fun hbegins => ?_⟩
  · rw [hleft]
    rfl
  · rw [hwhole]
    rfl
  · have htexts := hbegins.map Failure.text
    rw [hkept, hlost] at htexts
    simp at htexts

end Flow

end Walkthrough
