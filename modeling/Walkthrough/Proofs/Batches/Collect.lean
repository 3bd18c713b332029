import Walkthrough.Proofs.Batches.Sequence

/-!
# Batches that go on after a failure

`Flow.collect` takes the turns of all its items, also of those behind a failure: each item is run
once, from the state that the one before it has left, with nothing but its failures cleared. As long
as nothing fails it is `Flow.sequence`, whose turns are the first ones of these. When an item fails,
the failures of all items are folded into one, in the order of the items, and every item has its
place among the values (`Flow.collect_extends`).
-/

namespace Walkthrough

variable {H : Host} {α : Type}

namespace Batch

/-- The failures that the item leaves. -/
abbrev Turn.failures (d : Driver H) (env : H.Env) (x : Turn H α) : List Failure :=
  (x.history d env).outcome.failures

variable {d : Driver H} {env : H.Env} {s t : H.State} {w v : H.World} {xs : List (Turn H α)}

/-- Items that give values leave no failures. -/
theorem failures_of_given {values : List α}
    (h : xs.map (Turn.given? d env) = values.map some) : xs.flatMap (Turn.failures d env) = [] := by
  rw [List.flatMap_eq_nil_iff]
  intro x hx
  have hmem : x.given? d env ∈ values.map some := h ▸ List.mem_map_of_mem hx
  obtain ⟨a, -, ha⟩ := List.mem_map.mp hmem
  obtain ⟨u, sound, ho⟩ := Turn.given?_eq_some ha.symm
  show (x.history d env).outcome.state.failures = []
  rw [ho]
  exact sound

end Batch

namespace Flow

open Batch

/-- A batch that has left failures is faulted by one failure with all of them. -/
theorem settleBatch_of_failed {values : List (Option α)} {failed : List Failure} (h : failed ≠ [])
    (s : H.State) :
    settleBatch values failed s =
      .faulted (some values) (s.withFailures [.collected failed]) (List.cons_ne_nil _ _) := by
  cases failed with
  | nil => exact absurd rfl h
  | cons f fs => rfl

section

variable {d : Driver H} {env : H.Env} {s t : H.State} {w v : H.World} {xs : List (Turn H α)}

/-- A batch takes the turns of all its items, and gathers what they give and the failures that they
leave. -/
theorem leads_collectFrom (htaken : Taken d env s w xs t v) (gathered : List (Option α))
    (failed : List Failure) :
    (collectFrom env gathered failed (xs.map Turn.item) s w).Leads d
      (xs.flatMap (Turn.trace d env))
      (.finish (settleBatch (gathered.reverse ++ xs.map (Turn.given? d env))
        (failed ++ xs.flatMap (Turn.failures d env)) t) v) := by
  induction htaken generalizing gathered failed with
  | none s w =>
    simp only [List.map_nil, List.flatMap_nil, List.append_nil]
    exact .refl _
  | @next s t w v xs item htaken ih =>
    have hrest := ih (Turn.given? d env ⟨item, s, w⟩ :: gathered)
      (failed ++ Turn.failures d env ⟨item, s, w⟩)
    rw [List.reverse_cons, List.append_assoc, List.append_assoc] at hrest
    rw [List.map_cons, collectFrom, List.flatMap_cons, List.map_cons, List.flatMap_cons]
    exact .run_trans hrest

/-- A batch of items that all give values gives these. -/
theorem leads_collect_of_given (htaken : Taken d env s w xs t v) (hs : s.failures = [])
    {values : List α} (hgiven : xs.map (Turn.given? d env) = values.map some) :
    (collect (xs.map Turn.item) env s w).Leads d (xs.flatMap (Turn.trace d env))
      (.finish (.success (values.map some) t (htaken.failures_eq_nil hs)) v) := by
  have hrun := leads_collectFrom htaken [] []
  have hdone : settleBatch (values.map some) [] t =
      .success (values.map some) t (htaken.failures_eq_nil hs) := Outcome.of_eq_success _
  rw [hgiven, failures_of_given hgiven] at hrun
  exact hdone ▸ hrun

/-- A batch goes on behind the first item that fails, and is faulted in the end by one failure with
all of them. -/
theorem leads_collect_of_failed {before after : List (Turn H α)} {x : Turn H α}
    (htaken : Taken d env s w (before ++ x :: after) t v) {values : List α}
    (hgiven : before.map (Turn.given? d env) = values.map some) {u? : Option α} {u : H.State}
    {unsound : u.failures ≠ []} (hx : (x.history d env).outcome = .faulted u? u unsound) :
    (collect ((before ++ x :: after).map Turn.item) env s w).Leads d
      ((before ++ x :: after).flatMap (Turn.trace d env))
      (.finish
        (.faulted (some (values.map some ++ none :: after.map (Turn.given? d env)))
          (t.withFailures [.collected (u.failures ++ after.flatMap (Turn.failures d env))])
          (List.cons_ne_nil _ _)) v) := by
  have hrun := leads_collectFrom htaken [] []
  have hnone : x.given? d env = none := by
    unfold Turn.given?
    rw [hx]
  have hvalues : (before ++ x :: after).map (Turn.given? d env) =
      values.map some ++ none :: after.map (Turn.given? d env) := by
    rw [List.map_append, hgiven, List.map_cons, hnone]
  -- nothing before the first failure has failed, so its failures are the first ones
  have hfailures : (before ++ x :: after).flatMap (Turn.failures d env) =
      u.failures ++ after.flatMap (Turn.failures d env) := by
    rw [List.flatMap_append, failures_of_given hgiven, List.nil_append, List.flatMap_cons]
    exact congrArg (·.failures ++ _) hx
  have hsome : u.failures ++ after.flatMap (Turn.failures d env) ≠ [] :=
    List.append_ne_nil_of_left_ne_nil unsound _
  rw [List.reverse_nil, List.nil_append, List.nil_append, hvalues, hfailures,
    settleBatch_of_failed hsome] at hrun
  exact hrun

end

/-- What `collect` does beyond `sequence`, run from the same unfaulted state in the same world. All
of its items are run in their order, each once, from the state that the one before it has left with
its failures cleared, in the world that is left then. When all of them give values, both batches run
the same and give these values. Otherwise there is a first item that fails, which is where
`sequence` ends, with the failures of this item; `collect` goes on, and ends faulted by one failure,
whose members are those failures and behind them the failures of the later items in their order. Its
value has one place for each item, without a value where the item has failed. The state is the one
that the last item has left, with that failure in place of its own. -/
theorem collect_extends (d : Driver H) (env : H.Env) (items : List (Flow H α)) {s : H.State}
    (hs : s.failures = []) (w : H.World) :
    let strict := (sequence items).history d env s w
    let lax := (collect items).history d env s w
    ∃ (xs : List (Turn H α)) (t : H.State),
      Taken d env s w xs t lax.world ∧ xs.map Turn.item = items ∧
      (collect items).trace d env s w =
        .entered ⟨collect items, env, s, w⟩ ::
          (xs.flatMap (Turn.trace d env) ++ [.left lax.outcome]) ∧
      ((∃ (values : List α) (sound : t.failures = []),
          strict.outcome = .success values t sound ∧
          lax.outcome = .success (values.map some) t sound ∧ lax.world = strict.world ∧
          (sequence items).trace d env s w =
            .entered ⟨sequence items, env, s, w⟩ ::
              (xs.flatMap (Turn.trace d env) ++ [.left strict.outcome])) ∨
        ∃ (before : List (Turn H α)) (x : Turn H α) (after : List (Turn H α)) (values : List α)
          (value? : Option α) (u : H.State) (unsound : u.failures ≠ []),
          xs = before ++ x :: after ∧ before.map (Turn.given? d env) = values.map some ∧
          (x.history d env).outcome = .faulted value? u unsound ∧
          strict.outcome = .faulted none u unsound ∧
          (sequence items).trace d env s w =
            .entered ⟨sequence items, env, s, w⟩ ::
              ((before ++ [x]).flatMap (Turn.trace d env) ++ [.left strict.outcome]) ∧
          lax.outcome =
            .faulted (some (values.map some ++ none :: after.map (Turn.given? d env)))
              (t.withFailures
                [.collected (u.failures ++ after.flatMap (Turn.failures d env))])
              (List.cons_ne_nil _ _)) := by
  intro strict lax
  obtain ⟨xs, t, v, htaken, rfl⟩ := exists_taken d env items s w
  rcases given_or_failed d env xs with
    ⟨values, hgiven⟩ | ⟨before, x, after, values, rfl, hgiven, hfailed⟩
  · have hlax := leads_collect_of_given htaken hs hgiven
    have hstrict := leads_sequence_of_given htaken hs hgiven
    have hworld : lax.world = v := world_of_leads hlax
    exact ⟨xs, t, hworld.symm ▸ htaken, rfl, trace_of_leads_finish hlax,
      .inl ⟨values, htaken.failures_eq_nil hs, outcome_of_leads hstrict, outcome_of_leads hlax,
        hworld.trans (world_of_leads hstrict).symm, trace_of_leads_finish hstrict⟩⟩
  · obtain ⟨value?, u, unsound, hx⟩ := Turn.given?_eq_none hfailed
    have hlax := leads_collect_of_failed htaken hgiven hx
    have hstrict := leads_sequence_of_failed htaken.split.1 hs hgiven hx (after.map Turn.item)
    rw [← List.map_cons, ← List.map_append] at hstrict
    have hworld : lax.world = v := world_of_leads hlax
    exact ⟨before ++ x :: after, t, hworld.symm ▸ htaken, rfl, trace_of_leads_finish hlax,
      .inr ⟨before, x, after, values, value?, u, unsound, rfl, hgiven, hx,
        outcome_of_leads hstrict, trace_of_leads_finish hstrict, outcome_of_leads hlax⟩⟩

/-- Two calls, each in front of a flow that fails, the first one with two failures. -/
theorem collect_extends_failing :
    let count : Flow Host.refusing Nat := lift fun w => (.ok (.value w), w + 1)
    let f : Failure := .single .assertion "first" [] none
    let g : Failure := .single .assertion "second" [] none
    let h : Failure := .single .assertion "third" [] none
    let items : List (Flow Host.refusing Nat) := [count, failure f [g], count, failure h []]
    let strict := (sequence items).history .blocking () Host.refusingStart (0 : Nat)
    let lax := (collect items).history .blocking () Host.refusingStart (0 : Nat)
    Host.refusingStart.failures = [] ∧
      strict.outcome.failures = [f, g] ∧ strict.world = (1 : Nat) ∧
      lax.outcome.value? = some [some 0, none, some 1, none] ∧
      lax.outcome.failures = [.collected [f, g, h]] ∧ lax.world = (2 : Nat) ∧
      ∃ (before : List (Turn Host.refusing Nat)) (x : Turn Host.refusing Nat)
        (after : List (Turn Host.refusing Nat)) (t : Host.refusing.State) (values : List Nat),
        Taken .blocking () Host.refusingStart (0 : Nat) (before ++ x :: after) t lax.world ∧
          (before ++ x :: after).map Turn.item = items ∧
          before.map (Turn.given? .blocking ()) = values.map some ∧
          lax.outcome.failures =
            [.collected (strict.outcome.failures ++
              after.flatMap (Turn.failures .blocking ()))] ∧
          lax.outcome.value? =
            some (values.map some ++ none :: after.map (Turn.given? .blocking ())) := by
  intro count f g h items strict lax
  obtain ⟨hstrict, hstop⟩ : strict.outcome.failures = [f, g] ∧ strict.world = (1 : Nat) := by
    show ((sequence items).history .blocking () Host.refusingStart (0 : Nat)).outcome.failures = _ ∧
      ((sequence items).history .blocking () Host.refusingStart (0 : Nat)).world = _
    rw [history_eq]
    exact ⟨rfl, rfl⟩
  obtain ⟨hvalue, hlax, hend⟩ : lax.outcome.value? = some [some 0, none, some 1, none] ∧
      lax.outcome.failures = [.collected [f, g, h]] ∧ lax.world = (2 : Nat) := by
    show ((collect items).history .blocking () Host.refusingStart (0 : Nat)).outcome.value? = _ ∧
      ((collect items).history .blocking () Host.refusingStart (0 : Nat)).outcome.failures = _ ∧
        ((collect items).history .blocking () Host.refusingStart (0 : Nat)).world = _
    rw [history_eq]
    exact ⟨rfl, rfl, rfl⟩
  refine ⟨rfl, hstrict, hstop, hvalue, hlax, hend, ?_⟩
  obtain ⟨xs, t, htaken, hitems, -, hended⟩ := collect_extends (H := Host.refusing) .blocking ()
    items (s := Host.refusingStart) rfl (0 : Nat)
  rcases hended with ⟨values, sound, ho, -⟩ | ⟨before, x, after, values, a?, u, unsound, rfl,
    hgiven, -, ho, -, hcollected⟩
  · have hnone : strict.outcome.failures = [] :=
      (congrArg Outcome.failures ho : strict.outcome.failures = t.failures).trans sound
    exact absurd (hstrict.symm.trans hnone) (List.cons_ne_nil _ _)
  · have hfirst : strict.outcome.failures = u.failures := congrArg Outcome.failures ho
    refine ⟨before, x, after, t, values, htaken, hitems, hgiven, ?_,
      congrArg Outcome.value? hcollected⟩
    rw [hfirst]
    exact congrArg Outcome.failures hcollected

end Flow

end Walkthrough
