import Walkthrough.Flow.Batch
import Walkthrough.Proofs.Behaviour.Basic
import Walkthrough.Proofs.Run.Keeps
import Walkthrough.Proofs.Run.Leads

/-!
# Batches in order

A batch runs its items one after the other. An item where it is run is a `Batch.Turn`, and
`Batch.Taken` says that turns are taken one after the other: each item is run from the state that
the one before it has left, with its failures cleared, in the world that is left then.

`Flow.sequence` takes these turns up to the first failure. Its values are those of its items in
their order, and nothing is run after a failure. Where a list of items is split does not matter: a
sequence of all items is the sequence of the first ones, bound to the sequence of the others
(`Flow.sequence_append`).
-/

namespace Walkthrough

variable {H : Host} {α β : Type}

/-- Failures that are already there are put back. -/
theorem RunState.withFailures_eq_self {Session Sinks : Type} {s : RunState Session Sinks}
    {fs : List Failure} (h : s.failures = fs) : s.withFailures fs = s := by
  subst h
  rfl

/-! ## Turns -/

namespace Batch

/-- An item of a batch, and the state and the world that it is run from. -/
structure Turn (H : Host) (α : Type) where
  item : Flow H α
  state : H.State
  world : H.World

namespace Turn

variable (d : Driver H) (env : H.Env) (x : Turn H α)

/-- The run of the item. -/
abbrev history : History H α := x.item.history d env x.state x.world

/-- The moments of the item. -/
abbrev trace : List (Moment H) := x.item.trace d env x.state x.world

/-- The value that the item gives, if it does not fail. -/
def given? : Option α :=
  match (x.history d env).outcome with
  | .success a _ _ => some a
  | .faulted .. => none

variable {d env x}

theorem given?_eq_some {a : α} (h : x.given? d env = some a) :
    ∃ t sound, (x.history d env).outcome = .success a t sound := by
  unfold given? at h
  rcases ho : (x.history d env).outcome with ⟨b, t, sound⟩ | ⟨v, t, unsound⟩
  · rw [ho] at h
    cases h
    exact ⟨t, sound, rfl⟩
  · rw [ho] at h
    cases h

theorem given?_eq_none (h : x.given? d env = none) :
    ∃ v t unsound, (x.history d env).outcome = .faulted v t unsound := by
  unfold given? at h
  rcases ho : (x.history d env).outcome with ⟨b, t, sound⟩ | ⟨v, t, unsound⟩
  · rw [ho] at h
    cases h
  · exact ⟨v, t, unsound, rfl⟩

end Turn

/-- The turns are taken one after the other, the first from a state and a world: each item is run
from the state that the one before it has left, with its failures cleared, in the world that is left
then. The last state and world are what is left when all turns are over. -/
inductive Taken (d : Driver H) (env : H.Env) :
    H.State → H.World → List (Turn H α) → H.State → H.World → Prop where
  | none (s : H.State) (w : H.World) : Taken d env s w [] s w
  | next {s t : H.State} {w v : H.World} {xs : List (Turn H α)} (item : Flow H α)
      (rest : Taken d env ((item.history d env s w).outcome.state.withFailures [])
        (item.history d env s w).world xs t v) : Taken d env s w (⟨item, s, w⟩ :: xs) t v

variable {d : Driver H} {env : H.Env} {s t : H.State} {w v : H.World} {xs : List (Turn H α)}

/-- There is one way to take the turns of a list of items. -/
theorem exists_taken (d : Driver H) (env : H.Env) (items : List (Flow H α)) (s : H.State)
    (w : H.World) : ∃ xs t v, Taken d env s w xs t v ∧ xs.map Turn.item = items := by
  induction items generalizing s w with
  | nil => exact ⟨[], s, w, .none s w, rfl⟩
  | cons item items ih =>
    obtain ⟨xs, t, v, htaken, hitems⟩ := ih _ _
    exact ⟨_, t, v, .next item htaken, congrArg (item :: ·) hitems⟩

namespace Taken

theorem failures_eq_nil (h : Taken d env s w xs t v) (hs : s.failures = []) : t.failures = [] := by
  induction h with
  | none s w => exact hs
  | next item rest ih => exact ih rfl

/-- The turns before one of them, and those after it. -/
theorem split {before after : List (Turn H α)} {x : Turn H α}
    (h : Taken d env s w (before ++ x :: after) t v) :
    Taken d env s w before x.state x.world ∧
      Taken d env ((x.history d env).outcome.state.withFailures []) (x.history d env).world after
        t v := by
  induction before generalizing s w with
  | nil =>
    obtain ⟨-, rest⟩ | ⟨item, rest⟩ := h
    exact ⟨.none _ _, rest⟩
  | cons y before ih =>
    obtain ⟨-, rest⟩ | ⟨item, rest⟩ := h
    obtain ⟨hbefore, hafter⟩ := ih rest
    exact ⟨.next item hbefore, hafter⟩

/-- One more turn is taken where the ones before it have left off. -/
theorem snoc (h : Taken d env s w xs t v) (item : Flow H α) :
    Taken d env s w (xs ++ [⟨item, t, v⟩])
      ((item.history d env t v).outcome.state.withFailures []) (item.history d env t v).world := by
  induction h with
  | none s w => exact .next item (.none _ _)
  | next first rest ih => exact .next first ih

end Taken

/-- Either every turn gives a value, or there is a first one that fails. -/
theorem given_or_failed (d : Driver H) (env : H.Env) (xs : List (Turn H α)) :
    (∃ values : List α, xs.map (Turn.given? d env) = values.map some) ∨
      ∃ (before : List (Turn H α)) (x : Turn H α) (after : List (Turn H α)) (values : List α),
        xs = before ++ x :: after ∧ before.map (Turn.given? d env) = values.map some ∧
          x.given? d env = none := by
  induction xs with
  | nil => exact .inl ⟨[], rfl⟩
  | cons x xs ih =>
    rcases hx : x.given? d env with - | a
    · exact .inr ⟨[], x, xs, [], rfl, rfl, hx⟩
    · rcases ih with ⟨values, hvalues⟩ | ⟨before, y, after, values, rfl, hbefore, hy⟩
      · exact .inl ⟨a :: values, by simp [hx, hvalues]⟩
      · exact .inr ⟨x :: before, y, after, a :: values, rfl, by simp [hx, hbefore], hy⟩

end Batch

namespace Flow

open Batch

/-! ## The turns of a sequence -/

section

variable {d : Driver H} {env : H.Env} {s t : H.State} {w v : H.World} {xs : List (Turn H α)}

/-- A sequence takes the turns that give values, and goes on with the items behind them. -/
theorem leads_sequenceFrom (htaken : Taken d env s w xs t v) (hs : s.failures = [])
    {values : List α} (hgiven : xs.map (Turn.given? d env) = values.map some)
    (gathered : List α) (rest : List (Flow H α)) :
    (sequenceFrom env gathered (xs.map Turn.item ++ rest) s w).Leads d
      (xs.flatMap (Turn.trace d env)) (sequenceFrom env (values.reverse ++ gathered) rest t v) := by
  induction htaken generalizing values gathered with
  | none s w =>
    obtain rfl : values = [] := by simpa using hgiven.symm
    exact .refl _
  | @next s t w v xs item htaken ih =>
    cases values with
    | nil => cases hgiven
    | cons a values =>
      obtain ⟨hfirst, hgiven⟩ := List.cons.inj hgiven
      obtain ⟨u, sound, ho⟩ := Turn.given?_eq_some hfirst
      have ho : (item.history d env s w).outcome = .success a u sound := ho
      have hstate : (item.history d env s w).outcome.state.withFailures [] = u := by
        rw [ho]
        exact RunState.withFailures_eq_self sound
      rw [hstate] at ih
      rw [List.map_cons, List.cons_append, sequenceFrom, List.flatMap_cons]
      refine .run_trans ?_
      rw [ho, List.reverse_cons, List.append_assoc]
      exact ih sound hgiven (a :: gathered)

/-- A sequence of items that all give values gives these. -/
theorem leads_sequence_of_given (htaken : Taken d env s w xs t v) (hs : s.failures = [])
    {values : List α} (hgiven : xs.map (Turn.given? d env) = values.map some) :
    (sequence (xs.map Turn.item) env s w).Leads d (xs.flatMap (Turn.trace d env))
      (.finish (.success values t (htaken.failures_eq_nil hs)) v) := by
  have hrun := leads_sequenceFrom htaken hs hgiven [] []
  rw [List.append_nil, List.append_nil, sequenceFrom, List.reverse_reverse,
    Outcome.of_eq_success (htaken.failures_eq_nil hs)] at hrun
  exact hrun

/-- A sequence ends with the first item that fails, whatever comes after it. -/
theorem leads_sequence_of_failed {x : Turn H α} (htaken : Taken d env s w xs x.state x.world)
    (hs : s.failures = []) {values : List α}
    (hgiven : xs.map (Turn.given? d env) = values.map some) {u? : Option α} {u : H.State}
    {unsound : u.failures ≠ []} (hx : (x.history d env).outcome = .faulted u? u unsound)
    (rest : List (Flow H α)) :
    (sequence (xs.map Turn.item ++ x.item :: rest) env s w).Leads d
      ((xs ++ [x]).flatMap (Turn.trace d env))
      (.finish (.faulted none u unsound) (x.history d env).world) := by
  have hrun := leads_sequenceFrom htaken hs hgiven [] (x.item :: rest)
  rw [List.flatMap_append, List.flatMap_singleton]
  refine hrun.trans ?_
  rw [sequenceFrom]
  refine .run ?_
  rw [hx]

end

/-! ## The behaviour of a sequence -/

section

variable (d : Driver H) (env : H.Env)

/-- A sequence goes on from the value of its first item. -/
theorem outward_sequenceFrom_cons {s : H.State} (item : Flow H α) (items : List (Flow H α))
    (gathered : List α) (w : H.World) (start : H.State) :
    ((sequenceFrom env gathered (item :: items) s w).history d start).outward =
      (item.behaviour d env s w).onSuccess fun a t w' =>
        ((sequenceFrom env (a :: gathered) items t w').history d start).outward := by
  rw [sequenceFrom, Program.outward_run]
  refine congrArg (History.andThen _) (funext fun o => funext fun w' => ?_)
  cases o with
  | success a t h => rfl
  | faulted v t h => rfl

/-- The items behind a split go on from what was gathered before it. -/
theorem outward_sequenceFrom_append {s : H.State} (hs : s.failures = []) (gathered : List α)
    (xs ys : List (Flow H α)) (w : H.World) (start : H.State) :
    ((sequenceFrom env gathered (xs ++ ys) s w).history d start).outward =
      ((sequenceFrom env gathered xs s w).history d start).outward.onSuccess fun values t w' =>
        ((sequenceFrom env values.reverse ys t w').history d start).outward := by
  induction xs generalizing s gathered w with
  | nil =>
    have hdone : ((sequenceFrom env gathered [] s w).history d start).outward =
        .atOnce (.of gathered.reverse s) w := rfl
    rw [List.nil_append, hdone, History.atOnce_onSuccess hs, List.reverse_reverse]
  | cons item xs ih =>
    rw [List.cons_append, outward_sequenceFrom_cons, outward_sequenceFrom_cons,
      History.onSuccess_assoc]
    exact History.onSuccess_congr _ fun a t w' ht => ih ht (a :: gathered) w'

/-- What was gathered before stands in front of the values of a sequence, and changes nothing
else. -/
theorem outward_sequenceFrom {s : H.State} (hs : s.failures = []) (gathered : List α)
    (items : List (Flow H α)) (w : H.World) (start : H.State) :
    ((sequenceFrom env gathered items s w).history d start).outward =
      ((sequence items).behaviour d env s w).onSuccess fun values t w' =>
        .atOnce (.of (gathered.reverse ++ values) t) w' := by
  induction items generalizing s gathered w start with
  | nil =>
    rw [behaviour_eq]
    show _ = (History.atOnce (.of [] s) w).onSuccess _
    rw [History.atOnce_onSuccess hs, List.append_nil]
    rfl
  | cons item items ih =>
    rw [behaviour_eq, sequence, outward_sequenceFrom_cons, outward_sequenceFrom_cons,
      History.onSuccess_assoc]
    refine History.onSuccess_congr _ fun a t w' ht => ?_
    -- the value of the first item is gathered last, or it is the only one that is gathered
    rw [ih ht (a :: gathered), ih ht [a], History.onSuccess_assoc]
    refine History.onSuccess_congr _ fun values u v hu => ?_
    rw [History.atOnce_onSuccess hu]
    simp

end

/-- A sequence of all items is the sequence of the first ones, bound to the sequence of the others,
whose values are put behind theirs: the events outside, the outcome and the world are the same. The
items are run in their order, each from the state and the world that the one before it has left.
Either there are as many values as items, each given by its item, or the first failure is the end
and the items after it are not run. -/
theorem sequence_append (d : Driver H) (env : H.Env) {s : H.State} (hs : s.failures = [])
    (w : H.World) :
    (∀ xs ys : List (Flow H α),
      (sequence (xs ++ ys)).behaviour d env s w =
        ((sequence xs).bind fun first =>
          .ok ((sequence ys).map fun others => .ok (first ++ others))).behaviour d env s w) ∧
    ∀ items : List (Flow H α),
      let run := (sequence items).history d env s w
      ∃ (xs : List (Turn H α)) (t : H.State) (left : List (Flow H α)),
        Taken d env s w xs t run.world ∧ items = xs.map Turn.item ++ left ∧
        (sequence items).trace d env s w =
          .entered ⟨sequence items, env, s, w⟩ ::
            (xs.flatMap (Turn.trace d env) ++ [.left run.outcome]) ∧
        (left = [] ∧ (∃ (values : List α) (sound : t.failures = []),
            xs.map (Turn.given? d env) = values.map some ∧
            run.outcome = .success values t sound) ∨
          ∃ (before : List (Turn H α)) (x : Turn H α) (values : List α) (value? : Option α)
            (u : H.State) (unsound : u.failures ≠ []), xs = before ++ [x] ∧
            before.map (Turn.given? d env) = values.map some ∧
            (x.history d env).outcome = .faulted value? u unsound ∧
            run.outcome = .faulted none u unsound) := by
  refine ⟨fun xs ys => ?_, fun items => ?_⟩
  · rw [behaviour_bind, behaviour_eq, behaviour_eq, sequence, sequence,
      outward_sequenceFrom_append d env hs]
    refine History.onSuccess_congr _ fun first t w' ht => ?_
    rw [outward_sequenceFrom d env ht, List.reverse_reverse]
    show _ = ((sequence ys).map fun others => .ok (first ++ others)).behaviour d env t w'
    rw [behaviour_map]
    rfl
  · obtain ⟨xs, t, v, htaken, hitems⟩ := exists_taken d env items s w
    rcases given_or_failed d env xs with
      ⟨values, hgiven⟩ | ⟨before, x, after, values, rfl, hgiven, hfailed⟩
    · subst hitems
      have hleads := leads_sequence_of_given htaken hs hgiven
      refine ⟨xs, t, [], ?_, (List.append_nil _).symm, trace_of_leads_finish hleads,
        .inl ⟨rfl, values, htaken.failures_eq_nil hs, hgiven, outcome_of_leads hleads⟩⟩
      rw [world_of_leads hleads]
      exact htaken
    · obtain ⟨value?, u, unsound, hx⟩ := Turn.given?_eq_none hfailed
      have hbefore := htaken.split.1
      rw [List.map_append, List.map_cons] at hitems
      subst hitems
      have hleads := leads_sequence_of_failed hbefore hs hgiven hx (after.map Turn.item)
      refine ⟨before ++ [x], (x.history d env).outcome.state.withFailures [], after.map Turn.item,
        ?_, ?_, trace_of_leads_finish hleads,
        .inr ⟨before, x, values, value?, u, unsound, rfl, hgiven, hx, outcome_of_leads hleads⟩⟩
      · rw [world_of_leads hleads]
        exact hbefore.snoc x.item
      · simp

/-- A batch that is split in front of a failure: the call behind it is not made. -/
theorem sequence_append_failing :
    let count : Flow Host.refusing Nat := lift fun w => (.ok (.value w), w + 1)
    let broken : Failure := .single .assertion "broken" [] none
    let first : List (Flow Host.refusing Nat) := [count, count]
    let others : List (Flow Host.refusing Nat) := [failure broken [], count]
    let run := (sequence (first ++ others)).history .blocking () Host.refusingStart (0 : Nat)
    Host.refusingStart.failures = [] ∧
      (sequence (first ++ others)).behaviour .blocking () Host.refusingStart (0 : Nat) =
        ((sequence first).bind fun a =>
          .ok ((sequence others).map fun b => .ok (a ++ b))).behaviour .blocking ()
            Host.refusingStart (0 : Nat) ∧
      ((sequence first).history .blocking () Host.refusingStart (0 : Nat)).outcome.value? =
        some [0, 1] ∧
      run.outcome.failures = [broken] ∧ run.world = (2 : Nat) ∧
      ∃ (before : List (Turn Host.refusing Nat)) (x : Turn Host.refusing Nat)
        (left : List (Flow Host.refusing Nat)) (values : List Nat),
        first ++ others = (before ++ [x]).map Turn.item ++ left ∧
          before.map (Turn.given? .blocking ()) = values.map some ∧
          (x.history .blocking ()).outcome.failures = [broken] := by
  intro count broken first others run
  obtain ⟨hsplit, hruns⟩ := sequence_append (H := Host.refusing) (α := Nat) .blocking ()
    (s := Host.refusingStart) rfl (0 : Nat)
  have hvalue : ((sequence first).history .blocking () Host.refusingStart
      (0 : Nat)).outcome.value? = some [0, 1] := by
    rw [history_eq]
    rfl
  obtain ⟨hfailures, hworld⟩ : run.outcome.failures = [broken] ∧ run.world = (2 : Nat) := by
    show ((sequence (first ++ others)).history .blocking () Host.refusingStart
      (0 : Nat)).outcome.failures = _ ∧ ((sequence (first ++ others)).history .blocking ()
        Host.refusingStart (0 : Nat)).world = _
    rw [history_eq]
    exact ⟨rfl, rfl⟩
  refine ⟨rfl, hsplit first others, hvalue, hfailures, hworld, ?_⟩
  obtain ⟨xs, t, left, -, hitems, -, hended⟩ := hruns (first ++ others)
  rcases hended with ⟨-, values, sound, -, ho⟩ | ⟨before, x, values, a?, u, unsound, rfl, hgiven,
    hx, ho⟩
  · have hnone : run.outcome.failures = [] := ho ▸ sound
    exact absurd (hfailures.symm.trans hnone) (List.cons_ne_nil _ _)
  · have hsame : (x.history .blocking ()).outcome.failures = run.outcome.failures :=
      (congrArg Outcome.failures hx).trans (congrArg Outcome.failures ho).symm
    exact ⟨before, x, left, values, hitems, hgiven, hsame.trans hfailures⟩

end Flow

end Walkthrough
