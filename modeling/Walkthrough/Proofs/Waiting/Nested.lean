import Walkthrough.Proofs.Run.Takes
import Walkthrough.Proofs.Waiting.Deadline

/-!
# How long waits take

A wait starts its last attempt no later than a microsecond after its deadline, so it takes no more
than its timeout, a microsecond and one run of what it waits for (`Flow.Takes.waitUntilSucceeds`).
How often that is run before does not count: a wait for something that waits itself takes as long
as the two of them one after the other.

On a punctual host a wait for such a flow stops of its own accord (`Wait.Stops`): the bound on its
attempts is never reached.
-/

namespace Walkthrough

variable {H : Host} {α : Type} {d : Driver H}

/-- Code of the watch takes no time. -/
structure Flow.Watch.Instant (watch : Flow.Watch H α) : Prop where
  continueIf : ∀ a w, H.now (watch.continueIf a w).2 = H.now w
  describe : ∀ describe ∈ watch.describe, ∀ a w, H.now (describe a w).2 = H.now w

/-- The watch of `waitUntilSucceeds` takes no time. -/
theorem Flow.Watch.Instant.succeeds (label : String) :
    (succeedsWatch label : Flow.Watch H (Except Failure α)).Instant where
  continueIf a w := by cases a <;> rfl
  describe describe h a w := by
    cases Option.mem_some.mp h
    cases a <;> rfl

/-- The words of a timeout take no time. -/
theorem Flow.Watch.Instant.now_timeoutMessage {watch : Flow.Watch H α} (h : watch.Instant)
    (timeout : Rat) (a : α) (w : H.World) :
    H.now (timeoutMessage watch timeout a w).2 = H.now w := by
  obtain ⟨continueIf, label, describe⟩ := watch
  cases describe with
  | none => rfl
  | some describe => exact (congrArg H.now (Act.world_map ..)).trans (h.describe describe rfl a w)

/-- Giving up takes no time. -/
theorem Program.EndsWithin.giveUp (instant : H.Instant d) {watch : Flow.Watch H α}
    (hwatch : watch.Instant) {earliest latest : Rat} {w : H.World}
    (hw : H.Between earliest latest w) {timeout elapsed : Rat} {attempts : Nat} {a : α}
    {env : H.Env} {s : H.State} :
    (Flow.giveUp watch timeout elapsed attempts a env s w).EndsWithin d earliest latest := by
  refine .effect hw (instant.complain ..) fun _ w' hw' => ?_
  have hmessage := hw'.of_now_eq (hwatch.now_timeoutMessage timeout a w')
  split
  next e w'' h =>
    rw [h] at hmessage
    exact .raise hmessage
  next message w'' h =>
    rw [h] at hmessage
    exact .endWith ((Flow.Instant.fail instant _).endsWithin hmessage env s)

namespace Wait

variable {x : Wait H α} {T : Rat}

/-- The wait that starts its first attempt in a world stops of its own accord. After the last
attempt nothing asks for another one, or the time is up; and there are fewer attempts before it than
a wait may make. -/
def Stops (d : Driver H) (x : Wait H α) (w : H.World) : Prop :=
  ∃ ws last, x.Retried d w ws last ∧ ws.length < Flow.attemptLimit x.timeout ∧
    ((x.judged d last).1 = .ok true → x.timeout ≤ x.elapsed d last)

/-- An attempt takes as long as its flow. -/
theorem between_judged (hflow : x.flow.Takes d T x.state) (hwatch : x.watch.Instant)
    {earliest latest : Rat} {w : H.World} (hw : H.Between earliest latest w) :
    H.Between earliest (latest + T) (x.judged d w).2 := by
  have hattempt : H.Between earliest (latest + T) (x.attempt d w).world := by
    rw [attempt, Flow.history_eq]
    exact hflow.endsWithin hw x.env x.state
  rcases ho : (x.attempt d w).outcome with ⟨a, t, sound⟩ | ⟨u, t, unsound⟩
  · rw [judged_of_success ho]
    exact hattempt.of_now_eq (hwatch.continueIf a _)
  · rwa [judged_of_faulted ho]

/-- The clock does not go back in an attempt. -/
theorem now_le_judged_of_takes (hflow : x.flow.Takes d T x.state) (hwatch : x.watch.Instant)
    (w : H.World) : H.now w ≤ H.now (x.judged d w).2 :=
  (between_judged hflow hwatch (.now w)).1

/-- After the last attempt a wait ends at once. -/
theorem Ends.endsWithin (instant : H.Instant d) (hwatch : x.watch.Instant) {limit tried : Nat}
    {last : H.World} {q : Program H α} (h : x.Ends d limit tried last q) {earliest latest : Rat}
    (hjudged : H.Between earliest latest (x.judged d last).2) :
    q.EndsWithin d earliest latest := by
  cases h with
  | settled judged =>
    rw [judged] at hjudged
    exact .finish hjudged
  | threw judged =>
    rw [judged] at hjudged
    exact .raise hjudged
  | late value judged up =>
    rw [judged] at hjudged
    exact .giveUp instant hwatch hjudged
  | cut judged early spent =>
    rw [judged] at hjudged
    exact .raise hjudged

section

variable (punctual : H.Punctual) (pauses : d.Pauses)

include punctual pauses

/-- The clock never goes back from one attempt to the next. -/
theorem Retried.le_now (forward : ∀ v, H.now v ≤ H.now (x.judged d v).2) {w last : H.World}
    {ws : List H.World} (h : x.Retried d w ws last) : H.now w ≤ H.now last := by
  induction h with
  | here w => exact le_refl _
  | @again w w' last ws first rest ih =>
    obtain ⟨-, hlater, -⟩ := first.now_bounds punctual pauses
    linarith [forward w]

/-- The last attempt starts no later than a microsecond after the deadline. -/
theorem Retried.between (forward : ∀ v, H.now v ≤ H.now (x.judged d v).2) {w last : H.World}
    {ws : List H.World} (h : x.Retried d w ws last) (hw : x.began = H.now w) :
    H.Between (H.now w) (H.now w + (max x.timeout 0 + 1 / 1000000)) last := by
  refine ⟨h.le_now punctual pauses forward, ?_⟩
  have hlast := h.now_le punctual pauses last (by simp)
  rw [hw] at hlast
  refine hlast.trans (max_le ?_ ?_)
  · linarith [le_max_right x.timeout 0]
  · linarith [le_max_left x.timeout 0]

/-- The bound on the attempts does not end a wait. -/
theorem stops_begun {c : Flow H α} {watch : Flow.Watch H α} {interval wait : Option Span}
    {s : H.State} (hc : c.Takes d T s) (hwatch : watch.Instant) (env : H.Env) (w : H.World) :
    (begun c watch interval wait env s w).Stops d w := by
  obtain ⟨ws, last, q, hretried, -, hends, -⟩ :=
    Flow.leads_waitUntil pauses.steady c watch interval wait env s w
  have hlength := hretried.length_le_timeout punctual pauses
    (now_le_judged_of_takes (x := begun c watch interval wait env s w) hc hwatch) rfl
  have hlimit : ws.length < Flow.attemptLimit (begun c watch interval wait env s w).timeout := by
    rw [Flow.attemptLimit]
    omega
  exact ⟨ws, last, hretried, hlimit, hends.timeout_le hlimit⟩

end

end Wait

/-! ## How long waits take -/

namespace Wait

/-- The time that waits with these timeouts take at most, one inside the other. A negative timeout
counts as none. -/
def nested (timeouts : List Rat) : Rat := (timeouts.map fun t => max t 0 + 1 / 1000000).sum

@[simp] theorem nested_nil : nested [] = 0 := rfl

/-- A wait adds its timeout, and the microsecond that its last look may be late. -/
@[simp] theorem nested_cons (t : Rat) (ts : List Rat) :
    nested (t :: ts) = max t 0 + 1 / 1000000 + nested ts := rfl

/-- The timeouts, and a microsecond for each. -/
theorem nested_eq (ts : List Rat) :
    nested ts = (ts.map (max · 0)).sum + ts.length / 1000000 := by
  induction ts with
  | nil => simp
  | cons t ts ih =>
    rw [nested_cons, ih, List.map_cons, List.sum_cons, List.length_cons]
    push_cast
    linarith

/-- The waits among some steps, one after the other. -/
theorem nested_filterMap_cons {β : Type _} (f : β → Option Rat) (b : β) (bs : List β) :
    nested ((b :: bs).filterMap f) = nested (f b).toList + nested (bs.filterMap f) := by
  cases hb : f b with
  | none => simp [hb]
  | some t => simp [hb]

/-- No waits take less than no time. -/
theorem nested_nonneg (ts : List Rat) : 0 ≤ nested ts := by
  induction ts with
  | nil => exact le_refl 0
  | cons t ts ih =>
    rw [nested_cons]
    linarith [le_max_right t 0]

end Wait

namespace Flow.Takes

variable {c : Flow H α} {T : Rat} {s : H.State}

/-- A wait takes its timeout and a microsecond at most, and then one run of its flow. -/
theorem waitUntil (punctual : H.Punctual) (pauses : d.Pauses) (instant : H.Instant d)
    (hc : c.Takes d T s) {watch : Watch H α} (hwatch : watch.Instant)
    (interval wait : Option Span) :
    (c.waitUntil watch interval wait).Takes d
      (T + (max (Span.toSecondsOr H.precision s.settings.wait wait) 0 + 1 / 1000000)) s := by
  intro env w start
  obtain ⟨ws, last, q, hretried, -, hends, hwait⟩ :=
    leads_waitUntil pauses.steady c watch interval wait env s w
  -- only the last attempt counts: all others are over when it starts
  have hlast := hretried.between punctual pauses
    (Wait.now_le_judged_of_takes (x := Wait.begun c watch interval wait env s w) hc hwatch) rfl
  have hjudged :=
    Wait.between_judged (x := Wait.begun c watch interval wait env s w) hc hwatch hlast
  rw [hwait.world, add_comm T, ← add_assoc]
  exact hends.endsWithin instant hwatch hjudged start

/-- A wait for a flow takes its timeout, and the flow once more: the last attempt may begin just in
time. -/
theorem waitUntilSucceeds (punctual : H.Punctual) (pauses : d.Pauses) (instant : H.Instant d)
    (hc : c.Takes d T s) (interval wait : Option Span) (label : String) :
    (c.waitUntilSucceeds interval wait label).Takes d
      (T + (max (Span.toSecondsOr H.precision s.settings.wait wait) 0 + 1 / 1000000)) s :=
  (hc.attempt.waitUntil punctual pauses instant (.succeeds label) interval wait).settle

end Flow.Takes

end Walkthrough
