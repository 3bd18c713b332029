import Walkthrough.Proofs.Run.Idle
import Walkthrough.Proofs.Waiting.Advance

/-!
# Waits end by their deadline

On a host whose clock every pause moves by its length, rounded up to whole microseconds and by one
at least (`Host.Punctual`), no attempt of a wait starts later than a microsecond after the deadline,
and what a wait asks for itself are pauses that are no longer than its interval and the time that is
left (`Flow.waitUntil_punctual`).

A wait is repeated only while there is time left, and each repeat uses up a microsecond of it, so
there are at most as many as there are microseconds in the timeout (`Wait.Retried.length_le`). That
is fewer than `Flow.attemptLimit`, so on such a host no wait is cut.
-/

namespace Walkthrough

variable {H : Host} {α : Type} {d : Driver H}

/-- Every pause moves the clock by its length, rounded up to whole microseconds, and by one at
least. Readings of the clock are exact. -/
structure Host.Punctual (H : Host) : Prop where
  exact : H.precision = .exact
  sleep : ∀ t w, 0 ≤ t → H.now (H.sleep t w) = H.now w + (max 1 (t * 1000000).ceil : Int) / 1000000

/-- The driver pauses when it is asked to. -/
def Driver.Pauses (d : Driver H) : Prop := ∀ t w, d.sleep t w = (.ok (), H.pause t w)

theorem Driver.pauses_blocking : (blocking : Driver H).Pauses := fun _ _ => rfl

theorem Driver.pauses_suspending : (suspending : Driver H).Pauses := fun _ _ => rfl

theorem Driver.Pauses.steady (h : d.Pauses) : d.Steady := fun t w => ⟨H.pause t w, h t w⟩

namespace Host.Punctual

theorem now_pause (h : H.Punctual) (t : Rat) (w : H.World) :
    H.now (H.pause t w) =
      H.now w + (max 1 (max t 0 * 1000000).ceil : Int) / 1000000 := by
  rw [Host.pause, ← max_def, h.sleep _ w (le_max_right t 0)]

theorem le_now_pause (h : H.Punctual) (t : Rat) (w : H.World) :
    H.now w + 1 / 1000000 ≤ H.now (H.pause t w) := by
  have hone : (1 : Rat) ≤ (max 1 (max t 0 * 1000000).ceil : Int) := by
    exact_mod_cast le_max_left _ _
  rw [h.now_pause]
  linarith

theorem now_pause_le (h : H.Punctual) (t : Rat) (w : H.World) :
    H.now (H.pause t w) ≤ H.now w + max t 0 + 1 / 1000000 := by
  have hnonneg : 0 ≤ max t 0 * 1000000 := by linarith [le_max_right t 0]
  have hceil : ((max t 0 * 1000000).ceil : Rat) < max t 0 * 1000000 + 1 := Rat.ceil_lt
  have hmax : ((max 1 (max t 0 * 1000000).ceil : Int) : Rat) ≤ max t 0 * 1000000 + 1 := by
    rw [Int.cast_max]
    exact max_le (by push_cast; linarith) hceil.le
  rw [h.now_pause]
  linarith

end Host.Punctual

theorem Host.punctual_timekeeping : Host.timekeeping.Punctual := by
  refine ⟨rfl, fun t w _ => ?_⟩
  have hnonneg : 0 ≤ max 1 (t * 1000000).ceil := by omega
  have hcast : (((max 1 (t * 1000000).ceil).toNat : Nat) : Rat) =
      (max 1 (t * 1000000).ceil : Int) := by
    exact_mod_cast Int.toNat_of_nonneg hnonneg
  show (((w : Nat) + (max 1 (t * 1000000).ceil).toNat : Nat) : Rat) / 1000000 =
    (w : Nat) / 1000000 + (max 1 (t * 1000000).ceil : Int) / 1000000
  rw [Nat.cast_add, hcast, add_div]

/-! ## What a wait asks for -/

namespace Wait

variable {x : Wait H α}

/-- After its rounds a wait has asked for the pauses between the attempts. -/
theorem requests_rounds (ws : List H.World) (ms : List (Moment H)) :
    Moment.requests 0 (ws.flatMap (x.round d) ++ ms) =
      ws.map (fun v => .slept (x.pauseAfter d v)) ++ Moment.requests 0 ms := by
  induction ws with
  | nil => rfl
  | cons v ws ih =>
    rw [List.flatMap_cons, round, List.append_assoc, List.append_assoc, Flow.requests_trace,
      List.map_cons]
    exact congrArg (_ :: ·) ih

/-- At its end a wait asks for no pause. -/
theorem Ends.pauses_eq_nil {limit tried : Nat} {w : H.World} {q : Program H α}
    (h : x.Ends d limit tried w q) :
    (Moment.requests 0 (q.moments d)).filterMap Event.pause? = [] := by
  cases h with
  | settled judged => rfl
  | threw judged => rfl
  | cut judged early spent => rfl
  | @late a t sound v value judged up =>
    -- the failure of a timeout is a step of its own
    unfold Flow.giveUp
    simp only [Program.moments, Moment.requests, List.filterMap_cons, Event.pause?]
    split
    · rfl
    · rw [Flow.endWith, Program.moments_run, Flow.requests_trace]
      rfl

/-- A wait that might be repeated and asks for more has used up its time. -/
theorem Ends.timeout_le {limit tried : Nat} {w : H.World} {q : Program H α}
    (h : x.Ends d limit tried w q) (hlimit : tried < limit)
    (hagain : (x.judged d w).1 = .ok true) : x.timeout ≤ x.elapsed d w := by
  cases h with
  | settled judged => cases hagain.symm.trans (congrArg Prod.fst judged)
  | threw judged => cases hagain.symm.trans (congrArg Prod.fst judged)
  | late value judged up => exact up
  | cut judged early spent => exact absurd spent (Nat.ne_of_lt hlimit)

/-! ## When the attempts start -/

theorem now_le_judged (hflow : ∀ v, H.now v ≤ H.now (x.attempt d v).world)
    (hjudge : ∀ a v, H.now v ≤ H.now (x.watch.continueIf a v).2) (w : H.World) :
    H.now w ≤ H.now (x.judged d w).2 := by
  refine (hflow w).trans ?_
  rcases ho : (x.attempt d w).outcome with ⟨a, t, sound⟩ | ⟨u, t, unsound⟩
  · rw [judged_of_success ho]
    exact hjudge a _
  · rw [judged_of_faulted ho]

section

variable (punctual : H.Punctual)

include punctual

theorem pauseAfter_le (w : H.World) :
    x.pauseAfter d w ≤ x.interval ∧ x.pauseAfter d w ≤ x.timeout - x.elapsed d w := by
  have hsub : H.precision.sub x.timeout (x.elapsed d w) = x.timeout - x.elapsed d w := by
    rw [punctual.exact]
    rfl
  rw [pauseAfter, hsub, Number.smaller]
  split
  next h => exact ⟨le_refl _, h⟩
  next h => exact ⟨(not_le.mp h).le, le_refl _⟩

theorem elapsed_eq (w : H.World) : x.elapsed d w = H.now (x.judged d w).2 - x.began := by
  rw [elapsed, punctual.exact]
  rfl

variable (pauses : d.Pauses)

include pauses

/-- A repeat starts a microsecond or more after its attempt is judged, and no later than a
microsecond after the deadline. -/
theorem Again.now_bounds {w w' : H.World} (h : x.Again d w w') :
    H.now (x.judged d w).2 < x.began + x.timeout ∧
      H.now (x.judged d w).2 + 1 / 1000000 ≤ H.now w' ∧
      H.now w' ≤ x.began + x.timeout + 1 / 1000000 := by
  obtain @⟨v, hjudged, early, hpaused⟩ := h
  have hv : (x.judged d w).2 = v := congrArg Prod.snd hjudged
  cases (pauses _ _).symm.trans hpaused
  have hleft := (pauseAfter_le (x := x) (d := d) punctual w).2
  rw [elapsed_eq punctual, hv] at early hleft
  rw [hv]
  have hmax : max (x.pauseAfter d w) 0 ≤ x.timeout - (H.now v - x.began) :=
    max_le hleft (by linarith)
  have hnow := punctual.now_pause_le (x.pauseAfter d w) v
  exact ⟨by linarith, punctual.le_now_pause _ _, by linarith⟩

/-- No attempt starts later than a microsecond after the deadline, or after the first one. -/
theorem Retried.now_le {w last : H.World} {ws : List H.World} (h : x.Retried d w ws last) :
    ∀ v ∈ ws ++ [last], H.now v ≤ max (H.now w) (x.began + x.timeout + 1 / 1000000) := by
  induction h with
  | here w => simp
  | @again w w' last ws first rest ih =>
    obtain ⟨-, -, hstart⟩ := first.now_bounds punctual pauses
    refine List.forall_mem_cons.mpr ⟨le_max_left _ _, fun v hv => ?_⟩
    exact (ih v hv).trans (max_le (le_max_of_le_right hstart) (le_max_right _ _))

/-- The clock of a punctual host advances. -/
theorem advances (forward : ∀ v, H.now v ≤ H.now (x.judged d v).2) {w : H.World}
    (hw : x.began = H.now w) : x.Advances d w where
  first := by
    rw [elapsed_eq punctual, hw]
    linarith [forward w]
  step {ws v v'} _ again := by
    obtain ⟨-, hlater, -⟩ := again.now_bounds punctual pauses
    rw [elapsed_eq punctual, elapsed_eq punctual]
    linarith [forward v']

/-- Every repeat uses up a microsecond of the time that is left. -/
theorem Retried.length_le (forward : ∀ v, H.now v ≤ H.now (x.judged d v).2) {w last : H.World}
    {ws : List H.World} (h : x.Retried d w ws last) (n : Nat)
    (hn : (x.began + x.timeout - H.now w) * 1000000 ≤ n) : ws.length ≤ n := by
  induction h generalizing n with
  | here w => exact Nat.zero_le n
  | @again w w' last ws first rest ih =>
    obtain ⟨hearly, hlater, -⟩ := first.now_bounds punctual pauses
    have hw := forward w
    cases n with
    | zero =>
      -- there was time left when the first attempt was judged, so there was before it
      push_cast at hn
      linarith
    | succ m =>
      push_cast at hn
      exact Nat.succ_le_succ (ih m (by linarith))

/-- A wait is repeated no more often than there are microseconds in its timeout. -/
theorem Retried.length_le_timeout (forward : ∀ v, H.now v ≤ H.now (x.judged d v).2)
    {last w : H.World} {ws : List H.World} (h : x.Retried d w ws last) (hw : x.began = H.now w) :
    ws.length ≤ (x.timeout * 1000000).ceil.toNat := by
  have hceil : x.timeout * 1000000 ≤ ((x.timeout * 1000000).ceil : Rat) := Rat.le_ceil
  have htoNat : ((x.timeout * 1000000).ceil : Rat) ≤ ((x.timeout * 1000000).ceil.toNat : Nat) := by
    exact_mod_cast Int.self_le_toNat _
  refine h.length_le punctual pauses forward _ ?_
  rw [hw]
  linarith

end

end Wait

/-- On a punctual host the pauses that a wait asks for are no longer than its interval and the time
that is left, and each of its attempts starts no later than a microsecond after the deadline, where
a timeout that is negative counts as none. When neither the flow nor the code that judges its value
moves the clock back, a wait that asks for more to the end has used up its time, after no more
repeats than there are microseconds in the timeout. -/
theorem Flow.waitUntil_punctual (punctual : H.Punctual) (pauses : d.Pauses) (c : Flow H α)
    (watch : Watch H α) (interval wait : Option Span) (env : H.Env) (s : H.State) (w : H.World) :
    let flow := c.waitUntil watch interval wait
    let x := Wait.begun c watch interval wait env s w
    ∃ ws last q, x.Retried d w ws last ∧ x.Ends d (attemptLimit x.timeout) ws.length last q ∧
      flow.trace d env s w = .entered ⟨flow, env, s, w⟩ ::
        (ws.flatMap (x.round d) ++ c.trace d env s last ++ q.moments d ++
          [.left (flow.history d env s w).outcome]) ∧
      (Moment.requests 0 ((flow env s w).moments d)).filterMap Event.pause? =
        ws.map (x.pauseAfter d) ∧
      (∀ v ∈ ws, x.pauseAfter d v ≤ x.interval ∧
        x.pauseAfter d v ≤ x.timeout - x.elapsed d v) ∧
      (∀ v ∈ ws ++ [last], H.now v ≤ H.now w + max x.timeout 0 + 1 / 1000000) ∧
      ((∀ v, H.now v ≤ H.now (c.history d env s v).world) →
        (∀ a v, H.now v ≤ H.now (watch.continueIf a v).2) →
        ws.length ≤ (x.timeout * 1000000).ceil.toNat ∧
          ((x.judged d last).1 = .ok true → x.timeout ≤ x.elapsed d last)) := by
  intro flow x
  obtain ⟨ws, last, q, hretried, -, hends, hflow⟩ :=
    leads_waitUntil pauses.steady c watch interval wait env s w
  replace hretried : x.Retried d w ws last := hretried
  have hbegan : x.began = H.now w := rfl
  refine ⟨ws, last, q, hretried, hends, trace_of_leads hflow, ?_,
    fun v _ => Wait.pauseAfter_le punctual v, fun v hv => ?_, fun hflow hjudge => ?_⟩
  · rw [hflow.moments, List.append_assoc, Wait.requests_rounds, Flow.requests_trace,
      List.filterMap_append, hends.pauses_eq_nil, List.append_nil, List.filterMap_map]
    exact congrFun List.filterMap_eq_map ws
  · have hstart := hretried.now_le punctual pauses v hv
    rw [hbegan] at hstart
    refine hstart.trans (max_le ?_ ?_)
    · linarith [le_max_right x.timeout 0]
    · linarith [le_max_left x.timeout 0]
  · have forward : ∀ v, H.now v ≤ H.now (x.judged d v).2 :=
      Wait.now_le_judged (x := x) hflow hjudge
    have hlength := hretried.length_le_timeout punctual pauses forward hbegan
    have hlimit : ws.length < attemptLimit x.timeout := by
      rw [attemptLimit]
      omega
    exact ⟨hlength, hends.timeout_le hlimit⟩

/-- A wait of three microseconds for a flow that never gives what is waited for, with an interval of
two: its second pause is cut to the microsecond that is left. -/
theorem Flow.waitUntil_punctual_short :
    let c : Flow Host.timekeeping Nat := lift fun w => (.ok (.value w), w)
    let watch : Watch Host.timekeeping Nat := ⟨fun _ => .ok true, "the hour", none⟩
    let interval : Option Span := some (.seconds (2 / 1000000))
    let short : Option Span := some (.seconds (3 / 1000000))
    let s := Host.timekeepingStart.withMuted true
    let flow := c.waitUntil watch interval short
    let x := Wait.begun c watch interval short () s (0 : Nat)
    Host.timekeeping.Punctual ∧ (Driver.blocking : Driver Host.timekeeping).Pauses ∧
      (Moment.requests 0 ((flow () s (0 : Nat)).moments .blocking)).filterMap Event.pause? =
        [2 / 1000000, 1 / 1000000] ∧
      ∃ ws last, x.Retried .blocking (0 : Nat) ws last ∧ ws.length = 2 ∧
        (∀ v ∈ ws ++ [last], (v : Rat) / 1000000 ≤ 4 / 1000000) ∧
        3 / 1000000 ≤ x.elapsed .blocking last := by
  intro c watch interval short s flow x
  have hasked : (Moment.requests 0 ((flow () s (0 : Nat)).moments .blocking)).filterMap
      Event.pause? = [2 / 1000000, 1 / 1000000] := by
    decide +kernel
  obtain ⟨ws, last, q, hretried, -, -, hpauses, -, hstarts, hbound⟩ := waitUntil_punctual
    Host.punctual_timekeeping Driver.pauses_blocking c watch interval short () s (0 : Nat)
  have hlength : (ws.map (x.pauseAfter .blocking)).length = 2 := by
    rw [← hpauses, hasked]
    rfl
  have hlatest : Host.timekeeping.now (0 : Nat) + max x.timeout 0 + 1 / 1000000 ≤ 4 / 1000000 := by
    decide +kernel
  have hattempt : (x.attempt .blocking last).outcome = .success last s rfl := by
    rw [show x.attempt .blocking last = _ from history_eq ..]
    rfl
  have hagain : (x.judged .blocking last).1 = .ok true := by
    rw [Wait.judged_of_success hattempt]
    rfl
  obtain ⟨-, hup⟩ := hbound (fun v => by rw [history_eq]; exact le_refl _) fun _ v => le_refl _
  refine ⟨Host.punctual_timekeeping, Driver.pauses_blocking, hasked, ws, last, hretried, ?_,
    fun v hv => (hstarts v hv).trans hlatest, ?_⟩
  · rwa [List.length_map] at hlength
  · have htimeout : x.timeout = 3 / 1000000 := by decide +kernel
    rw [← htimeout]
    exact hup hagain

end Walkthrough
