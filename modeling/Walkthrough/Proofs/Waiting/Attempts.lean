import Walkthrough.Flow.Retry
import Walkthrough.Proofs.Run.Keeps
import Walkthrough.Proofs.Run.Law
import Walkthrough.Proofs.Run.Leads

/-!
# The attempts of a wait

A wait runs a flow again and again, always from the state that it was itself started from. Of an
attempt only the world goes on to the next one, so the attempts of a wait are told by the worlds in
which they start (`Wait.Retried`): after each of them but the last the value asked for more, there
was time left, and a pause was over. How the last one came to be the last is told by `Wait.Ends`.
`Wait.course` says that a run of a wait shows its attempts with the pauses between them, and then
goes on as the last one ends.

A wait whose time is not up may still be cut, when it has been repeated `Flow.attemptLimit` times
(`Wait.Overruns`): a clock that stands still would have it go on for ever.
-/

namespace Walkthrough

variable {H : Host} {α : Type}

/-- A wait: the flow that it runs, the state that each attempt is run from, what it watches for, and
how long. -/
structure Wait (H : Host) (α : Type) where
  flow : Flow H α
  watch : Flow.Watch H α
  interval : Rat
  timeout : Rat
  /-- The reading of the clock when the wait was started. -/
  began : Rat
  env : H.Env
  state : H.State

namespace Wait

/-- The wait that `Flow.waitUntil` is when it is started in a world. -/
def begun (c : Flow H α) (watch : Flow.Watch H α) (interval wait : Option Span) (env : H.Env)
    (s : H.State) (w : H.World) : Wait H α where
  flow := c
  watch := watch
  interval := Span.toSecondsOr H.precision s.settings.interval interval
  timeout := Span.toSecondsOr H.precision s.settings.wait wait
  began := H.now w
  env := env
  state := s

variable (x : Wait H α) (d : Driver H)

/-- The attempt that starts in a world. -/
abbrev attempt (w : H.World) : History H α := x.flow.history d x.env x.state w

/-- Whether to look again after an attempt, and the world once that is known. A failed attempt is
not repeated. -/
def judged (w : H.World) : Except Thrown Bool × H.World :=
  match (x.attempt d w).outcome with
  | .success a _ _ => x.watch.continueIf a (x.attempt d w).world
  | .faulted .. => (.ok false, (x.attempt d w).world)

/-- How long the wait has lasted when it is known whether to look again. -/
def elapsed (w : H.World) : Rat := H.precision.sub (H.now (x.judged d w).2) x.began

/-- The pause after an attempt. -/
def pauseAfter (w : H.World) : Rat :=
  Number.smaller x.interval (H.precision.sub x.timeout (x.elapsed d w))

/-- The attempt that starts in the first world is followed by one that starts in the second: its
value asks for more, there is time left, and the pause is over. -/
inductive Again (w w' : H.World) : Prop where
  | intro {v : H.World} (judged : x.judged d w = (.ok true, v)) (early : x.elapsed d w < x.timeout)
      (paused : d.sleep (x.pauseAfter d w) v = (.ok (), w')) : Again w w'

/-- The attempts from the first world on, one after the other, up to the one that starts in the last
world. The list is of those before it. -/
inductive Retried : H.World → List H.World → H.World → Prop where
  | here (w : H.World) : Retried w [] w
  | again {w w' last : H.World} {ws : List H.World} (first : x.Again d w w')
      (rest : Retried w' ws last) : Retried w (w :: ws) last

/-- The moments of an attempt and of the pause after it. -/
def round (w : H.World) : List (Moment H) :=
  x.flow.trace d x.env x.state w ++ [.request (.slept (x.pauseAfter d w))]

/-- The attempt that starts in a world is the last one, `tried` came before it, and the wait goes on
as the program. The wait is cut after `limit` attempts that are repeated. -/
inductive Ends (limit tried : Nat) (w : H.World) : Program H α → Prop where
  /-- The attempt has failed, or its value is what was waited for. -/
  | settled {v : H.World} (judged : x.judged d w = (.ok false, v)) :
      Ends limit tried w (.finish (x.attempt d w).outcome v)
  | threw {e : Thrown} {v : H.World} (judged : x.judged d w = (.error e, v)) :
      Ends limit tried w (.raise e v)
  /-- The value asks for more, but there is no time. -/
  | late {a : α} {t : H.State} {sound : t.failures = []} {v : H.World}
      (value : (x.attempt d w).outcome = .success a t sound)
      (judged : x.judged d w = (.ok true, v)) (up : x.timeout ≤ x.elapsed d w) :
      Ends limit tried w
        (Flow.giveUp x.watch x.timeout (x.elapsed d w) (tried + 1) a x.env x.state v)
  /-- The value asks for more and there is time, but the wait is cut. -/
  | cut {v : H.World} (judged : x.judged d w = (.ok true, v)) (early : x.elapsed d w < x.timeout)
      (spent : tried = limit) : Ends limit tried w (.raise (.fault .endless) v)

/-- The wait that starts its first attempt in a world is cut: it is repeated as often as a wait may
be, and its last value asks for more when there is still time. -/
inductive Overruns (w : H.World) : Prop where
  | intro {ws : List H.World} {last v : H.World} (retried : x.Retried d w ws last)
      (spent : ws.length = Flow.attemptLimit x.timeout) (judged : x.judged d last = (.ok true, v))
      (early : x.elapsed d last < x.timeout) : Overruns w

/-- The rest of a wait, from an attempt on. -/
def look (left done : Nat) (w : H.World) : Program H α :=
  Flow.look x.flow x.watch x.interval x.timeout x.began x.env x.state left done w

variable {x d}

/-- A value is judged by what the wait watches for. -/
theorem judged_of_success {w : H.World} {a : α} {t : H.State} {sound : t.failures = []}
    (h : (x.attempt d w).outcome = .success a t sound) :
    x.judged d w = x.watch.continueIf a (x.attempt d w).world := by
  unfold judged
  rw [h]

/-- An attempt that failed is not looked at again. -/
theorem judged_of_faulted {w : H.World} {v : Option α} {t : H.State} {unsound : t.failures ≠ []}
    (h : (x.attempt d w).outcome = .faulted v t unsound) :
    x.judged d w = (.ok false, (x.attempt d w).world) := by
  unfold judged
  rw [h]

/-- Only after an attempt with a value is anything asked. -/
theorem success_of_judged {w v : H.World} {r : Except Thrown Bool} (h : x.judged d w = (r, v))
    (hr : r ≠ .ok false) : ∃ a t sound, (x.attempt d w).outcome = .success a t sound := by
  rcases ho : (x.attempt d w).outcome with ⟨a, t, sound⟩ | ⟨u, t, unsound⟩
  · exact ⟨a, t, sound, rfl⟩
  · rw [judged_of_faulted ho] at h
    exact absurd (congrArg Prod.fst h).symm hr

/-! ## One attempt -/

section

variable {w v : H.World} {a : α} {t : H.State} {sound : t.failures = []} (left done : Nat)

/-- An attempt that decides ends the wait with its outcome. -/
theorem leads_of_settled (hjudged : x.judged d w = (.ok false, v)) :
    (x.look left done w).Leads d (x.flow.trace d x.env x.state w)
      (.finish (x.attempt d w).outcome v) := by
  rw [look, Flow.look]
  refine .run ?_
  rcases ho : (x.attempt d w).outcome with ⟨a, t, sound⟩ | ⟨u, t, unsound⟩
  · rw [judged_of_success ho] at hjudged
    dsimp only
    rw [hjudged]
  · rw [judged_of_faulted ho] at hjudged
    cases hjudged
    rfl

variable (ho : (x.attempt d w).outcome = .success a t sound)

include ho

/-- What judging throws ends the wait. -/
theorem leads_of_throws {e : Thrown} (hjudged : x.judged d w = (.error e, v)) :
    (x.look left done w).Leads d (x.flow.trace d x.env x.state w) (.raise e v) := by
  rw [judged_of_success ho] at hjudged
  rw [look, Flow.look]
  refine .run ?_
  rw [ho]
  dsimp only
  rw [hjudged]

/-- When the time is up, the wait gives up. -/
theorem leads_of_late (hjudged : x.judged d w = (.ok true, v))
    (up : x.timeout ≤ x.elapsed d w) :
    (x.look left done w).Leads d (x.flow.trace d x.env x.state w)
      (Flow.giveUp x.watch x.timeout (x.elapsed d w) (done + 1) a x.env x.state v) := by
  unfold elapsed at up ⊢
  rw [hjudged] at up ⊢
  rw [judged_of_success ho] at hjudged
  rw [look, Flow.look]
  refine .run ?_
  rw [ho]
  dsimp only
  rw [hjudged]
  exact if_pos up

/-- The last look that is left, and still time: the wait is cut. -/
theorem leads_of_cut (hjudged : x.judged d w = (.ok true, v)) (early : x.elapsed d w < x.timeout) :
    (x.look 0 done w).Leads d (x.flow.trace d x.env x.state w) (.raise (.fault .endless) v) := by
  unfold elapsed at early
  rw [hjudged] at early
  rw [judged_of_success ho] at hjudged
  rw [look, Flow.look]
  refine .run ?_
  rw [ho]
  dsimp only
  rw [hjudged]
  exact if_neg (Rat.not_le.mpr early)

/-- While there is time, the wait pauses and looks again, from the same state. -/
theorem leads_of_again (hjudged : x.judged d w = (.ok true, v)) (early : x.elapsed d w < x.timeout)
    {w' : H.World} (hpaused : d.sleep (x.pauseAfter d w) v = (.ok (), w')) :
    (x.look (left + 1) done w).Leads d (x.round d w) (x.look left (done + 1) w') := by
  unfold round pauseAfter elapsed at *
  rw [hjudged] at early hpaused ⊢
  rw [judged_of_success ho] at hjudged
  rw [look, Flow.look]
  refine .run_trans ?_
  rw [ho]
  dsimp only
  rw [hjudged]
  dsimp only
  rw [if_neg (Rat.not_le.mpr early)]
  refine .sleep ?_
  rw [hpaused]
  rfl

end

/-- After an attempt the wait ends, or it pauses and looks again. -/
theorem leads_look (steady : d.Steady) (left done : Nat) (w : H.World) :
    (∃ q, x.Ends d (done + left) done w q ∧
      (x.look left done w).Leads d (x.flow.trace d x.env x.state w) q) ∨
    ∃ left' w', left = left' + 1 ∧ x.Again d w w' ∧
      (x.look left done w).Leads d (x.round d w) (x.look left' (done + 1) w') := by
  rcases hjudged : x.judged d w with ⟨e | _ | _, v⟩
  · obtain ⟨a, t, sound, ho⟩ := success_of_judged hjudged (by simp)
    exact .inl ⟨_, .threw hjudged, leads_of_throws left done ho hjudged⟩
  · exact .inl ⟨_, .settled hjudged, leads_of_settled left done hjudged⟩
  · obtain ⟨a, t, sound, ho⟩ := success_of_judged hjudged (by simp)
    -- there is another attempt when the time is not up and one is left
    by_cases up : x.timeout ≤ x.elapsed d w
    · exact .inl ⟨_, .late ho hjudged up, leads_of_late left done ho hjudged up⟩
    · have early : x.elapsed d w < x.timeout := Rat.not_le.mp up
      cases left with
      | zero => exact .inl ⟨_, .cut hjudged early rfl, leads_of_cut done ho hjudged early⟩
      | succ left =>
        obtain ⟨w', hpaused⟩ := steady (x.pauseAfter d w) v
        exact .inr ⟨left, w', rfl, ⟨hjudged, early, hpaused⟩,
          leads_of_again left done ho hjudged early hpaused⟩

/-! ## All attempts -/

/-- A run of a wait shows its attempts with the pauses between them, and then goes on as the last
one ends. -/
theorem course (steady : d.Steady) (left done : Nat) (w : H.World) :
    ∃ ws last q, x.Retried d w ws last ∧ ws.length ≤ left ∧
      x.Ends d (done + left) (done + ws.length) last q ∧
      (x.look left done w).Leads d
        (ws.flatMap (x.round d) ++ x.flow.trace d x.env x.state last) q := by
  induction left generalizing done w with
  | zero =>
    rcases leads_look (x := x) steady 0 done w with ⟨q, hends, hlook⟩ | ⟨left', w', hleft, -⟩
    · exact ⟨[], w, q, .here w, Nat.le_refl 0, hends, hlook⟩
    · cases hleft
  | succ left ih =>
    rcases leads_look (x := x) steady (left + 1) done w with
      ⟨q, hends, hlook⟩ | ⟨left', w', hleft, hagain, hlook⟩
    · exact ⟨[], w, q, .here w, Nat.zero_le _, hends, hlook⟩
    · obtain rfl := Nat.succ.inj hleft
      obtain ⟨ws, last, q, hretried, hlength, hends, hrest⟩ := ih (done + 1) w'
      refine ⟨w :: ws, last, q, .again hagain hretried, Nat.succ_le_succ hlength, ?_, ?_⟩
      · have hlimit : done + 1 + left = done + (left + 1) := by omega
        have htried : done + 1 + ws.length = done + (w :: ws).length := by
          rw [List.length_cons]
          omega
        rwa [hlimit, htried] at hends
      · rw [List.flatMap_cons, List.append_assoc]
        exact hlook.trans hrest

/-- What is repeated is shown, whatever becomes of the last attempt. -/
theorem Retried.leads {w last : H.World} {ws : List H.World} (h : x.Retried d w ws last)
    (left done : Nat) :
    (x.look (ws.length + left) done w).Leads d (ws.flatMap (x.round d))
      (x.look left (done + ws.length) last) := by
  induction h generalizing done with
  | here w =>
    rw [List.length_nil, Nat.zero_add]
    exact .refl _
  | @again w w' last ws first rest ih =>
    obtain ⟨hjudged, early, hpaused⟩ := first
    obtain ⟨a, t, sound, ho⟩ := success_of_judged hjudged (by simp)
    have hleft : (w :: ws).length + left = ws.length + left + 1 := by
      rw [List.length_cons]
      omega
    have hdone : done + (w :: ws).length = done + 1 + ws.length := by
      rw [List.length_cons]
      omega
    rw [hleft, hdone, List.flatMap_cons]
    exact (leads_of_again _ done ho hjudged early hpaused).trans (ih (done + 1))

end Wait

/-- A wait gives up with a warning, and then fails with the message that was worded. -/
theorem Flow.leads_giveUp {d : Driver H} {watch : Watch H α} {timeout elapsed : Rat}
    {attempts : Nat} {a : α} (env : H.Env) (s : H.State) {w v : H.World} {message : String}
    (hmessage : timeoutMessage watch timeout a
      (H.complain .warning (timeoutWarning watch attempts elapsed) w) = (.ok message, v)) :
    (giveUp watch timeout elapsed attempts a env s w).Leads d
      [.request (.did (.complain .warning (timeoutWarning watch attempts elapsed)) (.ok ()))]
      ((fail (.ofMessage .timeout message)).endWith env s v) := by
  refine .effect ?_
  dsimp only [Host.perform]
  rw [hmessage]

/-- A wait that starts in a world runs out of time: after the attempts that are repeated the value
of one more asks for more as well, there is no time left, and what is said about it is worded. The
last world is the one in which this is to be reported. -/
inductive Wait.TimesOut (x : Wait H α) (d : Driver H) (w : H.World) (message : String)
    (v : H.World) : Prop where
  | intro {ws : List H.World} {last u : H.World} {a : α} {t : H.State} {sound : t.failures = []}
      (retried : x.Retried d w ws last) (within : ws.length ≤ Flow.attemptLimit x.timeout)
      (value : (x.attempt d last).outcome = .success a t sound)
      (judged : x.judged d last = (.ok true, u)) (up : x.timeout ≤ x.elapsed d last)
      (worded : Flow.timeoutMessage x.watch x.timeout a (H.complain .warning
        (Flow.timeoutWarning x.watch (ws.length + 1) (x.elapsed d last)) u) = (.ok message, v)) :
      TimesOut x d w message v

/-- A wait that runs out of time ends as the flow that fails with the timeout. -/
theorem Flow.leads_of_timesOut {d : Driver H} {c : Flow H α} {watch : Watch H α}
    {interval wait : Option Span} {env : H.Env} {s : H.State} {w v : H.World} {message : String}
    (h : (Wait.begun c watch interval wait env s w).TimesOut d w message v) :
    ∃ ms, (c.waitUntil watch interval wait env s w).Leads d ms
      ((fail (.ofMessage .timeout message)).endWith env s v) := by
  obtain @⟨ws, last, u, a, t, sound, retried, within, value, judged, up, worded⟩ := h
  obtain ⟨left, hleft⟩ := Nat.exists_eq_add_of_le within
  have hrepeated := retried.leads left 0
  rw [← hleft, Nat.zero_add] at hrepeated
  have hlate := Wait.leads_of_late left ws.length value judged up
  exact ⟨_, (hrepeated.trans hlate).trans (leads_giveUp env s worded)⟩

/-- The course of `Flow.waitUntil`, which begins with no attempt made. -/
theorem Flow.leads_waitUntil {d : Driver H} (steady : d.Steady) (c : Flow H α) (watch : Watch H α)
    (interval wait : Option Span) (env : H.Env) (s : H.State) (w : H.World) :
    let x := Wait.begun c watch interval wait env s w
    ∃ ws last q, x.Retried d w ws last ∧ ws.length ≤ attemptLimit x.timeout ∧
      x.Ends d (attemptLimit x.timeout) ws.length last q ∧
      (c.waitUntil watch interval wait env s w).Leads d
        (ws.flatMap (x.round d) ++ c.trace d env s last) q := by
  intro x
  obtain ⟨ws, last, q, hretried, hlength, hends, hlook⟩ :=
    x.course steady (attemptLimit x.timeout) 0 w
  rw [Nat.zero_add, Nat.zero_add] at hends
  exact ⟨ws, last, q, hretried, hlength, hends, hlook⟩

/-- A host like `Host.refusing` whose world is the time in microseconds. A pause is rounded up to
whole microseconds, and takes at least one. -/
abbrev Host.timekeeping : Host :=
  { Host.refusing with
    now := fun w => (w : Rat) / 1000000
    sleep := fun t w => w + (max 1 (t * 1000000).ceil).toNat }

/-- The state that a run under `Host.timekeeping` starts from, with no session. -/
abbrev Host.timekeepingStart : Host.timekeeping.State :=
  Host.timekeeping.initialState none { sinks := () }

/-- The sinks of the host with a clock take everything. -/
theorem Host.quiet_timekeeping : Host.timekeeping.Quiet :=
  ⟨fun _ _ _ w => ⟨w, rfl⟩, fun _ _ w => ⟨w, rfl⟩⟩

end Walkthrough
