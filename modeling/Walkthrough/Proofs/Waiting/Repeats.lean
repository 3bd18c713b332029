import Walkthrough.Proofs.Waiting.Success

/-!
# Bounded repeats

`Flow.doWhile` and `Flow.doWhileOrFail` run a flow while its value asks for more, a bounded number
of times. Where a loop stands before an attempt is a `Loop.Place`: each attempt is made from the
state and the world that the one before has left. `Loop.Rejected` tells the attempts whose value
asked for more, one after the other, and `Loop.Ends` how an attempt comes to be the last one.

Without a pause between the attempts both loops make the same attempts. They end alike with the
first attempt that ends them; only when every attempt has been rejected does one loop give the value
of the last one where the other fails (`Flow.doWhile_agrees`).
-/

namespace Walkthrough

variable {H : Host} {α : Type}

/-- A loop: the flow that it repeats, and when. -/
structure Loop (H : Host) (α : Type) where
  flow : Flow H α
  /-- Whether to go on after a value. -/
  continueIf : α → Act H.World Bool
  env : H.Env

namespace Loop

/-- Where a loop stands before an attempt. -/
structure Place (H : Host) (α : Type) where
  /-- The value of the attempt before, if there was one. -/
  value? : Option α
  state : H.State
  world : H.World

variable (x : Loop H α) (d : Driver H)

/-- The attempt that is made at a place. -/
abbrev attempt (p : Place H α) : History H α := x.flow.history d x.env p.state p.world

/-- The moments of the attempts at some places. -/
def attempts (ps : List (Place H α)) : List (Moment H) :=
  ps.flatMap fun p => x.flow.trace d x.env p.state p.world

/-- The attempt at the first place succeeds and its value asks for more; what is left is the second
place. -/
inductive Rejects (p : Place H α) : Place H α → Prop where
  | intro {a : α} {t : H.State} {sound : t.failures = []} {v : H.World}
      (value : (x.attempt d p).outcome = .success a t sound)
      (judged : x.continueIf a (x.attempt d p).world = (.ok true, v)) : Rejects p ⟨some a, t, v⟩

/-- The attempts from the first place on are rejected, one after the other, up to the last place.
The list is of the places before it. -/
inductive Rejected : Place H α → List (Place H α) → Place H α → Prop where
  | here (p : Place H α) : Rejected p [] p
  | again {p q last : Place H α} {ps : List (Place H α)} (first : x.Rejects d p q)
      (rest : Rejected q ps last) : Rejected p (p :: ps) last

/-- The attempt at a place is the last one, and the loop goes on as the program. -/
inductive Ends (p : Place H α) : Program H α → Prop where
  | failed {v : Option α} {t : H.State} {unsound : t.failures ≠ []}
      (value : (x.attempt d p).outcome = .faulted v t unsound) :
      Ends p (.finish (.faulted v t unsound) (x.attempt d p).world)
  | accepted {a : α} {t : H.State} {sound : t.failures = []} {v : H.World}
      (value : (x.attempt d p).outcome = .success a t sound)
      (judged : x.continueIf a (x.attempt d p).world = (.ok false, v)) :
      Ends p (.finish (.success a t sound) v)
  | threw {a : α} {t : H.State} {sound : t.failures = []} {e : Thrown} {v : H.World}
      (value : (x.attempt d p).outcome = .success a t sound)
      (judged : x.continueIf a (x.attempt d p).world = (.error e, v)) : Ends p (.raise e v)

variable {x d}

/-- After an attempt the loop goes on or ends, and there is no third way. -/
theorem rejects_or_ends (p : Place H α) : (∃ q, x.Rejects d p q) ∨ ∃ e, x.Ends d p e := by
  rcases ho : (x.attempt d p).outcome with ⟨a, t, sound⟩ | ⟨v, t, unsound⟩
  · rcases hjudged : x.continueIf a (x.attempt d p).world with ⟨e | _ | _, v⟩
    · exact .inr ⟨_, .threw ho hjudged⟩
    · exact .inr ⟨_, .accepted ho hjudged⟩
    · exact .inl ⟨_, .intro ho hjudged⟩
  · exact .inr ⟨_, .failed ho⟩

/-- What ends a loop asks for nothing any more. -/
theorem Ends.moments_eq_nil {p : Place H α} {e : Program H α} (h : x.Ends d p e) :
    e.moments d = [] := by
  cases h with
  | failed value => rfl
  | accepted value judged => rfl
  | threw value judged => rfl

/-! ## Places -/

/-- The attempts that were rejected went well, so nothing has failed up to the last place. -/
theorem Rejected.failures_eq_nil {p last : Place H α} {ps : List (Place H α)}
    (h : x.Rejected d p ps last) (hp : p.state.failures = []) : last.state.failures = [] := by
  induction h with
  | here p => exact hp
  | again first rest ih =>
    obtain @⟨a, t, sound, v, -, -⟩ := first
    exact ih sound

/-- A loop stands at a value once there was an attempt. -/
theorem Rejected.value?_eq_none_iff {p last : Place H α} {ps : List (Place H α)}
    (h : x.Rejected d p ps last) : last.value? = none ↔ p.value? = none ∧ ps = [] := by
  induction h with
  | here p => simp
  | again first rest ih =>
    cases first
    simp [ih]

/-! ## One attempt -/

/-- The rest of the loop that ends with its last value. -/
abbrev rest (left : Nat) (p : Place H α) : Program H (Option α) :=
  Flow.repeatWhile x.flow x.continueIf x.env left p.value? p.state p.world

/-- The rest of the loop that fails when no attempt is left. -/
abbrev restOrFail (message : String) (left : Nat) (p : Place H α) : Program H α :=
  Flow.repeatOrFail x.flow x.continueIf none message x.env left p.state p.world

section

variable {p q : Place H α} {e : Program H α} (message : String) (left : Nat)

/-- A rejected attempt of `doWhile` takes one repeat and leads to the next place. -/
theorem rest_of_rejects (h : x.Rejects d p q) :
    (x.rest (left + 1) p).Leads d (x.flow.trace d x.env p.state p.world) (x.rest left q) := by
  obtain ⟨value, judged⟩ := h
  rw [rest, Flow.repeatWhile]
  refine .run ?_
  rw [value]
  dsimp only
  rw [judged]

/-- So does one of `doWhileOrFail`. -/
theorem restOrFail_of_rejects (h : x.Rejects d p q) :
    (x.restOrFail message (left + 1) p).Leads d (x.flow.trace d x.env p.state p.world)
      (x.restOrFail message left q) := by
  obtain ⟨value, judged⟩ := h
  rw [restOrFail, Flow.repeatOrFail]
  refine .run ?_
  rw [value]
  dsimp only
  rw [judged]
  -- the loop looks ahead whether an attempt is left, and does then what it would do anyway
  cases left with
  | zero => rfl
  | succ left => rfl

/-- An attempt that ends `doWhile` ends it with its value. -/
theorem rest_of_ends (h : x.Ends d p e) :
    (x.rest (left + 1) p).Leads d (x.flow.trace d x.env p.state p.world) (e.map some) := by
  rw [rest, Flow.repeatWhile]
  refine .run ?_
  cases h with
  | failed value =>
    rw [value]
    rfl
  | @accepted a t sound v value judged =>
    rw [value]
    dsimp only
    rw [judged]
    exact congrArg (Program.finish · v) (Outcome.of_eq_success sound)
  | threw value judged =>
    rw [value]
    dsimp only
    rw [judged]
    rfl

/-- An attempt that ends `doWhileOrFail` ends it alike. -/
theorem restOrFail_of_ends (h : x.Ends d p e) :
    (x.restOrFail message (left + 1) p).Leads d (x.flow.trace d x.env p.state p.world) e := by
  rw [restOrFail, Flow.repeatOrFail]
  refine .run ?_
  cases h with
  | failed value => rw [value]
  | accepted value judged =>
    rw [value]
    dsimp only
    rw [judged]
  | threw value judged =>
    rw [value]
    dsimp only
    rw [judged]

end

/-! ## All attempts -/

/-- Both loops make the same attempts. Either all that there may be are rejected, or one of them is
the last for both. -/
theorem course (message : String) (left : Nat) (p : Place H α) :
    ∃ ps last, x.Rejected d p ps last ∧
      (ps.length = left ∧ (x.rest left p).Leads d (x.attempts d ps) (x.rest 0 last) ∧
          (x.restOrFail message left p).Leads d (x.attempts d ps) (x.restOrFail message 0 last) ∨
        ps.length < left ∧ ∃ e, x.Ends d last e ∧
          (x.rest left p).Leads d (x.attempts d (ps ++ [last])) (e.map some) ∧
          (x.restOrFail message left p).Leads d (x.attempts d (ps ++ [last])) e) := by
  induction left generalizing p with
  | zero => exact ⟨[], p, .here p, .inl ⟨rfl, .refl _, .refl _⟩⟩
  | succ left ih =>
    rcases x.rejects_or_ends (d := d) p with ⟨q, hrejects⟩ | ⟨e, hends⟩
    · obtain ⟨ps, last, hrejected, hrest⟩ := ih q
      refine ⟨p :: ps, last, .again hrejects hrejected, ?_⟩
      rcases hrest with ⟨hlength, hlax, hstrict⟩ | ⟨hlength, e, hends, hlax, hstrict⟩
      · exact .inl ⟨congrArg Nat.succ hlength, (rest_of_rejects left hrejects).trans hlax,
          (restOrFail_of_rejects message left hrejects).trans hstrict⟩
      · exact .inr ⟨Nat.succ_lt_succ hlength, e, hends,
          (rest_of_rejects left hrejects).trans hlax,
          (restOrFail_of_rejects message left hrejects).trans hstrict⟩
    · refine ⟨[], p, .here p, .inr ⟨Nat.succ_pos left, e, hends, ?_, ?_⟩⟩
      · simpa [attempts] using rest_of_ends left hends
      · simpa [attempts] using restOrFail_of_ends message left hends

end Loop

namespace Flow

/-- Both loops make the same attempts, each where the one before has left off. When there is one
that ends them before the bound is reached, by failing, by its value or because the code throws that
judges it, they end with the same outcome in the same world. Otherwise all attempts have succeeded
and were rejected: one loop gives the last value, if there was an attempt at all, and what is left;
the other one writes a line there and fails with the message and nothing else. -/
theorem doWhile_agrees (quiet : H.Quiet) (d : Driver H) (c : Flow H α)
    (continueIf : α → Act H.World Bool) (n : Int) (message : String) (env : H.Env) {s : H.State}
    (hs : s.failures = []) (w : H.World) :
    let lax := c.doWhile continueIf n
    let strict := c.doWhileOrFail continueIf n none message
    let x : Loop H α := ⟨c, continueIf, env⟩
    let given := lax.history d env s w
    let failed := strict.history d env s w
    ∃ ps last, x.Rejected d ⟨none, s, w⟩ ps last ∧
      (ps.length = n.toNat ∧ (last.value? = none ↔ n ≤ 0) ∧
          lax.trace d env s w =
            .entered ⟨lax, env, s, w⟩ :: (x.attempts d ps ++ [.left given.outcome]) ∧
          strict.trace d env s w =
            .entered ⟨strict, env, s, w⟩ :: (x.attempts d ps ++
              (failWith message : Flow H α).trace d env last.state last.world ++
              [.left failed.outcome]) ∧
          (∃ sound, given.outcome = .success last.value? last.state sound) ∧
          failed.outcome = .fault (last.state.withLine .error message)
            (.ofMessage .assertion message) [] ∨
        ps.length < n.toNat ∧
          lax.trace d env s w =
            .entered ⟨lax, env, s, w⟩ :: (x.attempts d (ps ++ [last]) ++ [.left given.outcome]) ∧
          strict.trace d env s w =
            .entered ⟨strict, env, s, w⟩ ::
              (x.attempts d (ps ++ [last]) ++ [.left failed.outcome]) ∧
          (∃ e, x.Ends d last e ∧ failed.outcome = (e.history d s).outcome) ∧
          given.outcome = failed.outcome.map some ∧ given.world = failed.world) := by
  intro lax strict x given failed
  obtain ⟨ps, last, hrejected, hcourse⟩ := x.course (d := d) message n.toNat ⟨none, s, w⟩
  refine ⟨ps, last, hrejected, ?_⟩
  rcases hcourse with ⟨hlength, hlax, hstrict⟩ | ⟨hlength, e, hends, hlax, hstrict⟩
  · have sound : last.state.failures = [] := hrejected.failures_eq_nil hs
    have hgiven : (lax env s w).Leads d (x.attempts d ps)
        (.finish (.of last.value? last.state) last.world) := hlax
    have hfailed : (strict env s w).Leads d _ _ :=
      hstrict.trans (.endWith (failWith message) env last.state last.world)
    refine .inl ⟨hlength, ?_, ?_, ?_, ⟨sound, ?_⟩, ?_⟩
    · rw [hrejected.value?_eq_none_iff, ← List.length_eq_zero_iff, hlength]
      simp
    · rw [trace_of_leads hgiven, Program.moments, List.append_nil]
    · rw [trace_of_leads hfailed, Program.moments, List.append_nil]
    · exact (outcome_of_leads hgiven).trans (Outcome.of_eq_success sound)
    · refine (outcome_of_leads hfailed).trans ?_
      rw [Program.history, history_eq]
      exact (keeps_fail quiet True _ env sound last.world).outcome
  · have hgiven : (lax env s w).Leads d (x.attempts d (ps ++ [last])) (e.map some) := hlax
    have hfailed : (strict env s w).Leads d (x.attempts d (ps ++ [last])) e := hstrict
    refine .inr ⟨hlength, ?_, ?_, ⟨e, hends, outcome_of_leads hfailed⟩, ?_, ?_⟩
    · rw [trace_of_leads hgiven, Program.moments_map, hends.moments_eq_nil, List.append_nil]
    · rw [trace_of_leads hfailed, hends.moments_eq_nil, List.append_nil]
    · refine (outcome_of_leads hgiven).trans ?_
      rw [Program.history_map]
      exact congrArg (Outcome.map some) (outcome_of_leads hfailed).symm
    · refine (world_of_leads hgiven).trans ?_
      rw [Program.history_map]
      exact (world_of_leads hfailed).symm

/-- A flow that counts its runs is repeated while it has counted less than three. Two attempts are
not enough for that, four are more than enough. -/
theorem doWhile_agrees_counting :
    let c : Flow Host.refusing Nat := lift fun w => (.ok (.value w), w + 1)
    let below : Nat → Act Nat Bool := fun a => .ok (decide (a < 3))
    let s := Host.refusingStart
    let lax : Int → History Host.refusing (Option Nat) := fun n =>
      (c.doWhile below n).history .blocking () s (0 : Nat)
    let strict : Int → History Host.refusing Nat := fun n =>
      (c.doWhileOrFail below n none "gave up").history .blocking () s (0 : Nat)
    Host.refusing.Quiet ∧ s.failures = [] ∧
      (lax 4).outcome.value? = some (some 3) ∧ (lax 4).outcome = (strict 4).outcome.map some ∧
      (∃ t sound, (lax 2).outcome = .success (some 1) t sound ∧
        (strict 2).outcome = .fault (t.withLine .error "gave up")
          (.ofMessage .assertion "gave up") []) ∧
      ∃ t sound, (lax (-1)).outcome = .success none t sound ∧
        (strict (-1)).outcome = .fault (t.withLine .error "gave up")
          (.ofMessage .assertion "gave up") [] := by
  intro c below s lax strict
  have hlax : ∀ n, lax n = ((c.doWhile below n) () s (0 : Nat)).history .blocking s :=
    fun n => history_eq ..
  have hstrict : ∀ n, strict n =
      ((c.doWhileOrFail below n none "gave up") () s (0 : Nat)).history .blocking s :=
    fun n => history_eq ..
  have hdiffer : ∀ n v, (lax n).outcome.value? = some v → (lax n).outcome.isFaulted = false →
      (strict n).outcome.isFaulted = true →
      ∃ t sound, (lax n).outcome = .success v t sound ∧
        (strict n).outcome = .fault (t.withLine .error "gave up")
          (.ofMessage .assertion "gave up") [] := by
    intro n v hvalue hgiven hfailed
    obtain ⟨ps, last, -, hends⟩ :=
      doWhile_agrees Host.quiet_refusing .blocking c below n "gave up" () (s := s) rfl (0 : Nat)
    rcases hends with ⟨-, -, -, -, ⟨sound, hsuccess⟩, hfailure⟩ | ⟨-, -, -, -, hsame, -⟩
    · rw [hsuccess] at hvalue
      cases hvalue
      exact ⟨last.state, sound, hsuccess, hfailure⟩
    · have hfaulted := congrArg Outcome.isFaulted hsame
      rw [Outcome.isFaulted_map] at hfaulted
      cases hgiven.symm.trans (hfaulted.trans hfailed)
  have hthird : (lax 4).outcome.value? = some (some 3) := by
    rw [hlax]
    decide +kernel
  refine ⟨Host.quiet_refusing, rfl, hthird, ?_, hdiffer 2 (some 1) ?_ ?_ ?_,
    hdiffer (-1) none ?_ ?_ ?_⟩
  · obtain ⟨ps, last, -, hends⟩ :=
      doWhile_agrees Host.quiet_refusing .blocking c below 4 "gave up" () (s := s) rfl (0 : Nat)
    rcases hends with ⟨-, -, -, -, -, hfailure⟩ | ⟨-, -, -, -, hsame, -⟩
    · have hsound : (strict 4).outcome.isFaulted = false := by
        rw [hstrict]
        decide +kernel
      cases hsound.symm.trans (congrArg Outcome.isFaulted hfailure)
    · exact hsame
  all_goals
    simp only [hlax, hstrict]
    decide +kernel

end Flow

end Walkthrough
