import Mathlib.Algebra.Order.Ring.Rat
import Mathlib.Tactic.Linarith
import Walkthrough.Flow.Batch
import Walkthrough.Flow.Resource
import Walkthrough.Flow.Retry
import Walkthrough.Proofs.Run.Sighting

/-!
# How long runs take

On a host where only pauses take time (`Host.Instant`) a flow is timed by what it runs.
`Flow.Takes d T c s` says that a run of the flow from the state `s` ends no earlier than it starts
and at most `T` seconds later, and `Flow.Instant` that it takes no time from any state.

There is one rule for each kind of request (`Program.EndsWithin`), and one for each combinator: what
goes on from a flow and takes no time itself takes as long as the flow.
-/

namespace Walkthrough

variable {H : Host} {α β : Type} {d : Driver H}

/-- The clock stands still while a session answers, while its answer is awaited, and while lines,
records and complaints are taken. -/
structure Host.Instant (H : Host) (d : Driver H) : Prop where
  call : ∀ {β : Type} (session : H.Session) (command : Command H.Element H.Datum β) w,
    H.now (d.answer (H.call session command) w).2 = H.now w
  logLine : ∀ sinks message indent w, H.now (H.logLine sinks message indent w).2 = H.now w
  publish : ∀ sinks record w, H.now (H.publish sinks record w).2 = H.now w
  complain : ∀ severity message w, H.now (H.complain severity message w) = H.now w

/-- The clock stands between two readings. -/
def Host.Between (H : Host) (earliest latest : Rat) (w : H.World) : Prop :=
  earliest ≤ H.now w ∧ H.now w ≤ latest

namespace Host.Between

variable {earliest latest : Rat} {w w' : H.World}

/-- A world is where its own clock says. -/
theorem now (w : H.World) : H.Between (H.now w) (H.now w) w := ⟨le_refl _, le_refl _⟩

/-- What takes no time leaves the clock between the readings. -/
theorem of_now_eq (h : H.Between earliest latest w) (heq : H.now w' = H.now w) :
    H.Between earliest latest w' := by
  unfold Between
  rwa [heq]

/-- A later bound is a weaker one. -/
theorem mono (h : H.Between earliest latest w) {later : Rat} (hlater : latest ≤ later) :
    H.Between earliest later w := ⟨h.1, h.2.trans hlater⟩

end Host.Between

/-! ## Programs -/

/-- The clock stands between two readings when a run of the program ends. -/
def Program.EndsWithin (d : Driver H) (p : Program H α) (earliest latest : Rat) : Prop :=
  ∀ start, H.Between earliest latest (p.history d start).world

namespace Program.EndsWithin

variable {earliest middle latest : Rat} {w : H.World}

/-- A program that ends takes no more time. -/
theorem finish {o : Outcome H α} (hw : H.Between earliest latest w) :
    (Program.finish o w).EndsWithin d earliest latest := fun _ => hw

/-- Throwing takes no time. -/
theorem raise {e : Thrown} (hw : H.Between earliest latest w) :
    (Program.raise e w : Program H α).EndsWithin d earliest latest := fun _ => hw

/-- The program goes on from where the step that it runs has ended. -/
theorem run {c : Flow H β} {env : H.Env} {s : H.State}
    {next : Outcome H β → H.World → Program H α} (hc : (c env s w).EndsWithin d earliest middle)
    (hnext : ∀ o w', H.Between earliest middle w' →
      (next o w').EndsWithin d earliest latest) :
    (Program.run c env s w next).EndsWithin d earliest latest :=
  fun start => hnext _ _ (hc s) start

/-- The step that takes the place of another one takes the time of both. -/
theorem endWith {c : Flow H α} {env : H.Env} {s : H.State}
    (hc : (c env s w).EndsWithin d earliest latest) :
    (c.endWith env s w).EndsWithin d earliest latest :=
  .run hc fun _ _ hw' => .finish hw'

/-- An effect that the clock does not notice leaves the bounds as they are. -/
theorem effect {e : Effect H β} {next : Except Thrown β → H.World → Program H α}
    (hw : H.Between earliest middle w) (he : H.now (H.perform e w).2 = H.now w)
    (hnext : ∀ r w', H.Between earliest middle w' →
      (next r w').EndsWithin d earliest latest) :
    (Program.effect e w next).EndsWithin d earliest latest :=
  fun start => hnext _ _ (hw.of_now_eq he) start

/-- A call from outside whose answer is waited for. -/
theorem outside {e : Effect H (Reply H.World β)} {next : Except Thrown β → H.World → Program H α}
    (hw : H.Between earliest middle w) (he : H.now (d.answer (H.perform e) w).2 = H.now w)
    (hnext : ∀ r w', H.Between earliest middle w' →
      (next r w').EndsWithin d earliest latest) :
    (Program.outside e w next).EndsWithin d earliest latest := by
  intro start
  obtain ⟨-, hworld, -⟩ :=
    Program.settle_resolve d (H.perform e w).1 (H.perform e w).2 next start
  have hrest := hnext (d.answer (H.perform e) w).1 (d.answer (H.perform e) w).2
    (hw.of_now_eq he) start
  rwa [Driver.answer, ← hworld] at hrest

/-- Announcing a line takes no time where sinks take none. -/
theorem announce (instant : H.Instant d) {s : H.State} {node : Log}
    {next : H.World → Program H α} (hw : H.Between earliest latest w)
    (hnext : ∀ w', H.Between earliest latest w' → (next w').EndsWithin d earliest latest) :
    (Flow.announce s node w next).EndsWithin d earliest latest := by
  unfold Flow.announce
  split
  · exact hnext w hw
  · refine .effect hw (instant.logLine ..) fun r w' hw' => ?_
    cases r with
    | error e => exact .raise hw'
    | ok _ =>
      refine .effect hw' (instant.publish ..) fun r w'' hw'' => ?_
      cases r with
      | error e => exact .raise hw''
      | ok _ => exact hnext w'' hw''

/-- Calling a function takes the time that the function takes. -/
theorem endWithValue {given : Except Thrown α × H.World} {s : H.State}
    (hw : H.Between earliest latest given.2) :
    (Flow.endWithValue given s).EndsWithin d earliest latest := by
  rcases given with ⟨e | a, w⟩
  · exact .raise hw
  · exact .finish hw

end Program.EndsWithin

/-! ## Flows -/

namespace Flow

/-- From the state the flow takes no more than `T` seconds, and never less than none. -/
def Takes (d : Driver H) (T : Rat) (c : Flow H α) (s : H.State) : Prop :=
  ∀ env w, (c env s w).EndsWithin d (H.now w) (H.now w + T)

/-- The flow takes no time. -/
def Instant (d : Driver H) (c : Flow H α) : Prop := ∀ s, c.Takes d 0 s

end Flow

namespace Act

/-- Changing the value that code gives leaves the world as it is. -/
theorem world_map {World : Type} {γ δ : Type _} (f : γ → δ) (a : Act World γ) (w : World) :
    (a.map f w).2 = (a w).2 := by
  unfold map andThen
  rcases a w with ⟨e | b, w'⟩
  · rfl
  · rfl

/-- The code takes no time, and neither does the flow that it makes, if it makes one. -/
structure MakesInstant (d : Driver H) (made : Act H.World (Flow H α)) : Prop where
  now : ∀ w, H.now (made w).2 = H.now w
  flow : ∀ w c, (made w).1 = .ok c → c.Instant d

namespace MakesInstant

/-- The clock stands still while the code throws or makes a flow. -/
theorem gives_or_throws {made : Act H.World (Flow H α)} (h : made.MakesInstant d)
    {earliest latest : Rat} {w : H.World} (hw : H.Between earliest latest w) :
    (∃ c v, made w = (.ok c, v) ∧ c.Instant d ∧ H.Between earliest latest v) ∨
      ∃ e v, made w = (.error e, v) ∧ H.Between earliest latest v := by
  have hnow := hw.of_now_eq (h.now w)
  rcases hmade : made w with ⟨e | c, v⟩
  · rw [hmade] at hnow
    exact .inr ⟨e, v, rfl, hnow⟩
  · rw [hmade] at hnow
    exact .inl ⟨c, v, rfl, h.flow w c (congrArg Prod.fst hmade), hnow⟩

theorem ok {c : Flow H α} (hc : c.Instant d) : (Act.ok c : Act H.World (Flow H α)).MakesInstant d :=
  ⟨fun _ => rfl, fun _ _ h => Except.ok.inj h ▸ hc⟩

theorem map {made : Act H.World (Flow H α)} (h : made.MakesInstant d) {f : Flow H α → Flow H β}
    (hf : ∀ c, c.Instant d → (f c).Instant d) : (made.map f).MakesInstant d := by
  refine ⟨fun w => (congrArg H.now (world_map f made w)).trans (h.now w), fun w c' hc' => ?_⟩
  obtain ⟨c, hc, rfl⟩ := map_eq_ok (Prod.ext hc' rfl)
  exact hf c (h.flow w c (congrArg Prod.fst hc))

end MakesInstant

end Act

namespace Flow

variable {T : Rat} {s : H.State}

/-- A flow that is entered between two readings leaves by the later one and its own time. -/
theorem Takes.endsWithin {c : Flow H α} (hc : c.Takes d T s) {earliest latest : Rat}
    {w : H.World} (hw : H.Between earliest latest w) (env : H.Env) :
    (c env s w).EndsWithin d earliest (latest + T) :=
  fun start => ⟨hw.1.trans (hc env w start).1, (hc env w start).2.trans (by linarith [hw.2])⟩

/-- A flow that takes some time takes any longer time. -/
theorem Takes.mono {c : Flow H α} (hc : c.Takes d T s) {T' : Rat} (h : T ≤ T') :
    c.Takes d T' s :=
  fun env w start => (hc env w start).mono (by linarith)

/-- What is bounded along the program is bounded along the history. -/
theorem Takes.history {c : Flow H α} (hc : c.Takes d T s) (env : H.Env) (w : H.World) :
    H.Between (H.now w) (H.now w + T) (c.history d env s w).world := by
  rw [history_eq]
  exact hc env w s

/-- What takes no time may go on anywhere. -/
theorem Instant.endsWithin {c : Flow H α} (hc : c.Instant d) {earliest latest : Rat}
    {w : H.World} (hw : H.Between earliest latest w) (env : H.Env) (s : H.State) :
    (c env s w).EndsWithin d earliest latest := by
  have hlatest := (hc s).endsWithin hw env
  rwa [add_zero] at hlatest

/-- To be instant is to leave the clock as it was found, from every state. -/
theorem instant_iff {c : Flow H α} :
    c.Instant d ↔ ∀ env s w, (c env s w).EndsWithin d (H.now w) (H.now w) := by
  unfold Instant Takes
  simp only [add_zero]
  exact forall_comm

/-! ### Flows that take no time -/

namespace Instant

/-- A value is there at once. -/
theorem pure (a : α) : (Flow.pure a : Flow H α).Instant d :=
  instant_iff.mpr fun _ _ w => .finish (.now w)

/-- So is a failure. -/
theorem failure (f : Failure) (fs : List Failure) : (Flow.failure f fs : Flow H α).Instant d :=
  instant_iff.mpr fun _ _ w => .finish (.now w)

theorem session : (Flow.session : Flow H H.Session).Instant d := by
  refine instant_iff.mpr fun env s w => ?_
  unfold Flow.session
  split
  · exact .finish (.now w)
  · exact .finish (.now w)

/-- A line takes no time where the sinks take none. -/
theorem write (instant : H.Instant d) (kind : LogKind) (message : String) :
    (Flow.write kind message : Flow H Unit).Instant d :=
  instant_iff.mpr fun _ _ w => .announce instant (.now w) fun _ hw => .finish hw

end Instant

/-! ### What goes on from a flow -/

namespace Takes

variable {c : Flow H α}

/-- The time of `bind` is that of its first flow when the one that follows is instant. -/
theorem bind (hc : c.Takes d T s) {f : α → Act H.World (Flow H β)}
    (hf : ∀ a, (f a).MakesInstant d) : (c.bind f).Takes d T s := by
  refine fun env w => .run (hc env w) fun o w' hw' => ?_
  cases o with
  | faulted v t h => exact .finish hw'
  | success a t h =>
    dsimp only
    rcases (hf a).gives_or_throws hw' with ⟨c', v, hmade, hc', hv⟩ | ⟨e, v, hmade, hv⟩
    · rw [hmade]
      exact .endWith (hc'.endsWithin hv env t)
    · rw [hmade]
      exact .raise hv

theorem andThen (hc : c.Takes d T s) {c' : Flow H β} (hc' : c'.Instant d) :
    (c.andThen c').Takes d T s :=
  hc.bind fun _ => .ok hc'

theorem map (hc : c.Takes d T s) {f : α → Act H.World β}
    (hf : ∀ a w, H.now (f a w).2 = H.now w) : (c.map f).Takes d T s := by
  refine fun env w => .run (hc env w) fun o w' hw' => ?_
  cases o with
  | faulted v t h => exact .finish hw'
  | success a t h => exact .endWithValue (hw'.of_now_eq (hf a w'))

/-- The time of an alternative counts only when it is not instant. -/
theorem orElseWith (hc : c.Takes d T s) {f : List Failure → Act H.World (Flow H α)}
    (hf : ∀ fs, (f fs).MakesInstant d) : (c.orElseWith f).Takes d T s := by
  refine fun env w => .run (hc env w) fun left w' hw' => ?_
  cases left with
  | success a t h => exact .finish hw'
  | faulted v t h =>
    dsimp only
    rcases (hf t.failures).gives_or_throws hw' with ⟨c', v, hmade, hc', hv⟩ | ⟨e, v, hmade, hv⟩
    · rw [hmade]
      refine .run (hc'.endsWithin hv env s) fun right w'' hw'' => ?_
      cases right with
      | success a u h => exact .finish hw''
      | faulted b u h => exact .finish hw''
    · rw [hmade]
      exact .raise hv

/-- Turning a failure into a value takes no time of its own. -/
theorem attempt (hc : c.Takes d T s) : (Flow.attempt c).Takes d T s :=
  (hc.map fun _ _ => rfl).orElseWith fun _ => .ok (.pure _)

theorem settle {c : Flow H (Except Failure α)} (hc : c.Takes d T s) :
    (Flow.settle c).Takes d T s := by
  refine fun env w => .run (hc env w) fun o w' hw' => ?_
  rcases o with ⟨f | a, t, sound⟩ | ⟨v, t, unsound⟩
  · exact .finish hw'
  · exact .finish hw'
  · exact .finish hw'

end Takes

namespace Instant

/-- Writing the line of a failure and failing take no time where the sinks take none. -/
theorem fail (instant : H.Instant d) (f : Failure) : (Flow.fail f : Flow H α).Instant d :=
  fun s => (write instant .error f.message s).andThen (failure f [])

/-- An outside call takes its own time only; the line that says what it threw takes none. -/
theorem tryEffect (instant : H.Instant d) {e : Effect H (Reply H.World α)}
    (he : ∀ w, H.now (d.answer (H.perform e) w).2 = H.now w) (label : String) :
    (Flow.tryEffect e fun _ => .ok label).Instant d := by
  refine instant_iff.mpr fun env s w => .outside (.now w) (he w) fun r w' hw' => ?_
  cases r with
  | ok a => exact .finish hw'
  | error thrown => exact .endWith ((fail instant _).endsWithin hw' env s)

/-- Asking an instant session takes no time. -/
theorem callSession (instant : H.Instant d) (label : String)
    (command : Command H.Element H.Datum α) : (Flow.callSession label command).Instant d :=
  fun s => (session s).bind fun handle =>
    .ok (tryEffect instant (e := .call handle command) (instant.call handle command) label)

/-- Instant items make an instant batch, by induction on the items. -/
theorem sequence {items : List (Flow H α)} (h : ∀ c ∈ items, c.Instant d) :
    (Flow.sequence items).Instant d := by
  have hfrom : ∀ env gathered s earliest latest w, H.Between earliest latest w →
      (Flow.sequenceFrom env gathered items s w).EndsWithin d earliest latest := by
    intro env gathered s earliest latest w hw
    induction items generalizing gathered s w with
    | nil => exact .finish hw
    | cons c items ih =>
      obtain ⟨hc, hitems⟩ := List.forall_mem_cons.mp h
      refine .run (hc.endsWithin hw env s) fun o w' hw' => ?_
      cases o with
      | faulted v t ht => exact .finish hw'
      | success a t ht => exact ih hitems (a :: gathered) t w' hw'
  exact instant_iff.mpr fun env s w => hfrom env [] s _ _ w (.now w)

end Instant

end Flow

end Walkthrough
