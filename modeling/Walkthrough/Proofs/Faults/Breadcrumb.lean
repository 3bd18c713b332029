import Walkthrough.Proofs.Faults.FailFast
import Walkthrough.Proofs.Faults.Recording

/-!
# Breadcrumbs

The path of a failure is the path of scopes to where it was recorded. Labels are added to the open
scopes when a scope is opened, and put in front of the paths of failures when it is left, by
different code; that both agree on every way out of a scope is what is proved here, with one lemma
for each combinator.

Main result: `Flow.breadcrumb_of_composed`. Each failure that a run of a composed flow ends with,
and each member of a composite one, was recorded by a step of the run and is what was recorded, put
into the scopes that were open there: its path is their labels, followed by the path that it carried
then. This needs that no step is started in a faulted state, which holds when the sinks do not throw
(`Flow.failures_of_launched`). `Flow.breadcrumb_of_stopwatch` shows a failure whose path is wrong
because one was.
-/

namespace Walkthrough

variable {H : Host} {k : Kit} {α β : Type} {d : Driver H}

namespace Flow.Traces

/-- Nothing is recorded. -/
theorem pure (a : α) : (Flow.pure a : Flow H α).Traces d :=
  fun _ _ _ w hs _ => .value w (.of_clean rfl hs)

/-- Failures that are given are recorded here, in the scopes of the state. -/
theorem failure (f : Failure) (fs : List Failure) : (Flow.failure f fs : Flow H α).Traces d := by
  intro S env s w hs own
  have hclean : s.Stands S s.scopes := .of_clean rfl hs
  exact .finish w (hclean.addFailures fun g hg => .here (own g (.failed hg)))

/-- What is thrown is recorded by the step that it leaves. -/
theorem throwing (e : Thrown) : (Flow.throwing e : Flow H α).Traces d :=
  fun _ _ _ w hs _ => .raise w hs

theorem write (kind : LogKind) (message : String) :
    (Flow.write kind message : Flow H Unit).Traces d :=
  fun _ _ _ _ hs _ => .announce hs fun w' => .value w' (.of_clean rfl hs)

/-- A failure of the first flow is passed on; one of the second was recorded in the scopes that the
first flow left, which are those of the start. -/
theorem bind {c : Flow H α} {f : α → Act H.World (Flow H β)} (hc : c.Traces d)
    (hf : ∀ a w c' w', f a w = (.ok c', w') → c'.Traces d) : (c.bind f).Traces d := by
  intro S env s w hs own
  refine .step rfl hc fun o w' ho => ?_
  cases o with
  | faulted v t h => exact .finish w' ho
  | success a t h => exact .endWithMade hs ho.scopes (hf a w')

theorem andThen {c : Flow H α} {c' : Flow H β} (hc : c.Traces d) (hc' : c'.Traces d) :
    (c.andThen c').Traces d := by
  refine bind hc fun a w e w' h => ?_
  cases h
  exact hc'

/-- The failure is recorded after its line has been written, in the same scopes. -/
theorem fail (f : Failure) : (Flow.fail f : Flow H α).Traces d :=
  andThen (write .error f.message) (failure f [])

theorem map {c : Flow H α} {f : α → Act H.World β} (hc : c.Traces d) : (c.map f).Traces d := by
  intro S env s w hs own
  refine .step rfl hc fun o w' ho => ?_
  cases o with
  | faulted v t h => exact .finish w' ho
  | success a t h => exact .endWithValue _ hs ho

/-- Both flows fail in the scopes around the alternative, and neither sees the failures of the
other. -/
theorem orElseWith {c : Flow H α} {f : List Failure → Act H.World (Flow H α)} (hc : c.Traces d)
    (hf : ∀ fs w c' w', f fs w = (.ok c', w') → c'.Traces d) : (c.orElseWith f).Traces d := by
  intro S env s w hs own
  refine .step rfl hc fun left w' hleft => ?_
  cases left with
  | success a t h => exact .finish w' hleft
  | faulted v t h =>
    dsimp only
    split
    next e w'' hmade => exact .raise w'' hs
    next c' w'' hmade =>
      refine .step rfl (hf _ _ c' w'' hmade) fun right w₃ hright => ?_
      cases right with
      | success a u h => exact .finish w₃ hright
      | faulted v u h =>
        have hclean : s.Stands S s.scopes := .of_clean rfl hs
        refine .finish w₃ (hclean.addFailures fun g hg => ?_)
        rw [Failure.allParts_append] at hg
        rcases List.mem_append.mp hg with hg | hg
        · exact hleft.placed g hg
        · exact hright.placed g hg

/-- The failures that the function gives are recorded here, in the place of those that it was
given. -/
theorem bimap {c : Flow H α} {onSuccess : α → Act H.World β}
    {onFailure : List Failure → Act H.World (List Failure)} (hc : c.Traces d) :
    (c.bimap onSuccess onFailure).Traces d := by
  intro S env s w hs own
  refine .run hc fun _ ho => ?_
  rcases hinner : (c env s w).history d s with ⟨events, o, w'⟩
  rw [hinner] at ho
  cases o with
  | success a t h => exact .endWithValue _ hs ho
  | faulted v t h =>
    dsimp only
    split
    next e w'' hmapped => exact .raise w'' hs
    next w'' hmapped => exact .finish w'' ho
    next f fs w'' hmapped =>
      have hfaulted : ((c env s w).history d s).outcome.isFaulted = true := by
        rw [hinner]
        rfl
      have hfs : (onFailure ((c env s w).history d s).outcome.failures
          ((c env s w).history d s).world).1 = .ok (f :: fs) := by
        rw [hinner]
        exact congrArg Prod.fst hmapped
      exact .finish w'' (ho.withFailures fun g hg => .here (own g (.mapped hfaulted hfs hg)))

/-- Changing the type of a value leaves the failures alone. -/
theorem retype {c : Flow H α} (f : α → β) (hc : c.Traces d) : (c.retype f).Traces d := by
  intro S env s w hs own
  exact (hc S env s w hs fun g hg => own g (.retyped hg)).map f

theorem getState : (Flow.getState : Flow H H.State).Traces d :=
  fun _ _ _ w hs _ => .value w (.of_clean rfl hs)

theorem liftState (f : H.State → Act H.World α) : (Flow.liftState f).Traces d :=
  fun _ _ _ _ hs _ => .endWithValue _ hs (.of_clean rfl hs)

theorem ask : (Flow.ask : Flow H H.Env).Traces d :=
  fun _ _ _ w hs _ => .value w (.of_clean rfl hs)

/-- Another environment changes no scopes. -/
theorem «local» {c : Flow H α} (f : H.Env → Act H.World H.Env) (hc : c.Traces d) :
    (Flow.local f c).Traces d := by
  intro S env s w hs own
  unfold Flow.local
  split
  · exact .endWith rfl hc
  · exact .raise _ hs

theorem initConfig (configuration : List (String × String)) :
    (Flow.initConfig configuration : Flow H Unit).Traces d :=
  fun _ _ _ w hs _ => .value w (.of_clean rfl hs)

theorem initSettings (settings : Settings H.Sinks) :
    (Flow.initSettings settings : Flow H Unit).Traces d :=
  fun _ _ _ w hs _ => .value w (.of_clean rfl hs)

theorem lift (code : Act H.World (Reply H.World α)) : (Flow.lift code).Traces d :=
  fun _ _ _ _ hs _ => .outside fun r w' _ => .endWithValue (r, w') hs (.of_clean rfl hs)

/-- The scope opens with the label behind the labels that are open, and puts it in front of the
paths when it is left. -/
theorem context {c : Flow H α} (label : String) (hc : c.Traces d) :
    (Flow.context label c).Traces d := by
  intro S env s w hs own
  refine .announce hs fun w' => .run hc fun _ ho => ?_
  exact .update _ (.leave rfl ho)

/-- Muting changes no scopes and no failures. -/
theorem mute {c : Flow H α} (hc : c.Traces d) : (Flow.mute c).Traces d := by
  intro S env s w hs own
  refine .step rfl hc fun o w' ho => .update w' ⟨ho.scopes, ho.placed⟩

/-- A missing key is recorded where it was asked for. -/
theorem config (key : String) : (Flow.config key : Flow H String).Traces d := by
  intro S env s w hs own
  unfold Flow.config
  split
  · exact .value w (.of_clean rfl hs)
  · exact .endWith rfl (fail _)

/-- What a call throws is recorded where the call was made. -/
theorem tryEffect (e : Effect H (Reply H.World α)) (label : Thrown → Act H.World String) :
    (Flow.tryEffect e label).Traces d := by
  intro S env s w hs own
  refine .outside fun r w' _ => ?_
  cases r with
  | ok a => exact .value w' (.of_clean rfl hs)
  | error thrown =>
    dsimp only
    split
    · exact .raise _ hs
    · exact .endWith rfl (fail _)

/-! ### Batches -/

/-- By induction on the items: each is started in the scopes of the batch. -/
theorem sequenceFrom {items : List (Flow H α)} (h : ∀ c ∈ items, c.Traces d)
    {S : List String → Failure → Prop} (env : H.Env) (gathered : List α) {s start : H.State}
    (hs : s.Stands S start.scopes) (w : H.World) :
    (Flow.sequenceFrom env gathered items s w).Traces d S start := by
  induction items generalizing gathered s w with
  | nil => exact .value w hs
  | cons c items ih =>
    obtain ⟨hc, hitems⟩ := List.forall_mem_cons.mp h
    refine .step hs.scopes hc fun o w' ho => ?_
    cases o with
    | faulted v t ht => exact .finish w' ho
    | success a t ht => exact ih hitems (a :: gathered) ho w'

theorem sequence {items : List (Flow H α)} (h : ∀ c ∈ items, c.Traces d) :
    (Flow.sequence items).Traces d :=
  fun _ env _ w hs _ => sequenceFrom h env [] (.of_clean rfl hs) w

/-- The failures that are gathered have their places; only the composite that they are folded into
is new. -/
theorem collectFrom {items : List (Flow H α)} (h : ∀ c ∈ items, c.Traces d)
    {S : List String → Failure → Prop} (env : H.Env) (gathered : List (Option α))
    (failed : List Failure) {s start : H.State} (hs : s.Stands S start.scopes)
    (hfailed : ∀ f ∈ Failure.allParts failed, f.Placed S start.scopes) (w : H.World)
    (own : ∀ fs, ((Flow.collectFrom env gathered failed items s w).history d
        start).outcome.failures = [Failure.collected fs] → S start.scopes (.collected fs)) :
    (Flow.collectFrom env gathered failed items s w).Traces d S start := by
  induction items generalizing gathered failed s w with
  | nil =>
    cases failed with
    | nil => exact .value w hs
    | cons f fs =>
      -- the batch itself records the composite, and its members have their places
      refine .finish w (hs.withFailures fun g hg => ?_)
      rw [Failure.allParts_singleton] at hg
      rcases List.mem_cons.mp hg with rfl | hg
      · exact .here (own (f :: fs) rfl)
      · exact hfailed g hg
  | cons c items ih =>
    obtain ⟨hc, hitems⟩ := List.forall_mem_cons.mp h
    refine .run hc fun _ ho => ?_
    have hplaced := ho.placed
    rw [hs.scopes] at hplaced
    have hgathered : ∀ f ∈ Failure.allParts
        (failed ++ ((c env s w).history d s).outcome.failures), f.Placed S start.scopes := by
      intro f hf
      rw [Failure.allParts_append] at hf
      rcases List.mem_append.mp hf with hf | hf
      · exact hfailed f hf
      · exact hplaced f hf
    have hcleared : (((c env s w).history d s).outcome.state.withFailures []).Stands S
        start.scopes := .of_clean (ho.scopes.trans hs.scopes) rfl
    exact ih hitems _ _ hcleared hgathered _ own

theorem collect {items : List (Flow H α)} (h : ∀ c ∈ items, c.Traces d) :
    (Flow.collect items).Traces d :=
  fun _ env _ w hs own =>
    collectFrom h env [] [] (.of_clean rfl hs) (fun _ hf => absurd hf List.not_mem_nil) w
      fun fs hfs => own (.collected fs) (.folded hfs)

/-! ### Resources and time -/

/-- The failure of a release is recorded behind those of the body. -/
theorem use (resource : β) (release : β → Act H.World (Reply H.World Unit))
    {f : β → Act H.World (Flow H α)} (hf : ∀ w c w', f resource w = (.ok c, w') → c.Traces d) :
    (Flow.use resource release f).Traces d := by
  intro S env s w hs own
  have hbody : (madeOrFailed (f resource w).1).Traces d := by
    rcases hmade : f resource w with ⟨e | c, w'⟩
    · exact failure _ []
    · exact hf w c w' hmade
  refine .run hbody fun _ ho => .outside fun r w' hanswer => ?_
  cases r with
  | ok u => exact .finish w' ho
  | error e =>
    refine .finish w' (ho.addFailures fun g hg => ?_)
    obtain rfl := List.mem_singleton.mp hg
    exact .here (own _ (.unreleased (congrArg Prod.fst hanswer)))

theorem session : (Flow.session : Flow H H.Session).Traces d := by
  intro S env s w hs own
  have hclean : s.Stands S s.scopes := .of_clean rfl hs
  unfold Flow.session
  split
  · exact .value w hclean
  next hnone =>
    refine .finish w (hclean.addFailures fun g hg => ?_)
    obtain rfl := List.mem_singleton.mp hg
    exact .here (own _ (.sessionless hnone))

/-- Giving a session back changes neither scopes nor failures. -/
theorem withSession {c : Flow H α} (handle : H.Session) (hc : c.Traces d) :
    (Flow.withSession handle c).Traces d := by
  intro S env s w hs own
  refine .step rfl hc fun o w' ho => ?_
  have hended : ∀ w'' : H.World,
      (Program.finish (o.update (·.withSession s.session) (by intro t; rfl)) w'').Traces d S s :=
    fun w'' => .update w'' ⟨ho.scopes, ho.placed⟩
  dsimp only
  split
  · refine .outside fun r w'' _ => ?_
    cases r with
    | ok u => exact hended w''
    | error e => exact .effect fun _ w₃ => hended w₃
  · exact hended w'

/-- The flow that is measured has no failures to start with: such a start is what the hypothesis on
the run excludes. -/
theorem stopwatch {c : Flow H α} (hc : c.Traces d) : (Flow.stopwatch c).Traces d := by
  intro S env s w hs own
  refine .step rfl (write .info _) fun started w' hstarted => ?_
  refine .step hstarted.scopes hc fun o w'' ho => ?_
  cases o with
  | faulted v t h => exact .finish w'' ho
  | success a t h =>
    exact .step ho.scopes (write .info _) fun stopped w₃ hstopped => .value w₃ hstopped

theorem pause (interval : Span) : (Flow.pause interval : Flow H Unit).Traces d :=
  fun _ _ _ _ hs _ => .sleep fun _ _ => .endWithValue _ hs (.of_clean rfl hs)

/-! ### Loops -/

/-- The timeout is recorded in the scopes of the wait. -/
theorem giveUp (watch : Watch H α) (timeout elapsed : Rat) (attempts : Nat) (last : α)
    {S : List String → Failure → Prop} (env : H.Env) {s : H.State} (hs : s.failures = [])
    (w : H.World) :
    (Flow.giveUp watch timeout elapsed attempts last env s w).Traces d S s := by
  refine .effect fun _ w' => ?_
  split
  · exact .raise _ hs
  · exact .endWith rfl (fail _)

/-- By induction on the looks that are left: each starts from the state that the wait was started
from. -/
theorem look {c : Flow H α} (hc : c.Traces d) (watch : Watch H α)
    (interval timeout began : Rat) {S : List String → Failure → Prop} (env : H.Env)
    {s : H.State} (hs : s.failures = []) (left done : Nat) (w : H.World) :
    (Flow.look c watch interval timeout began env s left done w).Traces d S s := by
  induction left using Nat.strongRecOn generalizing done w with
  | ind left ih =>
    unfold Flow.look
    refine .step rfl hc fun o w' ho => ?_
    cases o with
    | faulted v t h => exact .finish w' ho
    | success a t h =>
      dsimp only
      split
      · exact .raise _ hs
      · exact .finish _ ho
      · split
        · exact giveUp watch _ _ _ a env hs _
        · cases left with
          | zero => exact .raise _ hs
          | succ left =>
            refine .sleep fun r w'' => ?_
            cases r with
            | error e => exact .raise _ hs
            | ok u => exact ih left (Nat.lt_succ_self left) (done + 1) w''

theorem waitUntil {c : Flow H α} (hc : c.Traces d) (watch : Watch H α)
    (interval wait : Option Span) : (Flow.waitUntil c watch interval wait).Traces d :=
  fun _ env _ w hs _ => look hc watch _ _ _ env hs _ 0 w

/-- A failure that was made a value is recorded anew where it is settled. -/
theorem settle {c : Flow H (Except Failure α)} (hc : c.Traces d) :
    (Flow.settle c).Traces d := by
  intro S env s w hs own
  refine .run hc fun _ ho => ?_
  rcases hinner : (c env s w).history d s with ⟨events, o, w'⟩
  rw [hinner] at ho
  rcases o with ⟨f | a, t, h⟩ | ⟨v, t, h⟩
  · have hfine : ((c env s w).history d s).outcome.isFaulted = false := by
      rw [hinner]
      rfl
    have hvalue : ((c env s w).history d s).outcome.value? = some (.error f) := by
      rw [hinner]
      rfl
    refine .finish w' (ho.addFailures fun g hg => .here (own g ?_))
    rw [Failure.allParts_singleton] at hg
    exact .settled hfine hvalue hg
  · exact .value w' ho
  · exact .finish w' ho

/-- An attempt never fails, so it records nothing. -/
theorem attempt {c : Flow H α} (hc : c.Traces d) : (Flow.attempt c).Traces d := by
  refine orElseWith (map hc) fun fs w c' w' h => ?_
  cases h
  exact pure _

theorem waitUntilSucceeds {c : Flow H α} (hc : c.Traces d) (interval wait : Option Span)
    (label : String) : (Flow.waitUntilSucceeds c interval wait label).Traces d :=
  settle (waitUntil (attempt hc) _ interval wait)

/-- By induction on the repeats that are left: the state of each is that the last one left. -/
theorem repeatWhile {c : Flow H α} (hc : c.Traces d) (continueIf : α → Act H.World Bool)
    {S : List String → Failure → Prop} (env : H.Env) (left : Nat) (value : Option α)
    {s start : H.State} (hstart : start.failures = []) (hs : s.Stands S start.scopes)
    (w : H.World) :
    (Flow.repeatWhile c continueIf env left value s w).Traces d S start := by
  induction left generalizing value s w with
  | zero => exact .value w hs
  | succ left ih =>
    refine .step hs.scopes hc fun o w' ho => ?_
    cases o with
    | faulted v t h => exact .finish w' ho
    | success a t h =>
      dsimp only
      split
      · exact .raise _ hstart
      · exact .value _ ho
      · exact ih (some a) ho _

theorem doWhile {c : Flow H α} (hc : c.Traces d) (continueIf : α → Act H.World Bool)
    (maxRepeats : Int) : (Flow.doWhile c continueIf maxRepeats).Traces d :=
  fun _ env _ w hs _ => repeatWhile hc continueIf env _ none hs (.of_clean rfl hs) w

/-- By induction on the attempts that are left, the failure of the last among them. -/
theorem repeatOrFail {c : Flow H α} (hc : c.Traces d) (continueIf : α → Act H.World Bool)
    (again : Option Rat) (message : String) {S : List String → Failure → Prop} (env : H.Env)
    (left : Nat) {s start : H.State} (hstart : start.failures = [])
    (hs : s.Stands S start.scopes) (w : H.World) :
    (Flow.repeatOrFail c continueIf again message env left s w).Traces d S start := by
  induction left generalizing s w with
  | zero => exact .endWith hs.scopes (fail _)
  | succ left ih =>
    rw [Flow.repeatOrFail]
    refine .step hs.scopes hc fun o w' ho => ?_
    cases o with
    | faulted v t h => exact .finish w' ho
    | success a t h =>
      dsimp only
      split
      · exact .raise _ hstart
      · exact .finish _ ho
      · split
        · exact .endWith ho.scopes (fail _)
        · exact ih ho _
        · refine .sleep fun r w'' => ?_
          cases r with
          | error e => exact .raise _ hstart
          | ok u => exact ih ho _

theorem doWhileOrFail {c : Flow H α} (hc : c.Traces d) (continueIf : α → Act H.World Bool)
    (maxAttempts : Int) (interval : Option Span) (message : String) :
    (Flow.doWhileOrFail c continueIf maxAttempts interval message).Traces d :=
  fun _ env _ w hs _ => repeatOrFail hc continueIf _ message env _ hs (.of_clean rfl hs) w

/-! ### Lists of steps -/

/-- Where the body stands in the end decides what it records itself. -/
theorem followBody {S : List String → Failure → Prop} (env : H.Env) {b : Body H α}
    (h : ∀ {γ : Type} (c : Flow H γ), b.Offers c → c.Traces d) {s start : H.State}
    (hstart : start.failures = []) (hs : s.Stands S start.scopes)
    (broke : ∀ e w, b.last d env s = .threw e w →
      ∀ g ∈ (Failure.ofThrown e none).parts, S start.scopes g)
    (strayed : ∀ shown w close, b.last d env s = .strays shown w close → (close w).1 = .ok () →
      S start.scopes
        (.ofMessage .capability ("flow yielded " ++ shown ++ ", expected a computation"))) :
    (Flow.followBody env b s).Traces d S start := by
  induction b generalizing s with
  | returned a w => exact .value w hs
  | threw e w =>
    refine .finish w (hs.addFailures fun g hg => ?_)
    rw [Failure.allParts_singleton] at hg
    exact .here (broke e w rfl g hg)
  | strays shown w close =>
    refine .closeWith hstart fun hclosed => hs.addFailures fun g hg => ?_
    obtain rfl := List.mem_singleton.mp hg
    exact .here (strayed shown w close rfl hclosed)
  | handsOut c w close resume ih =>
    rw [Flow.followBody]
    refine .run (h c (.here c w close resume)) fun _ ho => ?_
    rw [hs.scopes] at ho
    -- the body that is resumed ends where this one does
    unfold Body.last at broke strayed
    rcases hinner : (c env s w).history d s with ⟨events, o, w'⟩
    rw [hinner] at ho broke strayed
    cases o with
    | faulted v t ht => exact .closeWith hstart fun _ => ho
    | success a t ht =>
      exact ih a w' (fun c' hc' => h c' (.later a w' hc')) ho broke strayed

/-- The code of a flow makes a value, a flow or a body, and each keeps the paths of its failures. -/
theorem ofRecipe {code : Act H.World (Recipe H α)}
    (hflow : ∀ w c w', code w = (.ok (.flow c), w') → c.Traces d)
    (hbody : ∀ w b w', code w = (.ok (.body b), w') →
      ∀ {γ : Type} (c : Flow H γ), (b w').Offers c → c.Traces d) :
    (Flow.ofRecipe code).Traces d := by
  intro S env s w hs own
  unfold Flow.ofRecipe
  split
  next e w' hcode => exact .raise w' hs
  next a w' hcode => exact .value w' (.of_clean rfl hs)
  next c w' hcode => exact .endWith rfl (hflow w c w' hcode)
  next b w' hcode =>
    refine followBody env (hbody w b w' hcode) hs (.of_clean rfl hs) ?_ ?_
    · intro e w'' hlast g hg
      exact own g (.broke hcode hlast hg)
    · intro shown w'' close hlast hclosed
      exact own _ (.strayed hcode hlast hclosed)

end Flow.Traces

/-! ## Composed flows -/

namespace Flow

/-- By induction on how the flow is composed, with one case for each combinator. -/
theorem traces_of_composed (keeping : k.replacing = false) {c : Flow H α} (hc : c.Composed k) :
    c.Traces d := by
  induction hc with
  | pure a => exact .pure a
  | failure f fs => exact .failure f fs
  | throwing e => exact .throwing e
  | bind hc hf ih ihf => exact .bind ih ihf
  | map f hc ih => exact .map ih
  | orElseWith allowed hc hf ih ihf => exact .orElseWith ih ihf
  | bimap onSuccess onFailure hc ih => exact .bimap ih
  | retype f hc ih => exact .retype f ih
  | getState allowed => exact .getState
  | liftState allowed f => exact .liftState f
  | putState allowed t => exact absurd (keeping.symm.trans allowed) Bool.false_ne_true
  | modifyState allowed f => exact absurd (keeping.symm.trans allowed) Bool.false_ne_true
  | ask => exact .ask
  | «local» f hc ih => exact .local f ih
  | initConfig configuration => exact .initConfig configuration
  | initSettings settings => exact .initSettings settings
  | defaultWait => exact .liftState _
  | defaultInterval => exact .liftState _
  | lift code => exact .lift code
  | write kind message => exact .write kind message
  | context label hc ih => exact .context label ih
  | mute allowed hc ih => exact .mute ih
  | config key => exact .config key
  | tryEffect e label => exact .tryEffect e label
  | sequence h ih => exact .sequence ih
  | collect h ih => exact .collect ih
  | use resource release hf ih => exact .use resource release ih
  | session => exact .session
  | withSession handle hc ih => exact .withSession handle ih
  | stopwatch hc ih => exact .stopwatch ih
  | pause interval => exact .pause interval
  | waitUntil allowed hc watch interval wait ih => exact .waitUntil ih watch interval wait
  | waitUntilSucceeds _ _ hc interval wait label ih =>
    exact .waitUntilSucceeds ih interval wait label
  | doWhile hc continueIf maxRepeats ih => exact .doWhile ih continueIf maxRepeats
  | doWhileOrFail hc continueIf maxAttempts interval message ih =>
    exact .doWhileOrFail ih continueIf maxAttempts interval message
  | ofRecipe hflow hbody ihflow ihbody => exact .ofRecipe ihflow ihbody

/-- Unless a step was started in a faulted state, each failure that a new run of a composed flow
ends with, and each member of a composite one at any depth, was recorded by a step of the run. It is
the failure that was recorded, put into the scopes that were open there: it has kept its kind and
cause, and its path is the labels of those scopes, outermost first, followed by the path that it
carried when it was recorded. -/
theorem breadcrumb_of_composed (keeping : k.replacing = false) {c : Flow H α} (hc : c.Composed k)
    (d : Driver H) (env : H.Env) (session : Option H.Session) (settings : Settings H.Sinks)
    (w : H.World)
    (clean : ∀ t, Event.started t ∈
      (c.history d env (H.initialState session settings) w).events → t.failures = [])
    {f : Failure} (hf : f ∈ Failure.allParts
      (c.history d env (H.initialState session settings) w).outcome.failures) :
    ∃ x ∈ c.steps d env (H.initialState session settings) w,
      ∃ g, x.flow.Records d x.env x.state x.world g ∧ f = g.inScopes x.state.scopes ∧
        f.breadcrumb = x.state.scopes ++ g.breadcrumb ∧
        f.kindName = g.kindName ∧ f.cause = g.cause := by
  rw [history_eq] at clean hf
  let S : List String → Failure → Prop := fun labels g =>
    ∃ x ∈ c.steps d env (H.initialState session settings) w,
      x.flow.Records d x.env x.state x.world g ∧ x.state.scopes = labels
  have own : ∀ g, c.Records d env (H.initialState session settings) w g →
      S (H.initialState session settings).scopes g :=
    fun g hg => ⟨_, List.mem_cons_self, hg, rfl⟩
  have covered : (c env (H.initialState session settings) w).Covered d S
      (H.initialState session settings) :=
    ⟨clean, fun x hx g hg => ⟨x, List.mem_cons_of_mem _ hx, hg, rfl⟩,
      fun e he g hg => own g (.thrown he hg)⟩
  have hends := traces_of_composed keeping hc S env _ w rfl own covered
  obtain ⟨inner, g, ⟨x, hx, hg, hscopes⟩, rfl⟩ := hends.placed f hf
  -- a new run has no open scopes, so the scopes that were left since are all there were
  have hinner : x.state.scopes = inner := hscopes
  refine ⟨x, hx, g, hg, by rw [hinner], ?_, Failure.kindName_inScopes inner g,
    Failure.cause_inScopes inner g⟩
  rw [Failure.breadcrumb_inScopes, hinner]

/-- A failure with a path of its own, inside a scope inside a batch inside another scope. -/
theorem breadcrumb_of_composed_batch :
    let kit : Kit := { replacing := false }
    let broken : Failure := .single .assertion "broken" ["own"] none
    let seen : Failure := .single .assertion "broken" ["shop", "cart", "own"] none
    let c : Flow Host.refusing (List (Option Unit)) :=
      context "shop" (collect [context "cart" (failure broken []), pure ()])
    let run := c.history .blocking () (Host.refusing.initialState none { sinks := () }) (0 : Nat)
    kit.replacing = false ∧ c.Composed kit ∧
      (∀ t, Event.started t ∈ run.events → t.failures = []) ∧
      run.outcome.failures = [.composite [seen] ["shop"] none] ∧
      seen ∈ Failure.allParts run.outcome.failures ∧
      ∃ x ∈ c.steps .blocking () (Host.refusing.initialState none { sinks := () }) (0 : Nat),
        ∃ g, x.flow.Records .blocking x.env x.state x.world g ∧ seen = g.inScopes x.state.scopes ∧
          seen.breadcrumb = x.state.scopes ++ g.breadcrumb := by
  intro kit broken seen c run
  have hc : c.Composed kit := by
    refine .context _ (.collect ?_)
    simp only [List.forall_mem_cons]
    exact ⟨.context _ (.failure broken []), .pure (), fun c hc => nomatch hc⟩
  have hrun : run = (c () (Host.refusing.initialState none { sinks := () }) (0 : Nat)).history
      .blocking (Host.refusing.initialState none { sinks := () }) := history_eq ..
  have hclean : ∀ t, Event.started t ∈ run.events → t.failures = [] := by
    intro t ht
    rw [hrun] at ht
    exact failures_of_launched Host.quiet_refusing hc .blocking () rfl (0 : Nat) ht
  have hfailures : run.outcome.failures = [.composite [seen] ["shop"] none] := by
    rw [hrun]
    rfl
  have hseen : seen ∈ Failure.allParts run.outcome.failures := by
    rw [hfailures]
    exact List.mem_cons_of_mem _ List.mem_cons_self
  obtain ⟨x, hx, g, hg, hplaced, hpath, -⟩ :=
    breadcrumb_of_composed rfl hc .blocking () none { sinks := () } (0 : Nat) hclean hseen
  exact ⟨rfl, hc, hclean, hfailures, hseen, x, hx, g, hg, hplaced, hpath⟩

/-- A host like `Host.refusing` whose logging action throws when a stopwatch is started. -/
abbrev unstartable : Host :=
  { Host.refusing with
    logLine := fun _ message _ =>
      if message = "Start stopwatch" then .throw (.fault ⟨"RuntimeError", "sink broke"⟩)
      else .ok () }

/-- The line of a stopwatch is written with no scope open. When it cannot be written, the flow that
is measured is run from the state with that failure, and a scope in it gives the failure its label,
although the failure was not recorded inside. -/
theorem breadcrumb_of_stopwatch :
    let c : Flow unstartable (Unit × Duration) := stopwatch (context "checkout" (pure ()))
    let broke : Fault := ⟨"RuntimeError", "sink broke"⟩
    let g : Failure := .single .capability "sink broke" [] (some broke)
    let seen : Failure := .single .capability "sink broke" ["checkout"] (some broke)
    c.Composed { replacing := false } ∧
      (∃ x ∈ c.steps .blocking () (unstartable.initialState none { sinks := () }) (0 : Nat),
        x.flow.Records .blocking x.env x.state x.world g ∧
          x.state.scopes ++ g.breadcrumb = []) ∧
      (c.history .blocking () (unstartable.initialState none { sinks := () })
        (0 : Nat)).outcome.failures = [seen] ∧
      seen.breadcrumb = ["checkout"] := by
  intro c broke g seen
  have hfailures : (c.history .blocking () (unstartable.initialState none { sinks := () })
      (0 : Nat)).outcome.failures = [seen] := by
    rw [history_eq]
    rfl
  have hg : (info "Start stopwatch" : Flow unstartable Unit).Records .blocking ()
      (unstartable.initialState none { sinks := () }) (0 : Nat) g :=
    .thrown (e := .fault broke) rfl List.mem_cons_self
  refine ⟨.stopwatch (.context _ (.pure ())), ?_, hfailures, rfl⟩
  exact ⟨_, List.mem_cons_of_mem _ List.mem_cons_self, hg, rfl⟩

end Flow

end Walkthrough
