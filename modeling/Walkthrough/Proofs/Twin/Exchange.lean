import Mathlib.Tactic.Choose
import Walkthrough.Proofs.Twin.Basic

/-!
# Other twins of a flow

A flow that is built from the combinators of the library has a twin, and whoever has one has many.
Whatever sessions are put behind the handles, and whatever the code that leaves the run is exchanged
for, as long as all of it can be exchanged: there is a twin of that kind (`Flow.Built.exists_twin`).
So what holds of all twins of a flow is never said of none.

The functions that a flow is built from make flows which have twins, one by one. A function of the
new twin makes one of those each time that it is called (`Alike.exists_right`).
-/

namespace Walkthrough

universe u v x

variable {H : Host} {calls calls' : H.Caller} {swaps swaps' : H.Exchange} {α : Type}

/-- When each value that belongs to another one also belongs to one of a new kind, so does what is
given by code. -/
theorem Alike.exists_right {World : Type} {γ : Type u} {γ₁ : Type v} {γ' : Type x}
    {R : γ → γ₁ → Prop} {S : γ → γ' → Prop} {given : Except Thrown γ × World}
    {given₁ : Except Thrown γ₁ × World} (h : Alike R given given₁)
    (hR : ∀ a a₁, R a a₁ → ∃ a', S a a') : ∃ given', Alike S given given' := by
  cases h with
  | threw e w => exact ⟨_, .threw e w⟩
  | gave ha w =>
    obtain ⟨a', ha'⟩ := hR _ _ ha
    exact ⟨_, .gave ha' w⟩

/-- By induction on how the bodies are alike: the new body hands out the new flows. -/
theorem Body.Alike.exists_right {R : Flow.Pairing H (H.answeringWith calls)}
    {S : Flow.Pairing H (H.answeringWith calls')} {b : Body H α}
    {b₁ : Body (H.answeringWith calls) α} (h : Body.Alike R b b₁)
    (hR : ∀ {β : Type} (c : Flow H β) c₁, R β c c₁ → ∃ c', S β c c') :
    ∃ b', Body.Alike S b b' := by
  induction h with
  | returned a w => exact ⟨_, .returned a w⟩
  | threw e w => exact ⟨_, .threw e w⟩
  | strays shown w close => exact ⟨_, .strays shown w close⟩
  | handsOut hc w close hresume ih =>
    obtain ⟨c', hc'⟩ := hR _ _ hc
    choose resume' hresume' using ih
    exact ⟨_, .handsOut hc' w close hresume'⟩

theorem Recipe.Alike.exists_right {R : Flow.Pairing H (H.answeringWith calls)}
    {S : Flow.Pairing H (H.answeringWith calls')} {r : Recipe H α}
    {r₁ : Recipe (H.answeringWith calls) α} (h : Recipe.Alike R r r₁)
    (hR : ∀ {β : Type} (c : Flow H β) c₁, R β c c₁ → ∃ c', S β c c') :
    ∃ r', Recipe.Alike S r r' := by
  cases h with
  | value a => exact ⟨_, .value a⟩
  | flow hc =>
    obtain ⟨c', hc'⟩ := hR _ _ hc
    exact ⟨_, .flow hc'⟩
  | body hb =>
    have hbodies := fun w => (hb w).exists_right hR
    choose b' hb' using hbodies
    exact ⟨_, .body hb'⟩

namespace Flow

/-- The flow is built from the combinators of the library, so that it has a twin. -/
def Built (c : Flow H α) : Prop :=
  ∃ (calls : H.Caller) (swaps : H.Exchange) (c' : Flow (H.answeringWith calls) α),
    Twin calls swaps c c'

/-- The items of a batch, each with a new partner. -/
theorem exists_items {items : List (Flow H α × Flow (H.answeringWith calls) α)}
    {S : Pairing H (H.answeringWith calls')} (h : ∀ item ∈ items, ∃ c', S α item.1 c') :
    ∃ items' : List (Flow H α × Flow (H.answeringWith calls') α),
      items'.map Prod.fst = items.map Prod.fst ∧ ∀ item ∈ items', S α item.1 item.2 := by
  induction items with
  | nil => exact ⟨[], rfl, fun item hitem => nomatch hitem⟩
  | cons item items ih =>
    obtain ⟨⟨c', hc'⟩, hitems⟩ := List.forall_mem_cons.mp h
    obtain ⟨items', hfirst, hitems'⟩ := ih hitems
    refine ⟨(item.1, c') :: items', ?_, List.forall_mem_cons.mpr ⟨hc', hitems'⟩⟩
    rw [List.map_cons, List.map_cons, hfirst]

/-- By induction on how the first twin is built. -/
theorem Twin.exists_twin
    {c : Flow H α} {c₁ : Flow (H.answeringWith calls) α} (h : Twin calls swaps c c₁)
    (total : ∀ {β : Type} (code : Act H.World (Reply H.World β)), ∃ code', swaps' β code code') :
    ∃ c', Twin calls' swaps' c c' := by
  induction h with
  | pure a => exact ⟨_, .pure a⟩
  | failure f fs => exact ⟨_, .failure f fs⟩
  | throwing e => exact ⟨_, .throwing e⟩
  | bind hR hc hf ihR ihc =>
    obtain ⟨c', hc'⟩ := ihc
    have hmade := fun a w => (hf a w).exists_right fun d d₁ => ihR d d₁
    choose f' hf' using hmade
    exact ⟨_, .bind (fun _ _ h => h) hc' hf'⟩
  | map f hc ihc =>
    obtain ⟨c', hc'⟩ := ihc
    exact ⟨_, .map f hc'⟩
  | orElseWith hR hc hf ihR ihc =>
    obtain ⟨c', hc'⟩ := ihc
    have hmade := fun fs w => (hf fs w).exists_right fun d d₁ => ihR d d₁
    choose f' hf' using hmade
    exact ⟨_, .orElseWith (fun _ _ h => h) hc' hf'⟩
  | bimap onSuccess onFailure hc ihc =>
    obtain ⟨c', hc'⟩ := ihc
    exact ⟨_, .bimap onSuccess onFailure hc'⟩
  | retype f hc ihc =>
    obtain ⟨c', hc'⟩ := ihc
    exact ⟨_, .retype f hc'⟩
  | getState => exact ⟨_, .getState⟩
  | liftState f => exact ⟨_, .liftState f⟩
  | putState t => exact ⟨_, .putState t⟩
  | modifyState f => exact ⟨_, .modifyState f⟩
  | ask => exact ⟨_, .ask⟩
  | «local» f hc ihc =>
    obtain ⟨c', hc'⟩ := ihc
    exact ⟨_, .local f hc'⟩
  | initConfig configuration => exact ⟨_, .initConfig configuration⟩
  | initSettings settings => exact ⟨_, .initSettings settings⟩
  | defaultWait => exact ⟨_, .defaultWait⟩
  | defaultInterval => exact ⟨_, .defaultInterval⟩
  | @lift _ code _ _ =>
    obtain ⟨code', hcode⟩ := total code
    exact ⟨_, .lift hcode⟩
  | write kind message => exact ⟨_, .write kind message⟩
  | context label hc ihc =>
    obtain ⟨c', hc'⟩ := ihc
    exact ⟨_, .context label hc'⟩
  | mute hc ihc =>
    obtain ⟨c', hc'⟩ := ihc
    exact ⟨_, .mute hc'⟩
  | config key => exact ⟨_, .config key⟩
  | @tryCall _ code _ _ label =>
    obtain ⟨code', hcode⟩ := total code
    exact ⟨_, .tryCall hcode label⟩
  | tryAsk handle command label => exact ⟨_, .tryAsk handle command label⟩
  | sequence h ih =>
    obtain ⟨items', hfirst, hitems'⟩ := exists_items (S := fun _ => Twin calls' swaps') ih
    rw [← hfirst]
    exact ⟨_, .sequence hitems'⟩
  | collect h ih =>
    obtain ⟨items', hfirst, hitems'⟩ := exists_items (S := fun _ => Twin calls' swaps') ih
    rw [← hfirst]
    exact ⟨_, .collect hitems'⟩
  | @use _ _ resource release _ f _ _ hR hrelease hf ihR =>
    obtain ⟨released, hreleased⟩ := total (release resource)
    have hmade := fun w => (hf w).exists_right fun d d₁ => ihR d d₁
    choose made hmade using hmade
    have htwin : Twin calls' swaps' (Flow.use resource release f)
        (Flow.use resource (fun _ => released) fun _ => made) :=
      .use resource (fun _ _ h => h) hreleased hmade
    exact ⟨_, htwin⟩
  | session => exact ⟨_, .session⟩
  | withSession handle hc ihc =>
    obtain ⟨c', hc'⟩ := ihc
    exact ⟨_, .withSession handle hc'⟩
  | stopwatch hc ihc =>
    obtain ⟨c', hc'⟩ := ihc
    exact ⟨_, .stopwatch hc'⟩
  | pause interval => exact ⟨_, .pause interval⟩
  | waitUntil hc watch interval wait ihc =>
    obtain ⟨c', hc'⟩ := ihc
    exact ⟨_, .waitUntil hc' watch interval wait⟩
  | waitUntilSucceeds hc interval wait label ihc =>
    obtain ⟨c', hc'⟩ := ihc
    exact ⟨_, .waitUntilSucceeds hc' interval wait label⟩
  | doWhile hc continueIf maxRepeats ihc =>
    obtain ⟨c', hc'⟩ := ihc
    exact ⟨_, .doWhile hc' continueIf maxRepeats⟩
  | doWhileOrFail hc continueIf maxAttempts interval message ihc =>
    obtain ⟨c', hc'⟩ := ihc
    exact ⟨_, .doWhileOrFail hc' continueIf maxAttempts interval message⟩
  | ofRecipe hR h ihR =>
    have hmade := fun w => (h w).exists_right fun r r₁ hr => hr.exists_right ihR
    choose code' hcode' using hmade
    exact ⟨_, .ofRecipe (fun _ _ h => h) hcode'⟩

theorem Built.exists_twin {c : Flow H α} (h : c.Built)
    (total : ∀ {β : Type} (code : Act H.World (Reply H.World β)), ∃ code', swaps β code code') :
    ∃ c', Twin calls swaps c c' := by
  obtain ⟨_, _, _, h⟩ := h
  exact h.exists_twin total

end Flow

end Walkthrough
