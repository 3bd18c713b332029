import Walkthrough.Proofs.Composed.Derived
import Walkthrough.Proofs.Run.Upholds

/-!
# What is changed for a while is given back

Inside of a scope, of muting and of a borrowed session a part of the state of the run is changed.
`RunState.Restored I s t` says of the state `t` that a step leaves that these parts are as they were
in the state `s` that the step was started from, and that the settings and the configuration are so
too, unless they are among the ones in `I`.

A composed flow restores its state in this sense, when `I` holds what the steps of the run put in
place (`Flow.restored_of_composed`). This holds however the run ends and whatever throws on the way:
a step that changes a part of the state for a flow puts it back behind that flow, and what goes back
to an earlier state goes back to one that the step was started from.
-/

namespace Walkthrough

/-- The parts of the state that are changed for a while are as they were, and so are the settings
and the configuration unless they are in `I`. -/
structure RunState.Restored {Session Sinks : Type} (I : Replacement Sinks → Prop)
    (s t : RunState Session Sinks) : Prop where
  session : t.session = s.session
  scopes : t.scopes = s.scopes
  muted : t.muted = s.muted
  settings : t.settings = s.settings ∨ I (.settings t.settings)
  configuration : t.configuration = s.configuration ∨ I (.configuration t.configuration)

namespace RunState.Restored

variable {Session Sinks : Type} {I : Replacement Sinks → Prop} {s t u : RunState Session Sinks}

theorem refl (s : RunState Session Sinks) : s.Restored I s := ⟨rfl, rfl, rfl, .inl rfl, .inl rfl⟩

theorem trans (hs : s.Restored I t) (ht : t.Restored I u) : s.Restored I u where
  session := ht.session.trans hs.session
  scopes := ht.scopes.trans hs.scopes
  muted := ht.muted.trans hs.muted
  settings := by
    rcases ht.settings with hsame | hnew
    · rw [hsame]
      exact hs.settings
    · exact .inr hnew
  configuration := by
    rcases ht.configuration with hsame | hnew
    · rw [hsame]
      exact hs.configuration
    · exact .inr hnew

/-- What a step may put in place is put in place behind it. -/
theorem change (h : s.Changes I t) : s.Restored I t := by
  cases h with
  | failures fs => exact ⟨rfl, rfl, rfl, .inl rfl, .inl rfl⟩
  | settings hnew => exact ⟨rfl, rfl, rfl, .inr hnew, .inl rfl⟩
  | configuration hnew => exact ⟨rfl, rfl, rfl, .inl rfl, .inr hnew⟩

theorem withLine (kind : LogKind) (message : String) : s.Restored I (s.withLine kind message) :=
  ⟨rfl, rfl, rfl, .inl rfl, .inl rfl⟩

/-- Leaving a scope closes it. -/
theorem leave {label : String} (h : (s.enter label).Restored I t) :
    s.Restored I (s.leave label t) :=
  ⟨h.session, rfl, h.muted, h.settings, h.configuration⟩

theorem unmute (h : (s.withMuted true).Restored I t) : s.Restored I (t.withMuted s.muted) :=
  ⟨h.session, h.scopes, rfl, h.settings, h.configuration⟩

theorem giveBack {handle : Option Session} (h : (s.withSession handle).Restored I t) :
    s.Restored I (t.withSession s.session) :=
  ⟨rfl, h.scopes, h.muted, h.settings, h.configuration⟩

end RunState.Restored

namespace Flow

variable {H : Host} {k : Kit} {α : Type}

/-- The law of states that are given back; it says nothing of a state alone. -/
def restoredLaw (k : Kit) (I : Replacement H.Sinks → Prop) : H.Law k where
  holds _ := True
  relates s _ t := s.Restored I t
  permits := I
  refl s := .refl s
  trans h h' := h.trans h'
  change h _ := ⟨trivial, .change h⟩
  line kind message _ := ⟨trivial, .withLine kind message⟩
  enter _ _ := trivial
  leave _ _ _ h := ⟨trivial, h.leave⟩
  mute _ _ _ := trivial
  unmute _ _ _ _ _ _ h := ⟨trivial, h.unmute⟩
  lend _ _ := trivial
  giveBack _ _ _ h := ⟨trivial, h.giveBack⟩

/-- What goes back to where it started has restored everything. -/
theorem forgiving_restoredLaw (I : Replacement H.Sinks → Prop) :
    (restoredLaw k I : H.Law k).Forgiving :=
  fun s _ => .refl s

/-- A composed flow leaves the session, the open scopes and the muting as it found them, however it
ends. The settings that it leaves are the ones that it found or the ones that a step of the run put
in place, and so is the configuration. -/
theorem restored_of_composed (keeping : k.replacing = false) {c : Flow H α} (hc : c.Composed k)
    (d : Driver H) (env : H.Env) (s : H.State) (w : H.World) :
    let t := (c.history d env s w).outcome.state
    t.session = s.session ∧ t.scopes = s.scopes ∧ t.muted = s.muted ∧
      (t.settings ≠ s.settings → ∃ x ∈ c.steps d env s w,
        (initSettings t.settings : Flow H Unit).Retyped x.flow) ∧
      (t.configuration ≠ s.configuration → ∃ x ∈ c.steps d env s w,
        (initConfig t.configuration : Flow H Unit).Retyped x.flow) := by
  intro t
  -- what the steps of this run put in place, this step included
  let I : Replacement H.Sinks → Prop := fun new => ∃ x ∈ c.steps d env s w, new.flow.Retyped x.flow
  have hrestored : s.Restored I t := by
    have hrun := upholds_of_composed (forgiving_restoredLaw I) False.elim (.inl keeping) hc env s w
      ⟨trivial, False.elim⟩ (fun new h => ⟨⟨c, env, s, w⟩, List.mem_cons_self, h⟩)
      (fun x hx new h => ⟨x, List.mem_cons_of_mem _ hx, h⟩)
    have hends := hrun.ends.relates
    rwa [← history_eq] at hends
  exact ⟨hrestored.session, hrestored.scopes, hrestored.muted,
    fun hchanged => hrestored.settings.resolve_left hchanged,
    fun hchanged => hrestored.configuration.resolve_left hchanged⟩

/-- Settings are put in place inside of a scope, of muting and of a borrowed session that is then
quit in vain, and the flow fails: the settings stay, and all the rest is given back. -/
theorem restored_of_composed_failed :
    let kit : Kit := { replacing := false }
    let new : Settings Host.refusing.Sinks := { sinks := () }
    let c : Flow Host.refusing Unit :=
      context "shop" (withSession () (mute ((initSettings new).andThen (failWith "closed"))))
    let run := c.history .blocking ()
      (Host.refusing.initialState none { sinks := (), disposeOnCompletion := true }) (0 : Nat)
    kit.replacing = false ∧ c.Composed kit ∧ run.outcome.isFaulted = true ∧ run.world = (1 : Nat) ∧
      run.outcome.state.session = none ∧ run.outcome.state.scopes = [] ∧
      run.outcome.state.muted = false ∧ run.outcome.state.settings.disposeOnCompletion = false ∧
      ∃ x ∈ c.steps .blocking ()
          (Host.refusing.initialState none { sinks := (), disposeOnCompletion := true }) (0 : Nat),
        (initSettings run.outcome.state.settings : Flow Host.refusing Unit).Retyped x.flow := by
  intro kit new c run
  have hc : c.Composed kit :=
    .context "shop" (.withSession _ (.mute rfl (.andThen (.initSettings new) (.failWith "closed"))))
  have hrun : run = (c () (Host.refusing.initialState none
      { sinks := (), disposeOnCompletion := true }) (0 : Nat)).history .blocking
        (Host.refusing.initialState none { sinks := (), disposeOnCompletion := true }) :=
    history_eq ..
  have hfaulted : run.outcome.isFaulted = true := by
    rw [hrun]
    rfl
  have hworld : run.world = (1 : Nat) := by
    rw [hrun]
    rfl
  have hsettings : run.outcome.state.settings.disposeOnCompletion = false := by
    rw [hrun]
    rfl
  obtain ⟨hsession, hscopes, hmuted, hinstalled, -⟩ := restored_of_composed rfl hc .blocking ()
    (Host.refusing.initialState none { sinks := (), disposeOnCompletion := true }) (0 : Nat)
  refine ⟨rfl, hc, hfaulted, hworld, hsession, hscopes, hmuted, hsettings, hinstalled fun heq => ?_⟩
  have hdispose := congrArg Settings.disposeOnCompletion heq
  exact absurd (hsettings.symm.trans hdispose) Bool.false_ne_true

end Flow

end Walkthrough
