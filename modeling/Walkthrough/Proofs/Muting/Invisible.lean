import Walkthrough.Proofs.Muting.Resembles

/-!
# Muting is invisible except to the sinks

A muted flow hands nothing to the sinks. In everything else it is the flow that it mutes: the
outcome with its whole state, what is asked of sessions and of outside code, what they answer, and
the pauses. The same holds of mutes anywhere inside (`Flow.mute_invisible`), as long as nothing but
the sinks notices what the sinks do.
-/

namespace Walkthrough

variable {Seen : Type} {H : Host} {seen : H.World → Seen} {α β : Type} {d : Driver H}

/-! ## Muting -/

/-- The runs end alike in worlds that look the same, and the same is seen of them but for what the
sinks hear. -/
structure History.SameUnheard (seen : H.World → Seen) (h h' : History H α) : Prop where
  outcome : h'.outcome = h.outcome
  world : seen h'.world = seen h.world
  unheard : h'.unheard = h.unheard

/-- A host whose sinks keep the text of what they are handed, beside the number of calls that its
sessions have refused. -/
abbrev Host.keeping : Host where
  World := Nat × List String
  Env := Unit
  Session := Unit
  Element := Unit
  Datum := Unit
  Sinks := Unit
  precision := .exact
  now _ := 0
  sleep _ w := w
  call _ _ w := (.error (.fault ⟨"SessionError", "refused"⟩), (w.1 + 1, w.2))
  logLine _ message _ w := (.ok (), (w.1, w.2 ++ [message]))
  publish _ record w := (.ok (), (w.1, w.2 ++ [record.render]))
  publishFailure _ _ := .ok ()
  reportFailure _ _ _ := .ok ()
  complain _ _ w := w
  ofElement := id
  truthy _ := false

/-- Nothing but the sinks notices what they keep. -/
theorem Host.discreet_keeping : Host.keeping.Discreet Prod.fst where
  logLine _ message _ w := ⟨(w.1, w.2 ++ [message]), rfl, rfl⟩
  publish _ record w := ⟨(w.1, w.2 ++ [record.render]), rfl, rfl⟩
  now _ := rfl
  sleep _ _ _ hw := hw
  complain _ _ _ _ hw := hw
  call _ _ _ _ hw := .threw _ (congrArg (· + 1) hw)

namespace Flow

theorem Remuted.andThen {c c' : Flow H α} {e e' : Flow H β} (hc : Remuted seen c c')
    (he : Remuted seen e e') : Remuted seen (c.andThen e) (c'.andThen e') :=
  .bind (fun _ _ h => h) hc fun _ _ _ hw => .gave he hw

theorem Remuted.callSession (host : H.Discreet seen) (label : String)
    (command : Command H.Element H.Datum α) :
    Remuted seen (callSession label command) (callSession label command) :=
  .bind (fun _ _ h => h) .session fun handle _ _ hw =>
    .gave (.tryEffect (.call host handle command) fun _ => Act.blind_ok label) hw

theorem Remuted.sameUnheard (host : H.Discreet seen) (driver : d.Blind seen) {c c' : Flow H α}
    (h : Remuted seen c c') (env : H.Env) (s : H.State) (w : H.World) :
    (c.history d env s w).SameUnheard seen (c'.history d env s w) := by
  obtain ⟨houtcome, hworld, hunheard, -⟩ :=
    resembles_of_remuted host driver h env ⟨rfl, rfl, rfl⟩ (rfl : seen w = seen w)
  rw [history_eq, history_eq]
  exact ⟨houtcome.eq_of_remuted, hworld.symm, hunheard.symm⟩

/-- Putting mutes into a flow or leaving them out changes nothing but what the sinks hear, and a
mute around all of it keeps everything from them. The flag is put back to what it was. -/
theorem mute_invisible (host : H.Discreet seen) (driver : d.Blind seen) {c c' : Flow H α}
    (h : Remuted seen c c') (env : H.Env) (s : H.State) (w : H.World) :
    let plain := c.history d env s w
    let muted := (mute c').history d env s w
    muted.heard = [] ∧ plain.SameUnheard seen muted ∧
      plain.SameUnheard seen (c'.history d env s w) ∧ plain.outcome.state.muted = s.muted := by
  intro plain muted
  have hflag : s.Remuted s.muted true (s.withMuted true) := ⟨rfl, rfl, rfl⟩
  obtain ⟨houtcome, -, -, hsilent⟩ :=
    resembles_of_remuted host driver h env hflag (rfl : seen w = seen w)
  refine ⟨?_, (Remuted.muteRight h).sameUnheard host driver env s w,
    h.sameUnheard host driver env s w, ?_⟩
  · obtain ⟨-, -, -, hheard⟩ := history_mute c' d env s w
    have hmuted : muted = (mute c' env s w).history d s := history_eq _ d env s w
    rw [hmuted, hheard]
    exact hsilent rfl
  · have hplain : plain = (c env s w).history d s := history_eq c d env s w
    rw [hplain]
    exact houtcome.state.left

/-- A line in a scope is muted and the failure after it is not. The flow without any mute hands
three lines to the sinks. -/
theorem mute_invisible_keeping :
    let c : Flow Host.keeping Unit :=
      context "checkout" ((info "placed").andThen (callSession "no quit" .quit))
    let c' : Flow Host.keeping Unit :=
      context "checkout" ((mute (info "placed")).andThen (callSession "no quit" .quit))
    let start : Host.keeping.State := Host.keeping.initialState (some ()) { sinks := () }
    let plain := c.history .blocking () start ((0, []) : Nat × List String)
    let muted := (mute c').history .blocking () start ((0, []) : Nat × List String)
    Host.keeping.Discreet Prod.fst ∧
      (Driver.blocking : Driver Host.keeping).Blind Prod.fst ∧ Remuted Prod.fst c c' ∧
      muted.heard = [] ∧ plain.SameUnheard Prod.fst muted ∧
      plain.SameUnheard Prod.fst
        (c'.history .blocking () start ((0, []) : Nat × List String)) ∧
      plain.outcome.state.muted = start.muted ∧ plain.heard.length = 6 := by
  intro c c' start plain muted
  have host := Host.discreet_keeping
  have driver := Driver.blind_blocking host
  have hremuted : Remuted Prod.fst c c' :=
    .context "checkout" (.andThen (.muteRight (.write .info "placed"))
      (.callSession host "no quit" .quit))
  obtain ⟨hsilent, hmuted, hinside, hflag⟩ :=
    mute_invisible host driver hremuted () start ((0, []) : Nat × List String)
  refine ⟨host, driver, hremuted, hsilent, hmuted, hinside, hflag, ?_⟩
  have hplain : plain = (c () start ((0, []) : Nat × List String)).history .blocking start :=
    history_eq ..
  rw [hplain]
  decide +kernel

end Flow

end Walkthrough
