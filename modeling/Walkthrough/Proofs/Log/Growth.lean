import Walkthrough.Proofs.Composed.Straight
import Walkthrough.Proofs.Log.Tree

/-!
# How the log grows

A run puts nodes behind the last child of the log that it was started with, and every line of these
nodes was published as a record. The records are made when a line is written, from a scope that
stands apart from the tree; the lines are read off the tree after that scope was closed. That both
agree on the depth is the fact about one scope behind everything here (`Log.Grown.leave`).

`growthLaw` is the law of this for any way to compare the new lines with the records. A run that
goes back to an earlier state loses lines, but not records, so of all runs the new lines are a
subsequence of the records (`Flow.lines_sublist_published`). A run that never goes back loses none:
its new lines are the records (`Flow.lines_eq_published`).
-/

namespace Walkthrough

namespace Log

/-- A way to compare lines of a log with lines that were published. -/
structure Account (R : List String → List String → Prop) : Prop where
  refl : ∀ lines, R lines lines
  append : ∀ {lines more told toldMore}, R lines told → R more toldMore →
    R (lines ++ more) (told ++ toldMore)

theorem Account.eq : Account Eq := ⟨fun _ => rfl, fun h h' => h ▸ h' ▸ rfl⟩

theorem Account.sublist : Account List.Sublist := ⟨List.Sublist.refl, List.Sublist.append⟩

/-- The second log is the first with new children, which stand at their depth and whose lines
compare with what was published. -/
def Grown (R : List String → List String → Prop) (l : Log) (told : List LogRecord) (l' : Log) :
    Prop :=
  ∃ new, l' = l.grow new ∧ (∀ c ∈ new, c.moveTo l.childIndent = c) ∧
    R (new.flatMap lines) (told.map LogRecord.render)

/-- Trees that stand at a depth stay as they are when they are moved there. -/
theorem map_moveTo_eq_self {i : Int} {cs : List Log} (h : ∀ c ∈ cs, c.moveTo i = c) :
    cs.map (moveTo i) = cs :=
  (List.map_congr_left h).trans (List.map_id cs)

namespace Grown

variable {R : List String → List String → Prop} {l l' l'' : Log} {told more : List LogRecord}

theorem refl (account : Account R) (l : Log) : Grown R l [] l :=
  ⟨[], (grow_nil l).symm, fun _ hc => absurd hc List.not_mem_nil, account.refl []⟩

theorem trans (account : Account R) (h : Grown R l told l') (h' : Grown R l' more l'') :
    Grown R l (told ++ more) l'' := by
  obtain ⟨new, rfl, hnew, hlines⟩ := h
  obtain ⟨newer, rfl, hnewer, hmore⟩ := h'
  refine ⟨new ++ newer, grow_grow l new newer, fun c hc => ?_, ?_⟩
  · rcases List.mem_append.mp hc with hc | hc
    · exact hnew c hc
    · exact hnewer c hc
  · rw [List.flatMap_append, List.map_append]
    exact account.append hlines hmore

end Grown

end Log

namespace RunState

variable {Session Sinks : Type} {s : RunState Session Sinks}

/-- What is published when a node is announced is the line that it shows. -/
theorem render_announced_line (hs : s.muted = false) (kind : LogKind) (message : String) :
    (s.announced (s.line kind message)).map LogRecord.render = (s.line kind message).lines := by
  have hblank : (s.line kind message).isBlank = Text.blank message := rfl
  unfold announced
  rw [hs, hblank, Bool.false_or, line, Log.lines_leaf]
  by_cases hb : Text.blank message = true
  · rw [if_pos hb, if_pos hb, List.map_nil]
  · rw [if_neg hb, if_neg hb]
    rfl

end RunState

namespace Log.Grown

variable {Session Sinks : Type} {s t : RunState Session Sinks} {told : List LogRecord}
  {R : List String → List String → Prop}

theorem line (account : Account R) (hs : s.muted = false) (kind : LogKind) (message : String) :
    Grown R s.log (s.announced (s.line kind message)) (s.withLine kind message).log := by
  refine ⟨[s.line kind message], withChild_eq_grow _ _, fun c hc => ?_, ?_⟩
  · obtain rfl := List.mem_singleton.mp hc
    exact moveTo_moveTo _ _ _
  · rw [RunState.render_announced_line hs, List.flatMap_singleton]
    exact account.refl _

/-- A blank scope is opened: its children stand as deep as the scope itself, and stay there. -/
theorem attached_blank {label : String} {new : List Log} (hb : Text.blank label = true)
    (hnew : ∀ c ∈ new, c.moveTo (s.enter label).log.childIndent = c) :
    s.log.attached ((s.enter label).log.grow new) = new := by
  have hdepth : (s.enter label).log.childIndent = s.log.childIndent :=
    indentBelow_of_blank hb .context s.log.childIndent
  have hblank : ((s.enter label).log.grow new).isBlank = true := hb
  have hchildren : ((s.enter label).log.grow new).children = new := rfl
  rw [attached_of_blank rfl hblank, hchildren, ← hdepth]
  exact map_moveTo_eq_self hnew

/-- Any other scope is attached as it stands: it was opened at the depth of its parent's
children. -/
theorem attached_solid {label : String} {new : List Log} (hb : ¬Text.blank label = true)
    (hnew : ∀ c ∈ new, c.moveTo (s.enter label).log.childIndent = c) :
    s.log.attached ((s.enter label).log.grow new) = [(s.enter label).log.grow new] := by
  have hsolid : ((s.enter label).log.grow new).isBlank = false := Bool.eq_false_iff.mpr hb
  have hscope : (s.enter label).log.moveTo s.log.childIndent = (s.enter label).log :=
    moveTo_moveTo _ _ _
  rw [attached_of_solid hsolid, moveTo_grow, hscope, map_moveTo_eq_self hnew]

/-- The lines of a scope are its own line, which was published when it was opened, and what it has
grown by since then. A blank scope shows no line, and none was published. -/
theorem leave (account : Account R) (hs : s.muted = false) (label : String)
    (h : Grown R (s.enter label).log told t.log) :
    Grown R s.log (s.announced (s.line .context label) ++ told) (s.leave label t).log := by
  obtain ⟨new, ht, hnew, hlines⟩ := h
  have hgrow : (s.leave label t).log = s.log.grow (s.log.attached t.log) := withTree_eq_grow _ _
  refine ⟨s.log.attached t.log, hgrow, fun c hc => moveTo_attached hc, ?_⟩
  rw [List.map_append, RunState.render_announced_line hs, ht]
  by_cases hb : Text.blank label = true
  · have hsilent : (s.line .context label).lines = [] := by
      rw [RunState.line, lines_leaf, if_pos hb]
    rw [attached_blank hb hnew, hsilent, List.nil_append]
    exact hlines
  · rw [attached_solid hb hnew, List.flatMap_singleton, lines_grow]
    exact account.append (account.refl _) hlines

end Log.Grown

namespace Flow

variable {H : Host} {k : Kit} {α : Type} {R : List String → List String → Prop}

/-- The law of logs that grow, for runs that keep no line from the sinks. -/
def growthLaw (H : Host) {k : Kit} (loud : k.muting = false) (account : Log.Account R) :
    H.Law k where
  holds s := s.muted = false
  relates s told t := Log.Grown R s.log told t.log
  refl s := .refl account s.log
  trans h h' := h.trans account h'
  change h hs := by
    cases h with
    | failures fs => exact ⟨hs, .refl account _⟩
    | settings h => exact ⟨hs, .refl account _⟩
    | configuration h => exact ⟨hs, .refl account _⟩
  line kind message hs := ⟨hs, .line account hs kind message⟩
  enter _ hs := hs
  leave label hs ht h := ⟨ht, .leave account hs label h⟩
  mute muting := absurd (loud.symm.trans muting) Bool.false_ne_true
  unmute muting := absurd (loud.symm.trans muting) Bool.false_ne_true
  lend _ hs := hs
  giveBack _ _ ht h := ⟨ht, h⟩

/-- A log may stay behind the records by any number of lines. -/
theorem forgiving_growthLaw (loud : k.muting = false) :
    (growthLaw H loud Log.Account.sublist).Forgiving := by
  intro s told
  have hnone : ∀ c ∈ ([] : List Log), c.moveTo s.log.childIndent = c :=
    fun c hc => absurd hc List.not_mem_nil
  exact ⟨[], (Log.grow_nil s.log).symm, hnone, List.nil_sublist _⟩

/-- However a run of a composed flow ends, its log is the log that it was started with and new
children behind the old ones. Their lines are lines of records that were published in the run, in
the same order, whatever was thrown and whatever was tried again. -/
theorem lines_sublist_published (keeping : k.replacing = false) (loud : k.muting = false)
    {c : Flow H α} (hc : c.Composed k) (d : Driver H) (env : H.Env) {s : H.State}
    (hs : s.muted = false) (w : H.World) :
    let run := c.history d env s w
    let log := run.outcome.state.log
    log.kind = s.log.kind ∧ log.message = s.log.message ∧ log.indent = s.log.indent ∧
      ∃ new, log.children = s.log.children ++ new ∧
        log.lines = s.log.lines ++ new.flatMap Log.lines ∧
        (new.flatMap Log.lines).Sublist (run.published.map LogRecord.render) := by
  intro run log
  have hrun : (c env s w).Lawful (growthLaw H loud .sublist) d [] s :=
    lawful_of_upholds (upholds_of_composed (forgiving_growthLaw loud) False.elim (.inl keeping) hc)
      (fun _ => trivial) env ⟨hs, False.elim⟩ w
  have hends := hrun.ends.relates
  rw [← history_eq, List.nil_append] at hends
  obtain ⟨new, hlog, -, hlines⟩ := hends
  have hgrown : log = s.log.grow new := hlog
  rw [hgrown]
  exact ⟨rfl, rfl, rfl, new, rfl, Log.lines_grow s.log new, hlines⟩

/-- The lines of an alternative that failed were published and are in no log. -/
theorem lines_sublist_published_alternative :
    let kit : Kit := { muting := false, replacing := false }
    let c : Flow Host.refusing Unit :=
      ((info "left").andThen (failWith "no")).orElse (context "right" (info "done"))
    let run := c.history .blocking () (Host.refusing.initialState none { sinks := () }) (0 : Nat)
    kit.replacing = false ∧ kit.muting = false ∧ c.Composed kit ∧
      (Host.refusing.initialState none { sinks := () }).muted = false ∧
      run.published =
        [⟨.info, 0, "left"⟩, ⟨.error, 0, "no"⟩, ⟨.context, 0, "right"⟩, ⟨.info, 1, "done"⟩] ∧
      run.outcome.state.log.children = [.node .context "right" 0 [.node .info "done" 1 []]] ∧
      ∃ new, run.outcome.state.log.children = new ∧
        (new.flatMap Log.lines).Sublist (run.published.map LogRecord.render) := by
  intro kit c run
  have hc : c.Composed kit :=
    .orElse rfl (.andThen (.write _ _) (.failWith _)) (.context _ (.write _ _))
  have hrun : run = (c () (Host.refusing.initialState none { sinks := () }) (0 : Nat)).history
      .blocking (Host.refusing.initialState none { sinks := () }) := history_eq ..
  have hpublished : run.published =
      [⟨.info, 0, "left"⟩, ⟨.error, 0, "no"⟩, ⟨.context, 0, "right"⟩, ⟨.info, 1, "done"⟩] := by
    rw [hrun]
    rfl
  have hchildren : run.outcome.state.log.children =
      [.node .context "right" 0 [.node .info "done" 1 []]] := by
    rw [hrun]
    rfl
  obtain ⟨-, -, -, new, hnew, -, hlines⟩ :=
    lines_sublist_published (s := Host.refusing.initialState none { sinks := () }) rfl rfl hc
      .blocking () rfl (0 : Nat)
  exact ⟨rfl, rfl, hc, rfl, hpublished, hchildren, new, hnew, hlines⟩

/-- When nothing is thrown and nothing tried again, the log shows what was published, line by line
and no less, whether the run succeeds or fails. -/
theorem lines_eq_published (quiet : H.Quiet) {d : Driver H} (steady : d.Steady) {c : Flow H α}
    (hc : c.Straight) (env : H.Env) {s : H.State} (hs : s.muted = false) (w : H.World) :
    (c.history d env s w).outcome.state.log.lines =
      s.log.lines ++ (c.history d env s w).published.map LogRecord.render := by
  have loud : ({ muting := false } : Kit).muting = false := rfl
  have hrun : (c env s w).Lawful (growthLaw H loud .eq) d [] s :=
    lawful_of_upholds (upholds_of_straight quiet steady hc _) (fun _ => trivial) env
      ⟨hs, False.elim⟩ w
  obtain ⟨new, hlog, -, hlines⟩ := hrun.ends.relates
  rw [List.nil_append] at hlines
  rw [history_eq, hlog, Log.lines_grow, hlines]

/-- A flow that fails inside a scope, after a scope with a blank label in it. -/
theorem lines_eq_published_failed :
    let c : Flow Host.refusing Unit :=
      context "shop" ((context " " (info "open")).andThen (failWith "closed"))
    let run := c.history .blocking ()
      ((Host.refusing.initialState none { sinks := () }).withLine .info "before") (0 : Nat)
    Host.refusing.Quiet ∧ (Driver.blocking : Driver Host.refusing).Steady ∧ c.Straight ∧
      ((Host.refusing.initialState none { sinks := () }).withLine .info "before").muted = false ∧
      run.outcome.isFaulted = true ∧
      run.published = [⟨.context, 0, "shop"⟩, ⟨.info, 1, "open"⟩, ⟨.error, 1, "closed"⟩] ∧
      run.outcome.state.log.lines =
        ((Host.refusing.initialState none { sinks := () }).withLine .info "before").log.lines ++
          run.published.map LogRecord.render := by
  intro c run
  have hc : c.Straight := .context _ (.andThen (.context _ (.write _ _)) (.fail _))
  have hrun : run = (c ()
      ((Host.refusing.initialState none { sinks := () }).withLine .info "before")
      (0 : Nat)).history .blocking
      ((Host.refusing.initialState none { sinks := () }).withLine .info "before") :=
    history_eq ..
  have hfaulted : run.outcome.isFaulted = true := by
    rw [hrun]
    rfl
  have hpublished : run.published =
      [⟨.context, 0, "shop"⟩, ⟨.info, 1, "open"⟩, ⟨.error, 1, "closed"⟩] := by
    rw [hrun]
    rfl
  exact ⟨Host.quiet_refusing, Driver.steady_blocking, hc, rfl, hfaulted, hpublished,
    lines_eq_published Host.quiet_refusing Driver.steady_blocking hc () rfl (0 : Nat)⟩

end Flow

end Walkthrough
