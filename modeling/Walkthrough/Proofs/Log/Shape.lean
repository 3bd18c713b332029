import Walkthrough.Proofs.Composed.Derived
import Walkthrough.Proofs.Log.Tree
import Walkthrough.Proofs.Run.Upholds

/-!
# The shape of the log

Every node of a log keeps its indent, although the indent follows from where the node stands, and
the state of a run keeps the labels of the open scopes beside a log that only holds the innermost
one. `Log.Ordered` and `RunState.Shaped` say that these agree.

Main result: `Flow.shaped_of_reached`. Every state that a composed flow reaches from the state of a
new run is shaped: on success, after failures, and where something was thrown. So every node is
indented by the scopes around it, and no tree is ever moved to a negative depth.
-/

namespace Walkthrough

namespace Log

/-- How many levels these scopes indent. A blank label opens a scope, but does not indent. -/
def depth (labels : List String) : Nat := labels.countP fun label => !Text.blank label

/-- Outside of all scopes lines stand at the margin. -/
@[simp] theorem depth_nil : depth [] = 0 := rfl

/-- Each further scope adds its own depth. -/
theorem depth_append (labels more : List String) :
    depth (labels ++ more) = depth labels + depth more := List.countP_append

/-- A blank scope adds none. -/
theorem depth_singleton (label : String) :
    depth [label] = if Text.blank label then 0 else 1 := by
  cases hb : Text.blank label <;> simp [depth, hb]

/-- A scope indents its children by what its label counts. -/
theorem indentBelow_context (label : String) (indent : Int) :
    indentBelow .context label indent = indent + depth [label] := by
  rw [depth_singleton]
  cases hb : Text.blank label <;> simp [indentBelow, hb]

/-- Every child stands at the depth that its parent gives it, and only scopes have children. -/
inductive Ordered : Log → Prop where
  | node {kind : LogKind} {message : String} {indent : Int} {children : List Log}
      (scope : children ≠ [] → kind = .context)
      (indents : ∀ c ∈ children, c.indent = indentBelow kind message indent)
      (nested : ∀ c ∈ children, Ordered c) : Ordered (node kind message indent children)

namespace Ordered

variable {l other : Log}

/-- Only scopes have children. -/
theorem scope (hl : l.Ordered) (hchildren : l.children ≠ []) : l.kind = .context := by
  obtain ⟨hscope, -, -⟩ := hl
  exact hscope hchildren

/-- The children stand at the depth below their parent. -/
theorem indents (hl : l.Ordered) {c : Log} (hc : c ∈ l.children) : c.indent = l.childIndent := by
  obtain ⟨-, hindents, -⟩ := hl
  exact hindents c hc

/-- Every child is ordered itself. -/
theorem nested (hl : l.Ordered) {c : Log} (hc : c ∈ l.children) : c.Ordered := by
  obtain ⟨-, -, hnested⟩ := hl
  exact hnested c hc

/-- A line is ordered. -/
theorem leaf (kind : LogKind) (message : String) : (leaf kind message).Ordered :=
  .node (fun h => absurd rfl h) (fun _ hc => nomatch hc) fun _ hc => nomatch hc

/-- Moving a tree gives every node below its depth again, whatever it was before. -/
theorem moveTo (hl : l.Ordered) (i : Int) : (l.moveTo i).Ordered := by
  induction hl generalizing i with
  | @node kind message indent children scope indents nested ih =>
    rw [Log.moveTo, allMoveTo_eq_map]
    refine .node (fun hne => scope fun h => hne (by rw [h]; rfl)) ?_ ?_
    · intro c hc
      obtain ⟨d, -, rfl⟩ := List.mem_map.mp hc
      exact indent_moveTo _ d
    · intro c hc
      obtain ⟨d, hd, rfl⟩ := List.mem_map.mp hc
      exact ih d hd _

/-- Children that are ordered may be added at their depth. -/
theorem grow (hl : l.Ordered) (hkind : l.kind = .context) {cs : List Log}
    (hindents : ∀ c ∈ cs, c.indent = l.childIndent) (hcs : ∀ c ∈ cs, c.Ordered) :
    (l.grow cs).Ordered := by
  refine .node (fun _ => hkind) (fun c hc => ?_) (fun c hc => ?_)
  · rcases List.mem_append.mp hc with hold | hnew
    · exact hl.indents hold
    · exact hindents c hnew
  · rcases List.mem_append.mp hc with hold | hnew
    · exact hl.nested hold
    · exact hcs c hnew

/-- What is attached of an ordered tree is ordered, wherever it is moved to. -/
theorem attached (hother : other.Ordered) {c : Log} (hc : c ∈ l.attached other) : c.Ordered := by
  unfold Log.attached at hc
  split at hc
  · obtain ⟨d, hd, rfl⟩ := List.mem_map.mp hc
    exact (hother.nested hd).moveTo _
  · obtain rfl := List.mem_singleton.mp hc
    exact hother.moveTo _

/-- Attaching an ordered tree to an ordered scope keeps it ordered. -/
theorem withTree (hl : l.Ordered) (hkind : l.kind = .context) (hother : other.Ordered) :
    (l.withTree other).Ordered := by
  rw [withTree_eq_grow]
  refine hl.grow hkind (fun c hc => ?_) fun c hc => hother.attached hc
  rw [← moveTo_attached hc, indent_moveTo]

/-- So does attaching a child. -/
theorem withChild (hl : l.Ordered) (hkind : l.kind = .context) (hother : other.Ordered) :
    (l.withChild other).Ordered := by
  rw [withChild_eq_grow]
  refine hl.grow hkind (fun c hc => ?_) fun c hc => ?_
  · obtain rfl := List.mem_singleton.mp hc
    exact indent_moveTo _ other
  · obtain rfl := List.mem_singleton.mp hc
    exact hother.moveTo _

end Ordered

/-- The node stands somewhere below the tree's own, inside scopes with these labels, outermost
first. -/
inductive Encloses : Log → List String → Log → Prop where
  | child {l n : Log} (h : n ∈ l.children) : Encloses l [] n
  | deeper {l c n : Log} {labels : List String} (h : c ∈ l.children) (hn : Encloses c labels n) :
      Encloses l (c.message :: labels) n

/-- What encloses something is not empty. -/
theorem Encloses.children_ne_nil {l n : Log} {labels : List String} (h : l.Encloses labels n) :
    l.children ≠ [] := by
  cases h with
  | child h => exact List.ne_nil_of_mem h
  | deeper h hn => exact List.ne_nil_of_mem h

/-- In an ordered tree a node is indented by the scopes around it. -/
theorem Encloses.indent_eq {l n : Log} {labels : List String} (h : l.Encloses labels n)
    (hl : l.Ordered) : n.indent = l.childIndent + depth labels := by
  induction h with
  | child h =>
    rw [hl.indents h, depth_nil]
    omega
  | @deeper l c n labels h hn ih =>
    have hc : c.Ordered := hl.nested h
    have hscope : c.kind = .context := hc.scope hn.children_ne_nil
    have hindent : c.childIndent = l.childIndent + depth [c.message] := by
      rw [childIndent, hscope, indentBelow_context, hl.indents h]
    have hdepth : depth (c.message :: labels) = depth [c.message] + depth labels :=
      depth_append [c.message] labels
    rw [ih hc, hindent, hdepth]
    omega

/-- A tree that is moved to a depth that is not negative has no node at a negative one. -/
theorem indent_nonneg_of_mem_walk {i : Int} (hi : 0 ≤ i) (l : Log) :
    ∀ n ∈ (l.moveTo i).walk, 0 ≤ n.indent := by
  induction l using Log.induct generalizing i with
  | node k m j cs ih =>
    intro n hn
    have hbelow := childIndent_moveTo_nonneg hi (node k m j cs)
    rw [walk_eq, allWalk_eq_flatMap, children_moveTo] at hn
    rcases List.mem_cons.mp hn with rfl | hn
    · rwa [indent_moveTo]
    · obtain ⟨c, hc, hn⟩ := List.mem_flatMap.mp hn
      obtain ⟨d, hd, rfl⟩ := List.mem_map.mp hc
      exact ih d hd hbelow n hn

end Log

/-! ## States -/

/-- The log of the state is an ordered scope that stands as deep as the open scopes say. -/
structure RunState.Shaped {Session Sinks : Type} (s : RunState Session Sinks) : Prop where
  ordered : s.log.Ordered
  scope : s.log.kind = .context
  depth : s.log.childIndent = Log.depth s.scopes

namespace RunState.Shaped

variable {Session Sinks : Type} {s t : RunState Session Sinks}

/-- Only the log and the scopes count. -/
theorem of_log (hs : s.Shaped) (hlog : t.log = s.log) (hscopes : t.scopes = s.scopes) :
    t.Shaped := by
  refine ⟨?_, ?_, ?_⟩
  · rw [hlog]
    exact hs.ordered
  · rw [hlog]
    exact hs.scope
  · rw [hlog, hscopes]
    exact hs.depth

/-- Other changes of the state leave its log and scopes in shape. -/
theorem change {I : Replacement Sinks → Prop} (hs : s.Shaped) (h : s.Changes I t) : t.Shaped := by
  cases h with
  | failures fs => exact hs.of_log rfl rfl
  | settings h => exact hs.of_log rfl rfl
  | configuration h => exact hs.of_log rfl rfl

/-- A line is added at the depth of the scopes that are open. -/
theorem withLine (hs : s.Shaped) (kind : LogKind) (message : String) :
    (s.withLine kind message).Shaped where
  ordered := hs.ordered.withChild hs.scope (.leaf kind message)
  scope := hs.scope
  depth := hs.depth

/-- A new scope has no children yet; its label counts like that of any other. -/
theorem enter (hs : s.Shaped) (label : String) : (s.enter label).Shaped where
  ordered := (Log.Ordered.leaf .context label).moveTo _
  scope := rfl
  depth := by
    have hbelow : (s.enter label).log.childIndent = s.log.childIndent + Log.depth [label] :=
      Log.indentBelow_context label s.log.childIndent
    have hscopes : Log.depth (s.enter label).scopes = Log.depth s.scopes + Log.depth [label] :=
      Log.depth_append s.scopes [label]
    rw [hbelow, hs.depth, hscopes]
    omega

/-- However the scope ended, the labels are those from before it was opened, and so is the depth. -/
theorem leave (hs : s.Shaped) (ht : t.Shaped) (label : String) : (s.leave label t).Shaped where
  ordered := hs.ordered.withTree hs.scope ht.ordered
  scope := by
    show (s.log.withTree t.log).kind = .context
    rw [Log.withTree_eq_grow, Log.kind_grow]
    exact hs.scope
  depth := (Log.childIndent_withTree s.log t.log).trans hs.depth

/-- A node below the log is indented by the open scopes and by those between it and the log. -/
theorem indent_eq (hs : s.Shaped) {labels : List String} {n : Log}
    (h : s.log.Encloses labels n) : n.indent = Log.depth (s.scopes ++ labels) := by
  rw [h.indent_eq hs.ordered, hs.depth, Log.depth_append]
  omega

/-- Nothing that is attached to the log is refused, nor any node below it. -/
theorem rebase_eq_ok (hs : s.Shaped) (t : Log) :
    t.rebase s.log.childIndent = .ok (t.moveTo s.log.childIndent) ∧
      ∀ n ∈ (t.moveTo s.log.childIndent).walk, 0 ≤ n.indent := by
  have hdepth : 0 ≤ s.log.childIndent := by
    rw [hs.depth]
    omega
  exact ⟨Log.rebase_eq_ok hdepth t, Log.indent_nonneg_of_mem_walk hdepth t⟩

end RunState.Shaped

namespace Flow

variable {H : Host} {k : Kit} {α : Type}

/-- The law of shaped logs; it says nothing of how the states are related. -/
def shapeLaw (H : Host) (k : Kit) : H.Law k where
  holds s := s.Shaped
  relates _ _ _ := True
  refl _ := trivial
  trans _ _ := trivial
  change h hs := ⟨hs.change h, trivial⟩
  line kind message hs := ⟨hs.withLine kind message, trivial⟩
  enter label hs := hs.enter label
  leave label hs ht _ := ⟨hs.leave ht label, trivial⟩
  mute _ _ hs := hs.of_log rfl rfl
  unmute _ _ _ _ _ ht _ := ⟨ht.of_log rfl rfl, trivial⟩
  lend _ hs := hs.of_log rfl rfl
  giveBack _ _ ht _ := ⟨ht.of_log rfl rfl, trivial⟩

/-- The log that a run starts with is shaped. -/
theorem shaped_initialState (session : Option H.Session) (settings : Settings H.Sinks) :
    (H.initialState session settings).Shaped :=
  ⟨.leaf .context "", rfl, rfl⟩

/-- In every state that a run of a composed flow reaches, the indents of the log, its scopes and the
labels of the open scopes agree. So every node is indented by the number of scopes around it whose
labels are not blank, and whatever is attached is moved to depths that are not negative. -/
theorem shaped_of_reached (keeping : k.replacing = false) {c : Flow H α} (hc : c.Composed k)
    (d : Driver H) (env : H.Env) (session : Option H.Session) (settings : Settings H.Sinks)
    (w : H.World) {s : H.State}
    (hs : s ∈ H.initialState session settings ::
      (c.history d env (H.initialState session settings) w).states) :
    s.Shaped ∧
      (∀ labels n, s.log.Encloses labels n → n.indent = Log.depth (s.scopes ++ labels)) ∧
      ∀ t : Log, t.rebase s.log.childIndent = .ok (t.moveTo s.log.childIndent) ∧
        ∀ n ∈ (t.moveTo s.log.childIndent).walk, 0 ≤ n.indent := by
  have hstart := shaped_initialState (H := H) session settings
  have hrun : (c env (H.initialState session settings) w).Lawful (shapeLaw H k) d []
      (H.initialState session settings) :=
    lawful_of_upholds (upholds_of_composed (fun _ _ => trivial) False.elim (.inl keeping) hc)
      (fun _ => trivial) env ⟨hstart, False.elim⟩ w
  have hshaped : s.Shaped := by
    rw [history_eq] at hs
    rcases List.mem_cons.mp hs with rfl | hs
    · exact hstart
    · rcases List.mem_append.mp hs with hevent | hend
      · obtain ⟨e, he, hs⟩ := List.mem_flatMap.mp hevent
        exact hrun.states e he s hs
      · obtain rfl := List.mem_singleton.mp hend
        exact hrun.ends.holds
  exact ⟨hshaped, fun labels n h => hshaped.indent_eq h, fun t => hshaped.rebase_eq_ok t⟩

/-- A line that was written inside a blank scope stands below the named one when that has failed,
and is indented by that one only. -/
theorem shaped_of_reached_failed :
    let kit : Kit := { replacing := false }
    let c : Flow Host.refusing Unit :=
      context "shop" ((context " " (info "open")).andThen (failWith "closed"))
    let run := c.history .blocking () (Host.refusing.initialState none { sinks := () }) (0 : Nat)
    let s := run.outcome.state
    let opened : Log := .node .info "open" 1 []
    kit.replacing = false ∧ c.Composed kit ∧
      s ∈ Host.refusing.initialState none { sinks := () } :: run.states ∧ s.faulted = true ∧
      s.log.Encloses ["shop"] opened ∧ s.Shaped ∧
      opened.indent = Log.depth (s.scopes ++ ["shop"]) := by
  intro kit c run s opened
  have hc : c.Composed kit :=
    .context _ (.andThen (.context _ (.write _ _)) (.failWith _))
  have hs : s ∈ Host.refusing.initialState none { sinks := () } :: run.states :=
    List.mem_cons_of_mem _ (List.mem_append_right _ (List.mem_singleton.mpr rfl))
  have hrun : run = (c () (Host.refusing.initialState none { sinks := () }) (0 : Nat)).history
      .blocking (Host.refusing.initialState none { sinks := () }) := history_eq ..
  have hfaulted : s.faulted = true := by
    simp only [s, hrun]
    rfl
  let shop : Log := .node .context "shop" 0 [opened, .node .error "closed" 1 []]
  have hlog : s.log = .node .context "" 0 [shop] := by
    simp only [s, hrun]
    rfl
  have hshop : shop ∈ s.log.children := by
    rw [hlog]
    exact List.mem_cons_self
  have hopened : s.log.Encloses ["shop"] opened := .deeper hshop (.child List.mem_cons_self)
  obtain ⟨hshaped, hindent, -⟩ :=
    shaped_of_reached rfl hc .blocking () none { sinks := () } (0 : Nat) hs
  exact ⟨rfl, hc, hs, hfaulted, hopened, hshaped, hindent _ _ hopened⟩

end Flow

end Walkthrough
