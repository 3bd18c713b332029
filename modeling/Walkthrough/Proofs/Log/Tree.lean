import Walkthrough.RunState

/-!
# Growing log trees

Everything that a run does to the log of a scope puts nodes behind its last child: a line is one
such node, and a scope that is closed is one too, or the nodes in it when its label is blank.
`Log.grow` is that one operation, `withChild_eq_grow` and `withTree_eq_grow` say that there is no
other, and `lines_grow` says which lines it adds.

Moving a tree a second time leaves nothing of the first move (`moveTo_moveTo`), so a scope that was
opened at the depth of its parent's children is attached as it stands.
-/

namespace Walkthrough

namespace Log

/-- What holds of a node whenever it holds of its children holds of every tree. -/
@[elab_as_elim]
theorem induct {p : Log → Prop}
    (node : ∀ kind message indent children, (∀ c ∈ children, p c) →
      p (node kind message indent children)) : ∀ l, p l
  | .node kind message indent children =>
    node kind message indent children fun c _ => induct node c

/-- The tree with more children, which stand at their depth already. -/
def grow (l : Log) (cs : List Log) : Log := node l.kind l.message l.indent (l.children ++ cs)

@[simp] theorem kind_grow (l : Log) (cs : List Log) : (l.grow cs).kind = l.kind := rfl

@[simp] theorem message_grow (l : Log) (cs : List Log) : (l.grow cs).message = l.message := rfl

@[simp] theorem indent_grow (l : Log) (cs : List Log) : (l.grow cs).indent = l.indent := rfl

@[simp] theorem children_grow (l : Log) (cs : List Log) :
    (l.grow cs).children = l.children ++ cs := rfl

/-- No more children leave a tree as it is. -/
@[simp] theorem grow_nil (l : Log) : l.grow [] = l := by
  obtain ⟨k, m, i, cs⟩ := l
  simp [grow, kind, message, indent, children]

/-- Children that are added twice stand in the order in which they were added. -/
theorem grow_grow (l : Log) (cs ds : List Log) : (l.grow cs).grow ds = l.grow (cs ++ ds) := by
  simp [grow, kind, message, indent, children]

/-- New children show their lines after those of the tree. -/
theorem lines_grow (l : Log) (cs : List Log) :
    (l.grow cs).lines = l.lines ++ cs.flatMap lines := by
  have hall : ((allWalk cs).filter fun n => !n.isBlank).map line = cs.flatMap lines := by
    rw [allWalk_eq_flatMap, List.filter_flatMap, List.map_flatMap]
    rfl
  obtain ⟨k, m, i, ds⟩ := l
  rw [← hall]
  cases hb : Text.blank m <;>
    simp [lines, grow, walk, kind, message, indent, children, allWalk_append, isBlank, hb, line,
      record]

/-- A node without children shows its own line, unless it is blank. -/
theorem lines_leaf (kind : LogKind) (message : String) (i : Int) :
    ((leaf kind message).moveTo i).lines =
      if Text.blank message then [] else [(⟨kind, i, message⟩ : LogRecord).render] := by
  cases hb : Text.blank message <;>
    simp [lines, leaf, moveTo, allMoveTo, walk, allWalk, isBlank, hb, line, record,
      Log.message, Log.kind, Log.indent]

/-- A node with a blank message does not indent its children. -/
theorem indentBelow_of_blank {message : String} (h : Text.blank message = true) (kind : LogKind)
    (indent : Int) : indentBelow kind message indent = indent := by
  simp [indentBelow, h]

/-! ## Moving -/

/-- Moving a tree moves its children to the depth below it. -/
@[simp] theorem children_moveTo (i : Int) (l : Log) :
    (l.moveTo i).children = l.children.map (moveTo (l.moveTo i).childIndent) := by
  obtain ⟨k, m, j, cs⟩ := l
  rw [moveTo, allMoveTo_eq_map]
  rfl

/-- A tree is what its four fields say. -/
theorem ext_fields {l l' : Log} (hkind : l.kind = l'.kind) (hmessage : l.message = l'.message)
    (hindent : l.indent = l'.indent) (hchildren : l.children = l'.children) : l = l' := by
  obtain ⟨k, m, i, cs⟩ := l
  obtain ⟨k', m', i', cs'⟩ := l'
  cases hkind
  cases hmessage
  cases hindent
  cases hchildren
  rfl

/-- Only the last move counts. -/
theorem moveTo_moveTo (i j : Int) (l : Log) : (l.moveTo i).moveTo j = l.moveTo j := by
  induction l using Log.induct generalizing i j with
  | node k m d cs ih =>
    refine ext_fields rfl rfl rfl ?_
    rw [children_moveTo, children_moveTo, children_moveTo, List.map_map]
    exact List.map_congr_left fun c hc => ih c hc _ _

/-- New children are moved along with the tree. -/
theorem moveTo_grow (i : Int) (l : Log) (cs : List Log) :
    (l.grow cs).moveTo i = (l.moveTo i).grow (cs.map (moveTo (l.moveTo i).childIndent)) := by
  refine ext_fields (by simp) (by simp) (by simp) ?_
  simp [childIndent]

/-! ## Attaching -/

/-- The children that attaching `other` adds: a blank scope is opened. -/
def attached (l other : Log) : List Log :=
  if other.isBlank && other.kind = .context then other.children.map (moveTo l.childIndent)
  else [other.moveTo l.childIndent]

/-- A blank scope is opened: its children are attached in its place. -/
theorem attached_of_blank {l other : Log} (hkind : other.kind = .context)
    (hblank : other.isBlank = true) :
    l.attached other = other.children.map (moveTo l.childIndent) := by
  rw [attached, hblank, hkind]
  rfl

/-- Any tree that shows a line is attached as it is. -/
theorem attached_of_solid {l other : Log} (hsolid : other.isBlank = false) :
    l.attached other = [other.moveTo l.childIndent] := by
  rw [attached, hsolid]
  rfl

/-- Attaching a child adds it at the end, at its depth. -/
theorem withChild_eq_grow (l child : Log) :
    l.withChild child = l.grow [child.moveTo l.childIndent] := rfl

/-- Attaching several children adds them all, since the depth below a tree does not change. -/
theorem foldl_withChild_eq_grow (cs : List Log) (l : Log) :
    cs.foldl withChild l = l.grow (cs.map (moveTo l.childIndent)) := by
  induction cs generalizing l with
  | nil => exact (grow_nil l).symm
  | cons c cs ih =>
    rw [List.foldl_cons, ih, withChild_eq_grow, grow_grow]
    rfl

/-- Attaching a tree adds what is attached of it, so every change of a log is more children. -/
theorem withTree_eq_grow (l other : Log) : l.withTree other = l.grow (l.attached other) := by
  unfold withTree attached
  split
  · exact foldl_withChild_eq_grow other.children l
  · exact withChild_eq_grow l other

/-- Everything that is attached stands at the depth of the children. -/
theorem moveTo_attached {l other c : Log} (hc : c ∈ l.attached other) :
    c.moveTo l.childIndent = c := by
  unfold attached at hc
  split at hc
  · obtain ⟨d, -, rfl⟩ := List.mem_map.mp hc
    exact moveTo_moveTo _ _ d
  · obtain rfl := List.mem_singleton.mp hc
    exact moveTo_moveTo _ _ other

end Log

end Walkthrough
