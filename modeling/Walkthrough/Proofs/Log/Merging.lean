import Mathlib.Data.List.Basic
import Walkthrough.Proofs.Log.Tree

/-!
# Merging log trees

A log that takes in another one shows its own lines first and those of the other one behind them,
as deep as its children stand. Whether the other one is attached as a node or opened, because it is
a blank scope, cannot be told from the lines: a blank scope shows none and does not indent.

`linesAt` is what a tree shows at some depth when the indents that its nodes keep are not looked at.
`lines_moveTo` says that a tree which was moved shows just that, so the indents of the nodes are
made anew on the whole way down. The two ways in which three logs can be merged differ in when the
nodes are moved, and only the last move counts (`moveTo_moveTo`); that makes a blank scope drop out
of a merge (`withTree_assoc`).

Headline: `merge_concatenates`.
-/

namespace Walkthrough

namespace Log

/-! ## Lines at a depth -/

/-- A node shows its own line and then those of its children. -/
theorem lines_node (kind : LogKind) (message : String) (i : Int) (cs : List Log) :
    (node kind message i cs).lines =
      (if Text.blank message then [] else [(⟨kind, i, message⟩ : LogRecord).render]) ++
        cs.flatMap lines := by
  have hgrow : node kind message i cs = ((leaf kind message).moveTo i).grow cs := rfl
  rw [hgrow, lines_grow, lines_leaf]

mutual

/-- The lines of a tree at an indent, whatever indents its nodes keep. -/
def linesAt (indent : Int) : Log → List String
  | node kind message _ children =>
    (if Text.blank message then [] else [(⟨kind, indent, message⟩ : LogRecord).render]) ++
      allLinesAt (indentBelow kind message indent) children

/-- The lines of several trees at one indent. -/
def allLinesAt (indent : Int) : List Log → List String
  | [] => []
  | l :: ls => linesAt indent l ++ allLinesAt indent ls

end

theorem allLinesAt_eq_flatMap (i : Int) (ls : List Log) :
    allLinesAt i ls = ls.flatMap (linesAt i) := by
  induction ls with
  | nil => rfl
  | cons l ls ih => rw [allLinesAt, ih, List.flatMap_cons]

/-- A tree that was moved shows its lines at the new indent, all the way down. -/
theorem lines_moveTo (i : Int) (l : Log) : (l.moveTo i).lines = l.linesAt i := by
  induction l using Log.induct generalizing i with
  | node kind message _ cs ih =>
    rw [moveTo, lines_node, linesAt, allMoveTo_eq_map, allLinesAt_eq_flatMap, List.flatMap_map]
    exact congrArg _ (List.flatMap_congr fun c hc => ih c hc _)

/-! ## Attaching -/

/-- What is attached shows the lines of the tree at the depth of the children, opened or not. -/
theorem lines_attached (l other : Log) :
    (l.attached other).flatMap lines = (other.moveTo l.childIndent).lines := by
  unfold attached
  split
  · rename_i hopen
    obtain ⟨hblank, -⟩ := Bool.and_eq_true_iff.mp hopen
    obtain ⟨kind, message, i, cs⟩ := other
    have hmessage : Text.blank message = true := hblank
    -- the scope itself shows nothing, and its children stand where it stands
    rw [moveTo, lines_node, if_pos hmessage, List.nil_append, indentBelow_of_blank hmessage,
      allMoveTo_eq_map]
    rfl
  · exact List.flatMap_singleton _ _

theorem lines_withTree (l other : Log) :
    (l.withTree other).lines = l.lines ++ (other.moveTo l.childIndent).lines := by
  rw [withTree_eq_grow, lines_grow, lines_attached]

/-- Only the depth of a tree's children matters for what is attached to it. -/
theorem attached_grow (l other : Log) (cs : List Log) :
    (l.grow cs).attached other = l.attached other := rfl

/-- What is attached to one tree and then moved to the depth of another one's children is what is
attached to that one. -/
theorem map_moveTo_attached (l l' other : Log) :
    (l.attached other).map (moveTo l'.childIndent) = l'.attached other := by
  unfold attached
  split
  · rw [List.map_map]
    exact List.map_congr_left fun c _ => moveTo_moveTo _ _ c
  · rw [List.map_singleton, moveTo_moveTo]

/-- A blank scope drops out of a merge: it may take in a tree before it is attached or leave that to
the log which it is attached to. -/
theorem withTree_assoc (a c : Log) {b : Log} (hkind : b.kind = .context)
    (hblank : b.isBlank = true) :
    (a.withTree b).withTree c = a.withTree (b.withTree c) := by
  have hopened : a.attached (b.grow (b.attached c)) = a.attached b ++ a.attached c := by
    have hgrown : (b.grow (b.attached c)).isBlank = true := hblank
    rw [attached_of_blank (show (b.grow _).kind = .context from hkind) hgrown,
      attached_of_blank hkind hblank, children_grow, List.map_append, map_moveTo_attached]
  calc (a.withTree b).withTree c
    _ = (a.grow (a.attached b)).grow (a.attached c) := by
      rw [withTree_eq_grow, withTree_eq_grow, attached_grow]
    _ = a.grow (a.attached b ++ a.attached c) := grow_grow _ _ _
    _ = a.withTree (b.withTree c) := by
      rw [withTree_eq_grow a, withTree_eq_grow b, hopened]

/-! ## Merging -/

/-- A merged log shows the lines of both, the second ones at the depth of the first one's children,
whatever indents they had. A blank scope may be merged from either side, and of several moves only
the last one counts. None of it is refused at indents that are not negative. -/
theorem merge_concatenates {a b : Log} (ha : 0 ≤ a.indent) (hb : 0 ≤ b.indent) :
    (∃ merged moved, a.merge b = .ok merged ∧ b.rebase a.childIndent = .ok moved ∧
      merged.lines = a.lines ++ moved.lines ∧ moved.lines = b.linesAt a.childIndent) ∧
      (b.kind = .context → b.isBlank = true → ∀ c : Log, ∃ merged,
        (do (← a.merge b).merge c) = Except.ok merged ∧
          (do a.merge (← b.merge c)) = Except.ok merged) ∧
      ∀ (l : Log) (i j : Int), 0 ≤ i → 0 ≤ j → ∃ moved,
        (do (← l.rebase i).rebase j) = Except.ok moved ∧ l.rebase j = .ok moved := by
  have hbelow : 0 ≤ a.childIndent := childIndent_nonneg ha
  refine ⟨⟨_, _, merge_eq_ok hbelow b, rebase_eq_ok hbelow b, lines_withTree a b,
    lines_moveTo _ b⟩, ?associative, ?last⟩
  case associative =>
    intro hkind hblank c
    refine ⟨a.withTree (b.withTree c), ?_, ?_⟩
    · have hgrown : 0 ≤ (a.withTree b).childIndent := by rwa [childIndent_withTree]
      rw [merge_eq_ok hbelow b]
      exact (merge_eq_ok hgrown c).trans (congrArg _ (withTree_assoc a c hkind hblank))
    · rw [merge_eq_ok (childIndent_nonneg hb) c]
      exact merge_eq_ok hbelow (b.withTree c)
  case last =>
    intro l i j hi hj
    refine ⟨l.moveTo j, ?_, rebase_eq_ok hj l⟩
    rw [rebase_eq_ok hi l]
    exact (rebase_eq_ok hj (l.moveTo i)).trans (congrArg _ (moveTo_moveTo i j l))

/-- A blank scope with a scope and another blank scope in it, all at indents of their own, is merged
into a scope that is indented itself. -/
theorem merge_concatenates_blank :
    let a : Log := .node .context "suite" 1 [.node .info "started" 2 []]
    let b : Log := .node .context " " 5 [.node .context "checkout" 3 [.node .warn "slow" 0 []],
      .node .context "\t" 0 [.node .info "paid" 7 []]]
    let c : Log := .node .context "cleanup" 0 [.node .error "stuck" 0 []]
    0 ≤ a.indent ∧ 0 ≤ b.indent ∧ b.kind = .context ∧ b.isBlank = true ∧ (0 : Int) ≤ 3 ∧
      (∃ merged, a.merge b = .ok merged ∧ merged.lines =
        a.lines ++ ["        checkout", "            WARN: slow", "        INFO: paid"]) ∧
      (∃ merged, (do (← a.merge b).merge c) = Except.ok merged ∧
        (do a.merge (← b.merge c)) = Except.ok merged) ∧
      ∃ moved, (do (← b.rebase 3).rebase 0) = Except.ok moved ∧ b.rebase 0 = .ok moved := by
  intro a b c
  have ha : 0 ≤ a.indent := by decide
  have hb : 0 ≤ b.indent := by decide
  have hblank : b.isBlank = true := by decide
  have hlines : b.linesAt a.childIndent =
      ["        checkout", "            WARN: slow", "        INFO: paid"] := by decide
  obtain ⟨⟨merged, moved, hmerged, -, hboth, hmoved⟩, hassoc, hlast⟩ := merge_concatenates ha hb
  refine ⟨ha, hb, rfl, hblank, by decide, ⟨merged, hmerged, ?_⟩, hassoc rfl hblank c,
    hlast b 3 0 (by decide) (by decide)⟩
  rw [hboth, hmoved, hlines]

end Log

end Walkthrough
