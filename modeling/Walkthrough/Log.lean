import Walkthrough.Failure

/-!
# Log trees

A run writes its log as a tree. A scope (a node of kind `context`) indents its children one level
deeper, unless its message is blank: the root of a run is such a blank scope, which shows no line.
Every node keeps its own indent; attaching a subtree moves it to the depth of its new parent.

Attaching a tree is refused only where the parent stands at a negative depth (`add_eq_ok`,
`merge_eq_ok`), and attaching a child adds its lines at the end (`lines_add`).

Mirroring notes:
- `Log`, `LogKind` and `LogRecord` have their names, and so have the methods; `moveTo` is `rebase`
  without its check, and `addAll` is the loop in `merge`.
- `rebase` refuses a negative indent (`LogError.negativeIndent`), so `add`, `append` and `merge` may
  be refused. `withChild` and `withTree` are `add` and `merge` where they are not; a state of a run
  uses those.
- A record has no time of its own: nothing in a run reads it.
-/

namespace Walkthrough

/-- The kinds of log nodes. -/
inductive LogKind where
  | context
  | info
  | warn
  | error
  deriving DecidableEq, Repr, Inhabited

namespace LogKind

/-- The word for a kind. -/
def name : LogKind → String
  | context => "context"
  | info => "info"
  | warn => "warn"
  | error => "error"

/-- All kinds. -/
def all : List LogKind := [context, info, warn, error]

/-- The kind with the given word. -/
def ofName? (s : String) : Option LogKind := all.find? fun k => k.name == s

/-- What stands in front of the message of a line of this kind. -/
def tag : LogKind → String
  | context => ""
  | info => "INFO: "
  | warn => "WARN: "
  | error => "ERRO: "

/-- What is said about a word that is no kind. -/
def unknown (s : String) : String := Text.quote s ++ " is not a valid LogKind"

theorem ofName?_name (k : LogKind) : ofName? k.name = some k := by cases k <;> decide

end LogKind

/-- The indentation of a line at some depth; negative depths have none. -/
def indentation (indent : Int) : String := String.join (List.replicate indent.toNat "    ")

/-- One line of the log, as it is handed on when it is written. -/
structure LogRecord where
  kind : LogKind
  indent : Int
  message : String
  deriving DecidableEq, Repr

/-- The line that a record shows. -/
def LogRecord.render (r : LogRecord) : String := indentation r.indent ++ r.kind.tag ++ r.message

/-- A log tree. -/
inductive Log where
  | node (kind : LogKind) (message : String) (indent : Int) (children : List Log)
  deriving Repr, Inhabited

/-- Why a log tree cannot be changed as asked. -/
inductive LogError where
  | negativeIndent
  deriving DecidableEq, Repr

/-- The wording of a `LogError`. -/
def LogError.message : LogError → String
  | .negativeIndent => "indent must be non-negative"

namespace Log

/-- The log that a run starts with. -/
def empty : Log := node .context "" 0 []

/-- A node without children, at the left margin. -/
def leaf (kind : LogKind) (message : String) : Log := node kind message 0 []

def kind : Log → LogKind
  | node kind _ _ _ => kind

def message : Log → String
  | node _ message _ _ => message

def indent : Log → Int
  | node _ _ indent _ => indent

def children : Log → List Log
  | node _ _ _ children => children

/-- A node with a blank message shows no line. -/
def isBlank (l : Log) : Bool := Text.blank l.message

/-- The indent of the children of a node of this kind, message and indent. -/
def indentBelow (kind : LogKind) (message : String) (indent : Int) : Int :=
  if kind = .context && !Text.blank message then indent + 1 else indent

/-- The indent of the node's children. -/
def childIndent (l : Log) : Int := indentBelow l.kind l.message l.indent

mutual

/-- The tree moved to an indent. -/
def moveTo (indent : Int) : Log → Log
  | node kind message _ children =>
    node kind message indent (allMoveTo (indentBelow kind message indent) children)

/-- Several trees moved to one indent. -/
def allMoveTo (indent : Int) : List Log → List Log
  | [] => []
  | l :: ls => moveTo indent l :: allMoveTo indent ls

end

/-- The tree moved to an indent, which must not be negative. -/
def rebase (indent : Int) (l : Log) : Except LogError Log :=
  if indent < 0 then .error .negativeIndent else .ok (l.moveTo indent)

/-- Attaches `child` as the last child. The results are the new tree and the child as it stands
in it. -/
def add (l child : Log) : Except LogError (Log × Log) :=
  match child.rebase l.childIndent with
  | .error e => .error e
  | .ok added => .ok (node l.kind l.message l.indent (l.children ++ [added]), added)

/-- Attaches a new line as the last child. -/
def append (l : Log) (kind : LogKind) (message : String) : Except LogError (Log × Log) :=
  l.add (leaf kind message)

/-- Attaches several trees, one after the other. -/
def addAll (l : Log) : List Log → Except LogError Log
  | [] => .ok l
  | c :: cs =>
    match l.add c with
    | .error e => .error e
    | .ok (grown, _) => grown.addAll cs

/-- Attaches a tree. A blank scope is opened: its children are attached in its place. -/
def merge (l other : Log) : Except LogError Log :=
  if other.isBlank && other.kind = .context then l.addAll other.children
  else (l.add other).map Prod.fst

/-- The tree with one more child, moved to the depth of the children. -/
def withChild (l child : Log) : Log :=
  node l.kind l.message l.indent (l.children ++ [child.moveTo l.childIndent])

/-- The tree with another one attached, a blank scope opened. -/
def withTree (l other : Log) : Log :=
  if other.isBlank && other.kind = .context then other.children.foldl withChild l
  else l.withChild other

mutual

/-- The nodes of the tree, each before its children. -/
def walk : Log → List Log
  | node kind message indent children => node kind message indent children :: allWalk children

/-- The nodes of several trees. -/
def allWalk : List Log → List Log
  | [] => []
  | l :: ls => walk l ++ allWalk ls

end

/-- The node as a record. -/
def record (l : Log) : LogRecord := ⟨l.kind, l.indent, l.message⟩

/-- The node as a record for others, which takes no negative indent; what is refused is named. -/
def toRecord (l : Log) : Except String LogRecord :=
  if l.indent < 0 then .error "indent:greater_than_equal" else .ok l.record

/-- The line that a node shows; a scope shows no tag. -/
def line (l : Log) : String := l.record.render

/-- The lines of a tree, blank nodes left out. -/
def lines (l : Log) : List String := (l.walk.filter fun n => !n.isBlank).map line

/-- The lines of a tree as one text. -/
def render (l : Log) : String := String.intercalate "\n" l.lines

mutual

/-- Whether two trees are equal. -/
def same : Log → Log → Bool
  | node k m i cs, node k' m' i' cs' => k == k' && m == m' && i == i' && allSame cs cs'

/-- Whether two lists of trees are equal. -/
def allSame : List Log → List Log → Bool
  | [], [] => true
  | l :: ls, l' :: ls' => same l l' && allSame ls ls'
  | _, _ => false

end

/-! ## Laws -/

theorem allMoveTo_eq_map (i : Int) (ls : List Log) : allMoveTo i ls = ls.map (moveTo i) := by
  induction ls with
  | nil => rfl
  | cons l ls ih => simp [allMoveTo, ih]

theorem allWalk_eq_flatMap (ls : List Log) : allWalk ls = ls.flatMap walk := by
  induction ls with
  | nil => rfl
  | cons l ls ih => simp [allWalk, ih]

theorem allWalk_append (ls ms : List Log) : allWalk (ls ++ ms) = allWalk ls ++ allWalk ms := by
  simp [allWalk_eq_flatMap]

@[simp] theorem kind_moveTo (i : Int) (l : Log) : (l.moveTo i).kind = l.kind := by
  cases l; rfl

@[simp] theorem message_moveTo (i : Int) (l : Log) : (l.moveTo i).message = l.message := by
  cases l; rfl

@[simp] theorem indent_moveTo (i : Int) (l : Log) : (l.moveTo i).indent = i := by
  cases l; rfl

/-! What `rebase`, `append` and `merge` refuse is a negative depth, and nothing else. -/

theorem rebase_eq_ok {i : Int} (h : 0 ≤ i) (l : Log) : l.rebase i = .ok (l.moveTo i) := by
  unfold rebase
  rw [if_neg (by omega)]

theorem add_eq_ok {l : Log} (h : 0 ≤ l.childIndent) (child : Log) :
    l.add child = .ok (l.withChild child, child.moveTo l.childIndent) := by
  unfold add
  rw [rebase_eq_ok h]
  rfl

theorem append_eq_ok {l : Log} (h : 0 ≤ l.childIndent) (kind : LogKind) (message : String) :
    l.append kind message =
      .ok (l.withChild (leaf kind message), (leaf kind message).moveTo l.childIndent) :=
  add_eq_ok h _

@[simp] theorem childIndent_withChild (l child : Log) :
    (l.withChild child).childIndent = l.childIndent := rfl

theorem childIndent_foldl_withChild (cs : List Log) (l : Log) :
    (cs.foldl withChild l).childIndent = l.childIndent := by
  induction cs generalizing l with
  | nil => rfl
  | cons c cs ih => exact ih (l.withChild c)

@[simp] theorem childIndent_withTree (l other : Log) :
    (l.withTree other).childIndent = l.childIndent := by
  unfold withTree
  split
  · exact childIndent_foldl_withChild other.children l
  · exact childIndent_withChild l other

theorem addAll_eq_ok (cs : List Log) {l : Log} (h : 0 ≤ l.childIndent) :
    l.addAll cs = .ok (cs.foldl withChild l) := by
  induction cs generalizing l with
  | nil => rfl
  | cons c cs ih =>
    unfold addAll
    rw [add_eq_ok h]
    exact ih h

theorem merge_eq_ok {l : Log} (h : 0 ≤ l.childIndent) (other : Log) :
    l.merge other = .ok (l.withTree other) := by
  unfold merge withTree
  split
  · exact addAll_eq_ok other.children h
  · rw [add_eq_ok h]
    rfl

theorem childIndent_empty_nonneg : 0 ≤ empty.childIndent := by decide

/-- The children of a tree that is not left of the margin are not left of it either. -/
theorem childIndent_nonneg {l : Log} (h : 0 ≤ l.indent) : 0 ≤ l.childIndent := by
  unfold childIndent indentBelow
  split <;> omega

/-- A scope stands as deep as its parent's children, and so do its own children, or deeper. -/
theorem childIndent_moveTo_nonneg {i : Int} (h : 0 ≤ i) (l : Log) :
    0 ≤ (l.moveTo i).childIndent :=
  childIndent_nonneg (by rwa [indent_moveTo])

theorem walk_eq (l : Log) : l.walk = l :: allWalk l.children := by cases l; rfl

/-- Attaching a child adds its nodes at the end. -/
theorem walk_add {l child grown added : Log} (h : l.add child = .ok (grown, added)) :
    grown.walk = grown :: (l.walk.tail ++ added.walk) := by
  unfold add at h
  cases hr : child.rebase l.childIndent with
  | error e => simp [hr] at h
  | ok a =>
    simp only [hr, Except.ok.injEq, Prod.mk.injEq] at h
    obtain ⟨rfl, rfl⟩ := h
    simp [walk_eq, children, allWalk_append, allWalk]

/-- Attaching a child adds its lines at the end. -/
theorem lines_add {l child grown added : Log} (h : l.add child = .ok (grown, added)) :
    grown.lines = l.lines ++ added.lines := by
  unfold add at h
  cases hr : child.rebase l.childIndent with
  | error e => simp [hr] at h
  | ok a =>
    simp only [hr, Except.ok.injEq, Prod.mk.injEq] at h
    obtain ⟨rfl, rfl⟩ := h
    obtain ⟨k, m, i, cs⟩ := l
    cases hb : Text.blank m <;>
      simp [lines, walk, kind, message, indent, children, allWalk_append, allWalk, isBlank, hb,
        line, record]

end Log

end Walkthrough
