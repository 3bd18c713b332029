import Walkthrough.Rehearsal.World

/-!
# Expressions of a rehearsal

What the functions inside a rehearsed flow compute. Arguments are evaluated from left to right, and
an expression may count, write to the trace, move the clock, or throw.
-/

namespace Walkthrough.Rehearsal

/-- Kinds of things that can be thrown: failures by kind, and faults by name. -/
inductive ThrowKind where
  | failure (kind : FailureKind)
  | fault (name : String)
  deriving DecidableEq, Repr

/-- What throwing a text as this kind throws. -/
def ThrowKind.make (kind : ThrowKind) (text : String) : Thrown :=
  match kind with
  | .failure k => .failure (.ofMessage k text)
  | .fault name => .fault ⟨name, text⟩

/-- What is asked of a state. -/
inductive StateField where
  | errors
  | configuration
  | context
  | muted
  | log
  | faulted

/-- What is asked of a failure. -/
inductive FailureField where
  | kind
  | text
  | message
  | breadcrumb

/-- What is asked of an element without its session. -/
inductive ElementField where
  | tag
  | text
  | id
  | selected

/-- An expression. -/
inductive Expr where
  | lit (v : Value)
  | var (name : String)
  | cond (c a b : Expr)
  | list (items : List Expr)
  | cat (items : List Expr)
  | add (a b : Expr)
  | mul (a b : Expr)
  | div (a b : Expr)
  | lt (a b : Expr)
  | eq (a b : Expr)
  | not (a : Expr)
  | len (a : Expr)
  | at (items index : Expr)
  | get (entries key : Expr)
  | put (entries key value : Expr)
  | raise (kind : ThrowKind) (text : Expr)
  | throw (e : Expr)
  | error (kind : FailureKind) (text : Expr) (breadcrumb cause : Option Expr)
  | exc (name : String) (text : Expr)
  | composite (items : List Expr)
  | next (counter : String)
  | emit (a : Expr)
  | advance (seconds : Rat)
  | seq (items : List Expr)
  | state (a : Expr) (field : StateField)
  | err (a : Expr) (field : FailureField)
  | prop (a : Expr) (field : ElementField)
  | session (name : String)
  deriving Inhabited

/-- The variables in scope, the innermost first. -/
abbrev Scope : Type := List (String × Value)

/-- A fault of a wrong value. -/
def valueError (text : String) : Thrown := .fault ⟨"ValueError", text⟩

/-- What is thrown by an operation on values that it does not take. -/
def badOperand : Thrown := valueError "bad operand"

/-- What is thrown when something is looked up that is not there. -/
def lookupError (text : String) : Thrown := .fault ⟨"LookupError", text⟩

namespace Value

/-- The sum of two numbers, or two texts or lists side by side. -/
def add : Value → Value → Except Thrown Value
  | int a, int b => .ok (int (a + b))
  | text a, text b => .ok (text (a ++ b))
  | list a, list b => .ok (list (a ++ b))
  | _, _ => .error badOperand

/-- The product of two numbers. -/
def mul : Value → Value → Except Thrown Value
  | int a, int b => .ok (int (a * b))
  | _, _ => .error badOperand

/-- The quotient of two numbers, rounded down. -/
def div : Value → Value → Except Thrown Value
  | int a, int b => if b = 0 then .error (valueError "division by zero") else .ok (int (a.fdiv b))
  | _, _ => .error badOperand

/-- Whether one number is less than another. -/
def lt : Value → Value → Except Thrown Value
  | int a, int b => .ok (bool (a < b))
  | _, _ => .error badOperand

/-- How many characters, items or entries there are. -/
def len : Value → Except Thrown Value
  | text s => .ok (int s.length)
  | list items => .ok (int items.length)
  | map entries => .ok (int entries.length)
  | _ => .error badOperand

/-- An item of a list. -/
def item : Value → Value → Except Thrown Value
  | list items, int i =>
    if i < 0 then .error (lookupError "no item")
    else
      match items[i.toNat]? with
      | some v => .ok v
      | none => .error (lookupError "no item")
  | _, _ => .error badOperand

/-- The value of a key. -/
def entry (entries key : Value) : Except Thrown Value :=
  let missing := .error (lookupError ("no key " ++ (key.plainText?.getD key.shown)))
  match entries, key with
  | map entries, text k =>
    match entries.lookup k with
    | some v => .ok v
    | none => missing
  | _, _ => missing

/-- A map with a key set. -/
def put : Value → Value → Value → Except Thrown Value
  | map entries, text k, v => .ok (map (Keyed.put k v entries))
  | _, _, _ => .error badOperand

/-- The failure that a value is. -/
def toFailure : Value → Except Thrown Failure
  | failure f => .ok f
  | _ => .error badOperand

/-- The text that a value is. -/
def toText : Value → Except Thrown String
  | text s => .ok s
  | _ => .error badOperand

/-- The texts of a list. -/
def toTexts : Value → Except Thrown (List String)
  | list items => items.mapM toText
  | _ => .error badOperand

/-- The texts of values one after the other. -/
def concat (items : List Value) : Except Thrown Value :=
  match items.mapM plainText? with
  | some texts => .ok (text (String.join texts))
  | none => .error badOperand

/-- What a value is when it is the cause of a failure. -/
def toCause : Value → Option Fault
  | fault f => some f
  | failure f => some (Thrown.failure f).toFault
  | _ => none

/-- A property of a state. -/
def ofState (s : State) : StateField → Value
  | .errors => list (s.failures.map failure)
  | .configuration => map (s.configuration.map fun (k, v) => (k, text v))
  | .context => list (s.scopes.map text)
  | .muted => bool s.muted
  | .log => list (s.log.lines.map text)
  | .faulted => bool s.faulted

/-- A property of a failure. -/
def ofFailure (f : Failure) : FailureField → Value
  | .kind => text f.kindName
  | .text => text f.text
  | .message => text f.message
  | .breadcrumb => list (f.breadcrumb.map text)

/-- A property of an element. -/
def ofElement (e : ElementPlan) : ElementField → Value
  | .tag => text e.tag
  | .text => text e.headText
  | .id => text e.id
  | .selected => bool e.selected

end Value

/-- Gives a value or throws. -/
def Code.of {α : Type} (r : Except Thrown α) : Code α := fun w => (r, w)

/-- The value of a variable. -/
def Scope.get (scope : Scope) (name : String) : Except Thrown Value :=
  match scope.lookup name with
  | some v => .ok v
  | none => .error (lookupError ("no variable " ++ name))

mutual

/-- The value of an expression. -/
def Expr.eval (scope : Scope) : Expr → Code Value
  | .lit v => Act.ok v
  | .var name => Code.of (scope.get name)
  | .cond c a b => (c.eval scope).andThen fun v => if v.truthy then a.eval scope else b.eval scope
  | .list items => (Expr.evalAll scope items).map .list
  | .cat items => (Expr.evalAll scope items).andThen fun vs => Code.of (Value.concat vs)
  | .add a b => (a.eval scope).andThen fun x => (b.eval scope).andThen fun y => Code.of (x.add y)
  | .mul a b => (a.eval scope).andThen fun x => (b.eval scope).andThen fun y => Code.of (x.mul y)
  | .div a b => (a.eval scope).andThen fun x => (b.eval scope).andThen fun y => Code.of (x.div y)
  | .lt a b => (a.eval scope).andThen fun x => (b.eval scope).andThen fun y => Code.of (x.lt y)
  | .eq a b =>
    (a.eval scope).andThen fun x => (b.eval scope).andThen fun y => Act.ok (.bool (x.same y))
  | .not a => (a.eval scope).map fun x => .bool !x.truthy
  | .len a => (a.eval scope).andThen fun x => Code.of x.len
  | .at items index =>
    (items.eval scope).andThen fun x => (index.eval scope).andThen fun i => Code.of (x.item i)
  | .get entries key =>
    (entries.eval scope).andThen fun x => (key.eval scope).andThen fun k => Code.of (x.entry k)
  | .put entries key value =>
    (entries.eval scope).andThen fun x =>
      (key.eval scope).andThen fun k =>
        (value.eval scope).andThen fun v => Code.of (x.put k v)
  | .raise kind text =>
    (text.eval scope).andThen fun t =>
      Code.of (t.toText.bind fun s => .error (kind.make s))
  | .throw e =>
    (e.eval scope).andThen fun v => Code.of (v.toFailure.bind fun f => .error (.failure f))
  | .error kind text breadcrumb cause =>
    (text.eval scope).andThen fun t =>
      (Expr.evalOption scope breadcrumb).andThen fun b =>
        (Expr.evalOption scope cause).andThen fun c =>
          Code.of (do
            let message ← t.toText
            let path ←
              match b with
              | .null => .ok []
              | b => b.toTexts
            .ok (.failure (.single kind message path c.toCause)))
  | .exc name text =>
    (text.eval scope).andThen fun t => Code.of (t.toText.map fun s => .fault ⟨name, s⟩)
  | .composite items =>
    (Expr.evalAll scope items).andThen fun vs =>
      Code.of ((vs.mapM Value.toFailure).map fun fs => .failure (.collected fs))
  | .next counter => fun w =>
    let (n, w) := w.count counter
    (.ok (.int n), w)
  | .emit a =>
    (a.eval scope).andThen fun v => fun w => (.ok v, w.happen (.emit v))
  | .advance seconds => fun w => (.ok .null, w.advance seconds)
  | .seq items => (Expr.evalAll scope items).map fun vs => vs.getLast?.getD .null
  | .state a field =>
    (a.eval scope).andThen fun v =>
      Code.of (match v with
        | .state s => .ok (.ofState s field)
        | _ => .error badOperand)
  | .err a field =>
    (a.eval scope).andThen fun v =>
      Code.of (match v with
        | .failure f => .ok (.ofFailure f field)
        | _ => .error badOperand)
  | .prop a field =>
    (a.eval scope).andThen fun v => fun w =>
      match v with
      | .element e => (.ok (.ofElement ((w.page e.session).element e.number) field), w)
      | _ => (.error badOperand, w)
  | .session name => Act.ok (.session name)

/-- The values of several expressions, from left to right. -/
def Expr.evalAll (scope : Scope) : List Expr → Code (List Value)
  | [] => Act.ok []
  | e :: es =>
    (e.eval scope).andThen fun v => (Expr.evalAll scope es).andThen fun vs => Act.ok (v :: vs)

/-- The value of an expression that may be missing. -/
def Expr.evalOption (scope : Scope) : Option Expr → Code Value
  | none => Act.ok .null
  | some e => e.eval scope

end

end Walkthrough.Rehearsal
