import Walkthrough.Rehearsal.Reading.Basic

/-!
# Reading expressions

A list whose first item is a word is an expression of that form, with the other items as its
arguments; every other document is the value that it looks like. Which arguments are expressions
themselves depends on the form, so each argument is kept beside what it reads as.
-/

namespace Walkthrough.Rehearsal.Reading

variable {Atom : Type}

/-- What is asked of a state. -/
def stateField (d : Document Atom) : Reading StateField := do
  match ← text d with
  | "errors" => .ok .errors
  | "configuration" => .ok .configuration
  | "context" => .ok .context
  | "muted" => .ok .muted
  | "log" => .ok .log
  | "faulted" => .ok .faulted
  | _ => expected "a field of a state"

/-- What is asked of a failure. -/
def failureField (d : Document Atom) : Reading FailureField := do
  match ← text d with
  | "kind" => .ok .kind
  | "str" => .ok .text
  | "message" => .ok .message
  | "breadcrumb" => .ok .breadcrumb
  | _ => expected "a field of a failure"

/-- What is asked of an element. -/
def elementField (d : Document Atom) : Reading ElementField := do
  match ← text d with
  | "tag" => .ok .tag
  | "text" => .ok .text
  | "id" => .ok .id
  | "selected" => .ok .selected
  | _ => expected "a field of an element"

/-- An argument of an expression, and what it reads as. -/
structure Argument (Atom : Type) where
  written : Document Atom
  expr : Reading Expr

/-- The expression of a form with these arguments. -/
def form (name : String) (arguments : List (Argument Atom)) : Reading Expr := do
  let all : Reading (List Expr) := arguments.mapM Argument.expr
  match name, arguments with
  | "lit", [v] => return .lit (← value v.written)
  | "var", [n] => return .var (← text n.written)
  | "if", [c, a, b] => return .cond (← c.expr) (← a.expr) (← b.expr)
  | "list", _ => return .list (← all)
  | "cat", _ => return .cat (← all)
  | "add", [a, b] => return .add (← a.expr) (← b.expr)
  | "mul", [a, b] => return .mul (← a.expr) (← b.expr)
  | "div", [a, b] => return .div (← a.expr) (← b.expr)
  | "lt", [a, b] => return .lt (← a.expr) (← b.expr)
  | "eq", [a, b] => return .eq (← a.expr) (← b.expr)
  | "not", [a] => return .not (← a.expr)
  | "len", [a] => return .len (← a.expr)
  | "at", [a, i] => return .at (← a.expr) (← i.expr)
  | "get", [m, k] => return .get (← m.expr) (← k.expr)
  | "put", [m, k, v] => return .put (← m.expr) (← k.expr) (← v.expr)
  | "raise", [kind, t] => return .raise (← throwKind kind.written) (← t.expr)
  | "throw", [e] => return .throw (← e.expr)
  | "error", kind :: t :: more => do
    let more ← more.mapM Argument.expr
    return .error (← failureKind kind.written) (← t.expr) more[0]? more[1]?
  | "exc", [kind, t] => return .exc (← text kind.written) (← t.expr)
  | "composite", _ => return .composite (← all)
  | "next", [n] => return .next (← text n.written)
  | "emit", [e] => return .emit (← e.expr)
  | "advance", [s] => return .advance (← number s.written)
  | "seq", _ => return .seq (← all)
  | "state", [s, f] => return .state (← s.expr) (← stateField f.written)
  | "err", [x, f] => return .err (← x.expr) (← failureField f.written)
  | "prop", [x, f] => return .prop (← x.expr) (← elementField f.written)
  | "session", [n] => return .session (← text n.written)
  | _, _ => expected ("an expression instead of " ++ name)

mutual

/-- An expression. -/
def expr : Document Atom → Reading Expr
  | .list (.text name :: rest) => form name (arguments rest)
  | .list _ => expected "an expression"
  | d => (value d).map .lit

/-- The arguments of an expression. -/
def arguments : List (Document Atom) → List (Argument Atom)
  | [] => []
  | d :: ds => ⟨d, expr d⟩ :: arguments ds

end

/-- An expression, or a text for nothing. -/
def exprOr (default : String) : Document Atom → Reading Expr
  | .null => .ok (.lit (.text default))
  | d => expr d

end Walkthrough.Rehearsal.Reading
