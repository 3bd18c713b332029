import Walkthrough.Document
import Walkthrough.Settings

/-!
# Problems of settings

What is wrong with a document that was to be read as settings. Reading goes on after a problem, so
that all problems are told at once: a `Checked` value is a value or a list of problems, and
`Checked.both` keeps the problems of two readings.
-/

namespace Walkthrough

/-- What a settings document may hold besides plain data. -/
inductive Extra where
  /-- An exact duration. -/
  | duration (d : Duration)
  /-- A number that is infinite, or no number at all. -/
  | notFinite
  /-- Something that no field takes, such as a date. -/
  | foreign
  deriving DecidableEq, Repr, Inhabited

/-- A document that settings are read from. -/
abbrev SettingsDocument : Type := Document Extra

/-- The kinds of problems. -/
inductive ProblemKind where
  | durationText
  | durationType
  | boolText
  | boolType
  | intText
  | intType
  | intFraction
  | finiteNumber
  | realText
  | realType
  | choice
  | callable
  | instanceOf
  | map
  | missing
  | textType
  | tooSmall
  deriving DecidableEq, Repr

/-- The word for a kind of problem. -/
def ProblemKind.word : ProblemKind → String
  | durationText => "time_delta_parsing"
  | durationType => "time_delta_type"
  | boolText => "bool_parsing"
  | boolType => "bool_type"
  | intText => "int_parsing"
  | intType => "int_type"
  | intFraction => "int_from_float"
  | finiteNumber => "finite_number"
  | realText => "float_parsing"
  | realType => "float_type"
  | choice => "enum"
  | callable => "callable_type"
  | instanceOf => "is_instance_of"
  | map => "model_type"
  | missing => "missing"
  | textType => "string_type"
  | tooSmall => "greater_than_equal"

/-- A problem, and the path of keys to it. -/
structure Problem where
  path : List String
  kind : ProblemKind
  deriving DecidableEq, Repr

/-- The path and the word for the kind of a problem. -/
def Problem.shown (p : Problem) : String := String.intercalate "." p.path ++ ":" ++ p.kind.word

/-- Problems in the order of their texts. -/
def Problem.report (problems : List Problem) : String :=
  String.intercalate "; " ((problems.map shown).mergeSort fun a b => decide (a ≤ b))

/-- A value, or what is wrong with what it was to be read from. -/
abbrev Checked (α : Type) : Type := Except (List Problem) α

namespace Checked

variable {α β γ : Type}

/-- A reading with one problem, which is right here. -/
def problem (kind : ProblemKind) : Checked α := .error [⟨[], kind⟩]

/-- The problems of a reading are found below a key. -/
def at_ (key : String) : Checked α → Checked α
  | .ok a => .ok a
  | .error ps => .error (ps.map fun p => { p with path := key :: p.path })

/-- Two readings: both values, or the problems of both. -/
def both (f : α → β → γ) : Checked α → Checked β → Checked γ
  | .ok a, .ok b => .ok (f a b)
  | .ok _, .error ps => .error ps
  | .error ps, .ok _ => .error ps
  | .error ps, .error qs => .error (ps ++ qs)

/-- Applies what one reading gives to what another one gives. -/
def apply (f : Checked (α → β)) (a : Checked α) : Checked β := both (fun f a => f a) f a

/-- Two readings succeed together exactly when each of them does. -/
theorem both_eq_ok_iff {f : α → β → γ} {a : Checked α} {b : Checked β} {c : γ} :
    both f a b = .ok c ↔ ∃ x y, a = .ok x ∧ b = .ok y ∧ f x y = c := by
  cases a <;> cases b <;> simp [both]

end Checked

end Walkthrough
