import Walkthrough.Failure

/-!
# Targets

A target says which flow is meant: the name of a module and the name of something in it, with a
colon between them. Modules are nested by the dots in their names, and a module is looked for only
when the one around it is there.

Mirroring notes:
- `Target.ofText?` is the first half of `load_flow`. Importing a module is to look it up among those
  that are known (`missing?`); what is found there is the part of `Rehearsal/Catalogue`.
-/

namespace Walkthrough

/-- Where a flow is looked for. -/
structure Target where
  module : String
  name : String
  deriving DecidableEq, Repr

/-- Why a target names no flow. -/
inductive TargetError where
  /-- The text is not a module and a name. -/
  | malformed (text : String)
  /-- The name of the module begins with a dot, but there is no module to begin at. -/
  | nowhere
  /-- A module is missing; `around` is the module around it, if that one is there. -/
  | noModule (module missing : String) (around : Option String)
  | noName (target : Target)
  /-- What the target names is no flow. -/
  | noFlow (target : Target)
  deriving DecidableEq, Repr

namespace Target

/-- A target as a text. -/
def text (t : Target) : String := t.module ++ ":" ++ t.name

/-- The target that a text stands for. -/
def ofText? (s : String) : Except TargetError Target :=
  let cs := s.toList
  let module := String.ofList (cs.takeWhile (· ≠ ':'))
  let name := String.ofList ((cs.dropWhile (· ≠ ':')).drop 1)
  if module.isEmpty || name.isEmpty then .error (.malformed s) else .ok ⟨module, name⟩

/-- A module and the modules around it, the innermost first; `before` holds the name up to here in
reverse. -/
def nesting (before : List Char) : List Char → List String
  | [] => [String.ofList before.reverse]
  | '.' :: rest => nesting ('.' :: before) rest ++ [String.ofList before.reverse]
  | c :: rest => nesting (c :: before) rest

/-- What is missing for a module to be there. -/
def missing? (known : String → Bool) (module : String) : Option TargetError :=
  if known module then none
  else
    match module.toList with
    | '.' :: _ => some .nowhere
    | cs =>
      let chain := nesting [] cs
      let unknown := chain.takeWhile fun m => !known m
      some (.noModule module (unknown.getLast?.getD module) (chain[unknown.length]?))

end Target

namespace TargetError

/-- The name of an error as it is seen from outside. -/
def name : TargetError → String
  | nowhere => "TypeError"
  | _ => "BadParameter"

/-- The wording of an error. -/
def message : TargetError → String
  | malformed s => "Expected MODULE:ATTRIBUTE, got " ++ Text.quote s
  | nowhere => "a module around this one is needed"
  | noModule module missing around =>
    let reason :=
      match around with
      | some m => "; " ++ Text.quote m ++ " is not a package"
      | none => ""
    "Cannot import " ++ module ++ ": No module named " ++ Text.quote missing ++ reason
  | noName t => t.module ++ " has no attribute " ++ t.name
  | noFlow t => t.text ++ " is not a flow"

/-- An error as it is seen from outside. -/
def toFault (e : TargetError) : Fault := ⟨e.name, e.message⟩

end TargetError

/-! ## Laws -/

/-- What is left from a colon on begins with it. -/
theorem Target.colon_cons_drop {cs : List Char} (h : (cs.dropWhile (· ≠ ':')).drop 1 ≠ []) :
    ':' :: (cs.dropWhile (· ≠ ':')).drop 1 = cs.dropWhile (· ≠ ':') := by
  induction cs with
  | nil => simp at h
  | cons c rest ih =>
    by_cases hc : c = ':'
    · simp [hc]
    · simp only [List.dropWhile_cons, hc, ne_eq, not_false_eq_true, decide_true, if_true] at h ⊢
      exact ih h

/-- A target that was read is written as the text that it was read from. -/
theorem Target.text_of_ofText? {s : String} {t : Target} (h : ofText? s = .ok t) : t.text = s := by
  unfold ofText? at h
  simp only at h
  split at h
  · simp at h
  · rename_i hne
    simp only [Except.ok.injEq] at h
    subst h
    have hd : (s.toList.dropWhile (· ≠ ':')).drop 1 ≠ [] := by
      intro e
      rw [e] at hne
      simp at hne
    apply String.toList_injective
    have hsplit := List.takeWhile_append_dropWhile (p := fun c => decide (c ≠ ':')) (l := s.toList)
    rw [← Target.colon_cons_drop hd] at hsplit
    simpa [text] using hsplit

end Walkthrough
