import Walkthrough.Proofs.Settings.Leaves
import Walkthrough.Settings.Library

/-!
# What is asked of a library for settings

Loading is proved for any library that settings may be declared with, as long as it does what such a
library says of itself:

- A variable gives a leaf by its name, in capitals or not. The variable of the browser holds a map,
  and a field of the browser has a variable of its own, which counts more than the map
  (`Environment.leaf?`).
- The settings that are made hold each leaf as the first of the arguments, the environment and the
  file of variables that sets it says, and the default of the leaf when none does; a live object
  that was given is kept (`SettingsLibrary.MergesDeeply.construct`).
- What is written out is read back (`SettingsLibrary.MergesDeeply.dump`).

How a file of variables is split into variables, how a map is read from a text, and how the value of
a leaf is read from a document is left to the library (`SettingsReaders`). That no leaf is read from
a map is all that is asked of the last of these.
-/

namespace Walkthrough

open Document (WellShaped)

/-! ## What variables say -/

namespace Environment

/-- The value that is given for a name in small letters; of several variables whose names differ in
capitals the last counts. -/
def given? (vs : Variables) (name : String) : Option (Option String) :=
  (vs.reverse.find? fun v => v.1.map Char.toLower == name).map Prod.snd

/-- The name of the variable of a field of the browser. -/
def fieldVariable (f : BrowserField) : String :=
  mark ++ "browser" ++ String.ofList separator ++ f.key

/-- What the variable with a name says. -/
def plainly (vs : Variables) (key : String) : Option SettingsDocument :=
  (given? vs (mark ++ key)).join.map .text

/-- What variables say of a leaf, where `json` reads the map that the variable of the browser
holds. -/
def leaf? (json : String → Option SettingsDocument) (vs : Variables) :
    Leaf → Option SettingsDocument
  | .wait => plainly vs "wait"
  | .interval => plainly vs "interval"
  | .disposeOnCompletion => plainly vs "dispose_on_completion"
  | .browser f =>
    match given? vs (fieldVariable f) with
    | some value => some (valueOf value)
    | none => ((given? vs (mark ++ "browser")).join.bind json).bind (·.find? [f.key])

/-- The variable of the browser, if there is one, holds a map with the fields in small letters, and
no variable goes deeper than a field. -/
structure Recognised (json : String → Option SettingsDocument) (vs : Variables) : Prop where
  browser : ∀ text, given? vs (mark ++ "browser") = some (some text) →
    ∃ fields, json text = some (.map fields) ∧
      ∀ f : BrowserField, ∀ key ∈ Keyed.keys fields, key.map Char.toLower = f.key → key = f.key
  flat : ∀ v ∈ vs, ∀ f : BrowserField,
    ¬ (fieldVariable f).toList ++ separator <+: (v.1.map Char.toLower).toList

/-- A short name goes no deeper than a field. -/
theorem flat_of_short {vs : Variables} (h : ∀ v ∈ vs, v.1.length < 30) :
    ∀ v ∈ vs, ∀ f : BrowserField,
      ¬ (fieldVariable f).toList ++ separator <+: (v.1.map Char.toLower).toList := by
  intro v hv f hprefix
  have hshort : v.1.length < 30 := h v hv
  have hfield : 28 ≤ (fieldVariable f).length := by cases f <;> decide +kernel
  have hlong : (fieldVariable f).length + 2 ≤ v.1.length := by
    simpa [separator, String.length_toList] using hprefix.length_le
  omega

end Environment

/-! ## What a library reads -/

/-- How a library reads texts and documents. -/
structure SettingsReaders where
  /-- The variables of a file, whose values may refer to the environment. -/
  dotenv : (environment : List (String × String)) → (text : String) → Environment.Variables
  /-- The document that a text in JSON holds. -/
  json : String → Option SettingsDocument
  /-- The value of a leaf. -/
  leaf : (l : Leaf) → SettingsDocument → Option l.Value

namespace SettingsReaders

variable (R : SettingsReaders)

/-- The variables of a file, none if there is no file. -/
def fileVariables (environment : List (String × String)) (file : Option String) :
    Environment.Variables :=
  (file.map (R.dotenv environment)).getD []

/-- What a leaf comes to: the value that is given for it, or the default. -/
def settle (l : Leaf) : Option SettingsDocument → Option l.Value
  | some d => R.leaf l d
  | none => some (l.get ({ sinks := () } : Settings Unit))

end SettingsReaders

namespace SettingsRequest

variable {Object : Type} (R : SettingsReaders) (q : SettingsRequest Object)

/-- What the first of the arguments, the environment and the file of variables that sets a leaf says
of it. -/
def first (l : Leaf) : Option SettingsDocument :=
  ((Document.map q.arguments).find? l.path).or
    ((Environment.leaf? R.json (Environment.present q.environment) l).or
      (Environment.leaf? R.json (R.fileVariables q.environment q.file) l))

/-- The request is one of recognised settings: the leaves are valid where they count, and no live
field is mentioned that was not given. -/
structure Recognised : Prop where
  arguments : WellShaped q.arguments
  environment : Environment.Recognised R.json (Environment.present q.environment)
  file : Environment.Recognised R.json (R.fileVariables q.environment q.file)
  valid : ∀ l d, q.first R l = some d → ∃ v, R.leaf l d = some v
  live : ∀ f, q.given f = none →
    q.arguments.lookup f.key = none ∧
      Environment.plainly (Environment.present q.environment) f.key = none ∧
      Environment.plainly (R.fileVariables q.environment q.file) f.key = none

end SettingsRequest

/-! ## What a library makes -/

/-- The library merges its sources field by field, the arguments over the environment, over the file
of variables, over the defaults, and reads back what it writes. -/
structure SettingsLibrary.MergesDeeply {Object : Type} (library : SettingsLibrary Object)
    (R : SettingsReaders) : Prop where
  construct : ∀ q : SettingsRequest Object, q.Recognised R →
    ∃ r, library.construct q = .ok r ∧ (∀ l, R.settle l (q.first R l) = some (l.get r)) ∧
      ∀ f, r.sinks f = q.live f
  dump : ∀ r, WellShaped (library.dump r) ∧
    ∀ l : Leaf, ∃ d, (Document.map (library.dump r)).find? l.path = some d ∧
      R.leaf l d = some (l.get r)
  plain : ∀ l d v, R.leaf l d = some v → d.isMap = false

end Walkthrough
