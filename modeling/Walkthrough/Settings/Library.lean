import Walkthrough.Failure
import Walkthrough.Settings.Reading

/-!
# The library that settings are declared with

Settings are declared with a library that makes them from the arguments of a call, the environment
and a file of variables, and that writes them out again. `SettingsLibrary` is what loading uses of
it, and it is a parameter: whatever the library does, loading is `SettingsSources.loadWith` of it.
What is asked of the library is stated where something is proved of loading
(`SettingsLibrary.MergesDeeply`). `SettingsLibrary.standIn` is the one that programs run with.

Mirroring notes:
- A `SettingsRequest` is a call of `FlowSettings`, by its arguments or through `model_validate`, and
  `dump` is `model_dump`. What such a call reads besides its arguments stands in the request.
- `Environment.mark` and `Environment.separator` are `env_prefix` and `env_nested_delimiter` of
  `model_config`; the prefix is in small letters, since names are compared in small letters.
-/

namespace Walkthrough

namespace Environment

/-- The variables of an environment or of a file, where a variable of a file may have no value. -/
abbrev Variables : Type := List (String × Option String)

/-- The variables of an environment, each of which has a value. -/
def present (environment : List (String × String)) : Variables :=
  environment.map fun e => (e.1, some e.2)

/-- The value of a variable as a document. -/
def valueOf : Option String → SettingsDocument
  | some s => .text s
  | none => .null

/-- What the names of the variables of settings begin with. -/
def mark : String := "browser_flow_"

/-- What stands between the names of a field and of a field inside it. -/
def separator : List Char := ['_', '_']

/-- Why variables cannot be read: that of the browser does not hold what it should. -/
inductive Unreadable where
  | browser
  deriving DecidableEq, Repr

end Environment

/-- Why settings could not be loaded. -/
inductive LoadError where
  /-- The settings file cannot be read. -/
  | malformed
  /-- What the settings file holds is no map of names to settings. -/
  | noFields
  /-- Something would have to be merged into what the settings file holds, which is no map. -/
  | noMerge
  /-- A variable cannot be read. -/
  | unreadable (what : Environment.Unreadable)
  /-- Some settings are not valid. -/
  | invalid (problems : List Problem)
  deriving Repr

namespace LoadError

/-- The name of an error as it is seen from outside. -/
def name : LoadError → String
  | malformed => "YAMLError"
  | noFields => "TypeError"
  | noMerge => "AttributeError"
  | unreadable _ => "SettingsError"
  | invalid _ => "ValidationError"

/-- The wording of an error; only invalid settings are worded one by one. -/
def message : LoadError → String
  | invalid problems => Problem.report problems
  | _ => ""

/-- An error as it is seen from outside. -/
def toFault (e : LoadError) : Fault := ⟨e.name, e.message⟩

end LoadError

/-- What a library is called with to make settings. -/
structure SettingsRequest (Object : Type) where
  /-- What the arguments say of the fields that documents can give. -/
  arguments : Document.Entries Extra
  /-- The live objects among the arguments; each stands in the place of whatever else the arguments
  say under its key. -/
  given : LiveField → Option Object
  /-- The live objects that are made at this call for the other live fields. -/
  fresh : LiveField → Object
  /-- The variables of the environment. -/
  environment : List (String × String)
  /-- The text of the file of variables, if there is one. -/
  file : Option String

/-- The live objects of the settings that are asked for. -/
def SettingsRequest.live {Object : Type} (q : SettingsRequest Object) (f : LiveField) : Object :=
  (q.given f).getD (q.fresh f)

/-- What loading uses of a library for settings. -/
structure SettingsLibrary (Object : Type) where
  /-- Makes settings, and tells why it cannot. -/
  construct : SettingsRequest Object → Except LoadError (Settings (LiveField → Object))
  /-- Writes settings out, without the live fields. -/
  dump : Settings (LiveField → Object) → Document.Entries Extra

end Walkthrough
