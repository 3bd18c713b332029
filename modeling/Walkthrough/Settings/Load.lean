import Walkthrough.Settings.StandIn

/-!
# Loading settings

Settings come from four places. What the caller overrides counts most, then a settings file, then
the environment, then a file of variables; what none of them sets has its default.

Loading lays the overrides over what the settings file holds, map by map (`Document.overlay`), and
calls the library with the result (`SettingsSources.loadWith`). When the caller or the settings file
says anything at all, the settings that came out are written out, laid under what was said and made
once more; the live objects are given the second time, so they are kept as they are.

Mirroring notes:
- `loadWith` is `load_settings`, `Document.overlay` is `_deep_update`, and `lasting` leaves out
  `RUNTIME_FIELDS`. The library (`FlowSettings` as its base class makes it work) is a parameter.
- A settings file is taken as the document that it holds; a file that cannot be read fails before
  anything else (`LoadError.malformed`).
- The second time the library looks at the environment again, and at the file of variables that it
  reads when none is named: a file that the caller named is not named again.
- `_deep_update` changes the map of the settings file in place; here the result is a map of its own.
-/

namespace Walkthrough

/-- Where settings are loaded from. -/
structure SettingsSources (Object : Type) where
  /-- What the settings file holds. -/
  file : SettingsDocument := .null
  /-- The variables of the environment. -/
  environment : List (String × String) := []
  /-- The text of the file of variables that the caller names, if he names one; a file that is not
  there has no text. -/
  envFile : Option (Option String) := none
  /-- The text of the file of variables that is read when none is named. -/
  dotenv : Option String := none
  /-- What the caller overrides. -/
  overrides : Document.Entries Extra := []
  /-- The live objects that the caller gives. -/
  given : LiveField → Option Object := fun _ => none
  /-- The live objects that are made first, where the caller gives none. -/
  fresh : LiveField → Object
  /-- The live objects that the second call of the library would make. -/
  renewed : LiveField → Object := fresh

namespace SettingsSources

variable {Object : Type} (s : SettingsSources Object)

/-- Whether the caller gives any live object. -/
def givesAny : Bool := LiveField.all.any fun f => (s.given f).isSome

/-- What the caller and the settings file say. -/
def said : Except LoadError (Document.Entries Extra) :=
  match s.file with
  | .map entries => .ok (Document.overlay entries s.overrides)
  | d =>
    if d.truthy then
      match s.givesAny, s.overrides with
      | false, (_, .map _) :: _ => .error .noMerge
      | _, _ => .error .noFields
    else .ok (Document.overlay [] s.overrides)

/-- What was said without the live fields. -/
def lasting (entries : Document.Entries Extra) : Document.Entries Extra :=
  entries.filter fun e => !(LiveField.all.map LiveField.key).contains e.1

/-- The first call of the library. -/
def firstRequest (said : Document.Entries Extra) : SettingsRequest Object where
  arguments := said
  given := s.given
  fresh := s.fresh
  environment := s.environment
  file := s.envFile.getD s.dotenv

/-- The second call of the library, with settings that were written out under what was said, and
with live objects for all live fields. -/
def secondRequest (written said : Document.Entries Extra) (live : LiveField → Object) :
    SettingsRequest Object where
  arguments := Document.overlay written (lasting said)
  given := fun f => some (live f)
  fresh := s.renewed
  environment := s.environment
  file := s.dotenv

/-- Loads settings that are declared with a library. -/
def loadWith (library : SettingsLibrary Object) :
    Except LoadError (Settings (LiveField → Object)) := do
  let said ← s.said
  let first ← library.construct (s.firstRequest said)
  if said.isEmpty && !s.givesAny then .ok first
  else library.construct (s.secondRequest (library.dump first) said first.sinks)

/-- Loads settings as programs do that run. -/
def load : Except LoadError (Settings (LiveField → Object)) := s.loadWith .standIn

end SettingsSources

end Walkthrough
