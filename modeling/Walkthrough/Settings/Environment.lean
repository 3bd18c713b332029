import Walkthrough.Settings.EnvFile
import Walkthrough.Settings.JsonText
import Walkthrough.Settings.Library

/-!
# Settings from the environment

Which settings the variables of an environment give, as `SettingsLibrary.standIn` reads them. The
name of a variable is `mark` and the name of a field, in capitals or not. The browser is a map, so
its variable holds JSON, and each of its fields may have a variable of its own as well, which counts
more; deeper fields follow after further pairs of underscores.
-/

namespace Walkthrough.Environment

/-- Names in small letters; of several variables that differ in capitals the last counts. -/
def lowered (vs : Variables) : Variables :=
  Keyed.ofPairs (vs.map fun v => (v.1.map Char.toLower, v.2))

/-- The pieces of a name between its separators. -/
def pathOf (word : List Char) : List Char → List String
  | '_' :: '_' :: rest => String.ofList word.reverse :: pathOf [] rest
  | c :: rest => pathOf (c :: word) rest
  | [] => [String.ofList word.reverse]

/-- Sets the value at the end of a path; nothing is set below something that is no map. -/
def setPath (value : SettingsDocument) : List String → Document.Entries Extra →
    Document.Entries Extra
  | [], entries => entries
  | [key], entries => Keyed.put key value entries
  | key :: path, entries =>
    match entries.lookup key with
    | some (.map inner) => Keyed.put key (.map (setPath value path inner)) entries
    | some _ => entries
    | none => Keyed.put key (.map (setPath value path [])) entries

/-- The fields of the browser that have a variable of their own. -/
def nested (field : String) (vs : Variables) : Document.Entries Extra :=
  let start := (mark ++ field).toList ++ separator
  vs.foldl (fun entries v =>
    if start.isPrefixOf v.1.toList then
      setPath (valueOf v.2) (pathOf [] (v.1.toList.drop start.length)) entries
    else entries) []

/-- The fields of a browser, and their keys in small letters. -/
def browserFields : List String :=
  ["engine", "headless", "viewport_width", "viewport_height", "slow_mo_ms"]

/-- A map with the keys of browser fields in small letters. -/
def smallKeys (entries : Document.Entries Extra) : Document.Entries Extra :=
  entries.foldl (fun done e =>
    let small := e.1.map Char.toLower
    Keyed.put (if browserFields.contains small then small else e.1) e.2 done) []

/-- What the variables say about the browser. -/
def browser (vs : Variables) : Except Unreadable (Option SettingsDocument) :=
  let own := nested "browser" vs
  match (vs.lookup (mark ++ "browser")).join with
  | none => .ok (if own.isEmpty then none else some (.map (smallKeys own)))
  | some s =>
    match JsonText.read? s with
    | none => .error .browser
    | some .null => .ok none
    | some (.map entries) => .ok (some (.map (smallKeys (Document.overlay entries own))))
    | some d => .ok (some d)

/-- The fields that a variable gives as a text. -/
def plainFields : List String :=
  ["wait", "interval", "dispose_on_completion"] ++ LiveField.all.map LiveField.key

/-- The settings that the variables of an environment give. -/
def entries (vs : Variables) : Except Unreadable (Document.Entries Extra) := do
  let vs := lowered vs
  let plain := plainFields.filterMap fun field =>
    ((vs.lookup (mark ++ field)).join).map fun s => (field, Document.text s)
  match ← browser vs with
  | some d => .ok (plain ++ [("browser", d)])
  | none => .ok plain

/-- The names of the variables of settings, in capitals. -/
def names : List String :=
  (plainFields ++ ["browser"] ++ browserFields.map fun field => "browser__" ++ field).map
    fun field => (mark ++ field).map Char.toUpper

end Walkthrough.Environment
