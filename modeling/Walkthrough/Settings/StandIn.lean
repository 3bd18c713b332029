import Walkthrough.Settings.Environment

/-!
# A library for programs that run

A library for settings that merges its sources map by map: what the arguments say is laid over what
the environment says, and that over what the file of variables says, and the settings are read from
the map that comes of it. It stands in for the real one where a program is run, and as an example of
a library that keeps what is asked of one (`SettingsLibrary.standIn_mergesDeeply`); no property of
loading is proved of it alone.
-/

namespace Walkthrough

namespace SettingsLibrary

/-- What some variables say. -/
def saidBy (vs : Environment.Variables) : Except LoadError (Document.Entries Extra) :=
  (Environment.entries vs).mapError .unreadable

/-- The library that programs run with. -/
def standIn {Object : Type} : SettingsLibrary Object where
  construct := fun q => do
    let environment ← saidBy (Environment.present q.environment)
    let file ← saidBy ((q.file.map (EnvFile.read q.environment)).getD [])
    (Settings.ofEntries (fun f => (q.given f).isSome) q.live
      (Document.overlay file (Document.overlay environment q.arguments))).mapError .invalid
  dump := Settings.toEntries

end SettingsLibrary

end Walkthrough
