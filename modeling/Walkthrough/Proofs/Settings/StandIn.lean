import Walkthrough.Proofs.Settings.Variables
import Walkthrough.Settings.StandIn

/-!
# The library that programs run with merges its sources

`SettingsLibrary.standIn` does what is asked of a library for settings
(`SettingsLibrary.standIn_mergesDeeply`). It lays the maps of its three sources over one another, so
the map that the settings are read from holds at each leaf what the first source that sets the leaf
says of it (`SettingsRequest.Recognised.merged_eq_ok`), and settings are read from a map exactly
when each leaf is (`Settings.ofEntries_eq_ok`).
-/

namespace Walkthrough

open Document (WellShaped)

/-- The settings with given leaves. -/
def Settings.ofLeaves {Sinks : Type} (value : (l : Leaf) → l.Value) (sinks : Sinks) :
    Settings Sinks where
  wait := value .wait
  interval := value .interval
  disposeOnCompletion := value .disposeOnCompletion
  browser :=
    { engine := value (.browser .engine)
      headless := value (.browser .headless)
      viewportWidth := value (.browser .viewportWidth)
      viewportHeight := value (.browser .viewportHeight)
      slowMotion := value (.browser .slowMotion) }
  sinks := sinks

theorem Leaf.get_ofLeaves {Sinks : Type} (value : (l : Leaf) → l.Value) (sinks : Sinks) (l : Leaf) :
    l.get (Settings.ofLeaves value sinks) = value l := by
  cases l with
  | browser f => cases f <;> rfl
  | _ => rfl

namespace SettingsReaders

/-- How the library that programs run with reads. -/
def standIn : SettingsReaders where
  dotenv := EnvFile.read
  json := JsonText.read?
  leaf := fun l d => (l.read d).toOption

theorem leaf_standIn {l : Leaf} {d : SettingsDocument} {v : l.Value} :
    standIn.leaf l d = some v ↔ l.read d = .ok v := by
  show (l.read d).toOption = some v ↔ _
  cases l.read d <;> simp [Except.toOption]

theorem settle_standIn {l : Leaf} {d? : Option SettingsDocument} {v : l.Value} :
    standIn.settle l d? = some v ↔ l.settle d? = .ok v := by
  cases d? with
  | none => simp [settle, Leaf.settle]
  | some d => exact leaf_standIn

end SettingsReaders

namespace SettingsRequest.Recognised

variable {Object : Type} {q : SettingsRequest Object}

/-- A leaf that counts is no map. -/
theorem plain (h : q.Recognised .standIn) {l : Leaf} {d : SettingsDocument}
    (hd : q.first .standIn l = some d) : d.isMap = false :=
  (h.valid l d hd).elim fun _ hread =>
    Leaf.not_isMap_of_read (SettingsReaders.leaf_standIn.mp hread)

/-- The map that the settings are read from holds at each leaf what the first source that sets it
says. -/
theorem merged_eq_ok (h : q.Recognised .standIn) :
    ∃ environment file,
      SettingsLibrary.saidBy (Environment.present q.environment) = .ok environment ∧
      SettingsLibrary.saidBy ((q.file.map (EnvFile.read q.environment)).getD []) = .ok file ∧
      WellShaped (Document.overlay file (Document.overlay environment q.arguments)) ∧
      (∀ l : Leaf, (Document.map
        (Document.overlay file (Document.overlay environment q.arguments))).find? l.path =
          q.first .standIn l) ∧
      ∀ f, q.given f = none →
        (Document.overlay file (Document.overlay environment q.arguments)).lookup f.key = none := by
  obtain ⟨environment, henv, envShaped, envLeaf, envLive⟩ := Environment.entries_eq_ok h.environment
  obtain ⟨file, hfile, fileShaped, fileLeaf, fileLive⟩ := Environment.entries_eq_ok h.file
  have upperShaped := envShaped.overlay h.arguments
  have upperLeaf : ∀ l : Leaf,
      (Document.map (Document.overlay environment q.arguments)).find? l.path =
        ((Document.map q.arguments).find? l.path).or
          (Environment.leaf? JsonText.read? (Environment.present q.environment) l) := by
    intro l
    rw [Leaf.find?_overlay envShaped h.arguments l fun d hd => h.plain (l := l) ?_, envLeaf]
    simp [first, hd]
  refine ⟨environment, file, congrArg (Except.mapError _) henv, congrArg (Except.mapError _) hfile,
    fileShaped.overlay upperShaped, fun l => ?_, fun f hf => ?_⟩
  · have hfirst : q.first .standIn l =
        ((Document.map (Document.overlay environment q.arguments)).find? l.path).or
          (Environment.leaf? JsonText.read?
            (SettingsReaders.standIn.fileVariables q.environment q.file) l) := by
      rw [upperLeaf, Option.or_assoc]
      rfl
    rw [Leaf.find?_overlay fileShaped upperShaped l fun d hd => h.plain (l := l) ?_, hfirst,
      fileLeaf]
    rw [hfirst, hd]
    rfl
  · obtain ⟨hargs, hplainEnv, hplainFile⟩ := h.live f hf
    rw [Document.lookup_overlay upperShaped.keys, Document.lookup_overlay h.arguments.keys, hargs,
      envLive f, hplainEnv, fileLive f, hplainFile]

end SettingsRequest.Recognised

/-- The library that programs run with does what is asked of one. -/
theorem SettingsLibrary.standIn_mergesDeeply {Object : Type} :
    (standIn : SettingsLibrary Object).MergesDeeply .standIn where
  construct := by
    intro q h
    obtain ⟨environment, file, henvironment, hfile, shaped, hleaf, hlive⟩ := h.merged_eq_ok
    have settled : ∀ l : Leaf, ∃ v, SettingsReaders.standIn.settle l (q.first .standIn l) =
        some v := by
      intro l
      rcases hfirst : q.first .standIn l with _ | d
      · exact ⟨_, rfl⟩
      · exact h.valid l d hfirst
    choose value hvalue using settled
    let r : Settings (LiveField → Object) := .ofLeaves value q.live
    have hr : ∀ l : Leaf, SettingsReaders.standIn.settle l (q.first .standIn l) =
        some (l.get r) := fun l =>
      (hvalue l).trans (congrArg some (Leaf.get_ofLeaves value q.live l).symm)
    have hread : Settings.ofEntries (fun f => (q.given f).isSome) r.sinks
        (Document.overlay file (Document.overlay environment q.arguments)) = .ok r := by
      refine Settings.ofEntries_eq_ok shaped ?_ fun l => ?_
      · refine List.filterMap_eq_nil_iff.mpr fun f _ => if_neg ?_
        rcases hgiven : q.given f with _ | o
        · simp [hlive f hgiven]
        · simp [hgiven]
      · rw [hleaf]
        exact SettingsReaders.settle_standIn.mp (hr l)
    refine ⟨r, ?_, hr, fun f => rfl⟩
    show Except.bind _ _ = _
    rw [henvironment]
    show Except.bind _ _ = _
    rw [hfile]
    exact congrArg (Except.mapError LoadError.invalid) hread
  dump := fun r => ⟨r.wellShaped_toEntries, fun l =>
    (Leaf.read_toEntries r l).imp fun _ hd => ⟨hd.1, SettingsReaders.leaf_standIn.mpr hd.2⟩⟩
  plain := fun _ _ _ hread => Leaf.not_isMap_of_read (SettingsReaders.leaf_standIn.mp hread)

end Walkthrough
