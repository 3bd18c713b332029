import Walkthrough.Proofs.Settings.StandIn
import Walkthrough.Settings.Load

/-!
# Which source counts

`SettingsSources.load_precedence` states what loading comes to, leaf by leaf, for any library that
does what is asked of one (`SettingsLibrary.MergesDeeply`): each leaf is what the first of the
overrides, the settings file, the environment and the file of variables that sets it says of it
(`SettingsSources.first`), and its default when none sets it. The live fields are the objects that
the caller gave, and for the rest the ones that were made first.

The library is asked to merge its arguments, the environment and the file of variables; that the
overrides count more than the settings file, and that the second call of the library changes
nothing, is due to loading itself. `Leaf.find?_overlay` gives each leaf of a map that was laid over
another one. So what is said holds each leaf of the overrides and then of the file
(`Recognised.said_eq_ok`), and the first call is one of recognised settings that sees `first` at
each leaf. The second call sees at each leaf what was said, which is `first` again, or what the
first one wrote (`first_secondRequest`). It asks the environment and the default file of variables
again, but nothing is left for them to say.
-/

namespace Walkthrough

open Document (WellShaped)

namespace SettingsSources

variable {Object : Type} (R : SettingsReaders) (s : SettingsSources Object)

/-- The file of variables that is looked at first. -/
def fileVariables : Environment.Variables := R.fileVariables s.environment (s.envFile.getD s.dotenv)

/-- What the first of the overrides, the settings file, the environment and the file of variables
that sets a leaf says of it. -/
def first (l : Leaf) : Option SettingsDocument :=
  ((Document.map s.overrides).find? l.path).or
    ((s.file.find? l.path).or
      ((Environment.leaf? R.json (Environment.present s.environment) l).or
        (Environment.leaf? R.json (s.fileVariables R) l)))

/-- What the settings file holds when it is a map, or nothing. -/
def fileEntries : Document.Entries Extra :=
  match s.file with
  | .map entries => entries
  | _ => []

/-- The sources hold maps of settings, whose leaves are valid where they count, and mention no live
field that the caller did not give. -/
structure Recognised : Prop where
  overrides : WellShaped s.overrides
  file : s.file.isMap = true ∨ s.file.truthy = false
  fileEntries : WellShaped s.fileEntries
  environment : Environment.Recognised R.json (Environment.present s.environment)
  fileVariables : Environment.Recognised R.json (s.fileVariables R)
  dotenv : Environment.Recognised R.json (R.fileVariables s.environment s.dotenv)
  valid : ∀ l d, s.first R l = some d → ∃ v, R.leaf l d = some v
  live : ∀ f, s.given f = none →
    s.overrides.lookup f.key = none ∧ s.fileEntries.lookup f.key = none ∧
      Environment.plainly (Environment.present s.environment) f.key = none ∧
      Environment.plainly (s.fileVariables R) f.key = none

variable {R s}

theorem find?_file (l : Leaf) :
    s.file.find? l.path = (Document.map s.fileEntries).find? l.path := by
  unfold fileEntries
  split
  next entries h => rw [h]
  next h =>
    have hnone : s.file.find? l.path = none := by
      cases hfile : s.file with
      | map entries => exact absurd hfile (h entries)
      | _ => cases l <;> rfl
    rw [hnone]
    cases l <;> rfl

/-- What is said lastingly holds the same leaves: no leaf is below a live field. -/
theorem find?_lasting (said : Document.Entries Extra) (l : Leaf) :
    (Document.map (lasting said)).find? l.path = (Document.map said).find? l.path := by
  have top : ∀ key, (LiveField.all.map LiveField.key).contains key = false →
      (lasting said).lookup key = said.lookup key := fun key hkey =>
    WellShaped.lookup_filter (p := fun k => !(LiveField.all.map LiveField.key).contains k)
      (by rw [hkey]; rfl)
  cases l <;> simp only [Leaf.path, Document.find?] <;> rw [top _ (by decide)]

namespace Recognised

/-- What is said holds each leaf of the overrides and, where they are silent, of the file. -/
theorem said_eq_ok (h : s.Recognised R) (plain : ∀ l d v, R.leaf l d = some v → d.isMap = false) :
    ∃ es, s.said = .ok es ∧ WellShaped es ∧
      (∀ l : Leaf, (Document.map es).find? l.path =
        ((Document.map s.overrides).find? l.path).or (s.file.find? l.path)) ∧
      ∀ f, s.given f = none → es.lookup f.key = none := by
  have hsaid : s.said = .ok (Document.overlay s.fileEntries s.overrides) := by
    unfold said SettingsSources.fileEntries
    cases hfile : s.file with
    | map entries => rfl
    | _ =>
      -- a file that holds no map must hold nothing
      have hfalsy := h.file.resolve_left (by simp [hfile, Document.isMap])
      rw [hfile] at hfalsy
      simp only [hfalsy]
      rfl
  refine ⟨_, hsaid, h.fileEntries.overlay h.overrides, fun l => ?_, fun f hf => ?_⟩
  · rw [find?_file]
    refine Leaf.find?_overlay h.fileEntries h.overrides l fun d hd => ?_
    have hfirst : s.first R l = some d := by simp [first, hd]
    exact (h.valid l d hfirst).elim (plain l d)
  · obtain ⟨hover, hfile, -⟩ := h.live f hf
    rw [Document.lookup_overlay h.overrides.keys, hover]
    exact hfile

variable {said : Document.Entries Extra}

/-- What the first call of the library sees of a leaf. -/
theorem first_firstRequest
    (hsaid : ∀ l : Leaf, (Document.map said).find? l.path =
      ((Document.map s.overrides).find? l.path).or (s.file.find? l.path)) (l : Leaf) :
    (s.firstRequest said).first R l = s.first R l := by
  show ((Document.map said).find? l.path).or _ = _
  rw [hsaid, Option.or_assoc]
  rfl

/-- The first call of the library asks for recognised settings. -/
theorem firstRequest (h : s.Recognised R) (shaped : WellShaped said)
    (hsaid : ∀ l : Leaf, (Document.map said).find? l.path =
      ((Document.map s.overrides).find? l.path).or (s.file.find? l.path))
    (hlive : ∀ f, s.given f = none → said.lookup f.key = none) :
    (s.firstRequest said).Recognised R where
  arguments := shaped
  environment := h.environment
  file := h.fileVariables
  valid := fun l d hd => h.valid l d (first_firstRequest hsaid l ▸ hd)
  live := fun f hf => ⟨hlive f hf, (h.live f hf).2.2⟩

end Recognised

section Second

variable {library : SettingsLibrary Object} {r : Settings (LiveField → Object)}
  {said : Document.Entries Extra}

theorem wellShaped_lasting (shaped : WellShaped said) : WellShaped (lasting said) :=
  shaped.filter (p := fun k => !(LiveField.all.map LiveField.key).contains k) (by decide)

/-- The second call of the library sees of each leaf what was said or, where nothing was, what the
first call wrote; either is read as the value that the first call came to. -/
theorem first_secondRequest (merges : library.MergesDeeply R) (shaped : WellShaped said)
    (hvalue : ∀ l d, (Document.map said).find? l.path = some d → R.leaf l d = some (l.get r))
    (live : LiveField → Object) (l : Leaf) :
    ∃ d, (s.secondRequest (library.dump r) said live).first R l = some d ∧
      R.leaf l d = some (l.get r) := by
  have hmerged : (Document.map (Document.overlay (library.dump r) (lasting said))).find? l.path =
      ((Document.map said).find? l.path).or ((Document.map (library.dump r)).find? l.path) := by
    rw [← find?_lasting said]
    refine Leaf.find?_overlay (merges.dump r).1 (wellShaped_lasting shaped) l fun d hd => ?_
    exact merges.plain l d _ (hvalue l d (find?_lasting said l ▸ hd))
  have hseen : ∃ d,
      (Document.map (Document.overlay (library.dump r) (lasting said))).find? l.path = some d ∧
        R.leaf l d = some (l.get r) := by
    rw [hmerged]
    rcases hl : (Document.map said).find? l.path with _ | d
    · rw [Option.none_or]
      exact (merges.dump r).2 l
    · exact ⟨d, rfl, hvalue l d hl⟩
  -- a leaf among the arguments leaves nothing to the environment
  obtain ⟨d, hd, hread⟩ := hseen
  refine ⟨d, ?_, hread⟩
  show ((Document.map (Document.overlay (library.dump r) (lasting said))).find? l.path).or _ = _
  rw [hd, Option.some_or]

/-- The second call of the library asks for recognised settings. -/
theorem Recognised.secondRequest (h : s.Recognised R) (merges : library.MergesDeeply R)
    (shaped : WellShaped said)
    (hvalue : ∀ l d, (Document.map said).find? l.path = some d → R.leaf l d = some (l.get r))
    (live : LiveField → Object) :
    (s.secondRequest (library.dump r) said live).Recognised R where
  arguments := (merges.dump r).1.overlay (wellShaped_lasting shaped)
  environment := h.environment
  file := h.dotenv
  valid := fun l d hd => by
    obtain ⟨d', hd', hread⟩ := first_secondRequest (s := s) merges shaped hvalue live l
    cases hd.symm.trans hd'
    exact ⟨_, hread⟩
  live := fun f hf => nomatch hf

end Second

/-- Each leaf of the settings that are loaded comes from the first source that sets it, and is the
default when none does; the live fields are the objects that were given, or the ones that were made
first. -/
theorem load_precedence {library : SettingsLibrary Object} (merges : library.MergesDeeply R)
    (h : s.Recognised R) :
    ∃ r, s.loadWith library = .ok r ∧ (∀ l : Leaf, R.settle l (s.first R l) = some (l.get r)) ∧
      ∀ f, r.sinks f = (s.given f).getD (s.fresh f) := by
  obtain ⟨said, hsaid, shaped, saidLeaf, saidLive⟩ := h.said_eq_ok merges.plain
  obtain ⟨r, hr, hleaf, hlive⟩ :=
    merges.construct _ (h.firstRequest shaped saidLeaf saidLive)
  have hfirst : ∀ l : Leaf, R.settle l (s.first R l) = some (l.get r) := fun l => by
    rw [← Recognised.first_firstRequest saidLeaf l]
    exact hleaf l
  have hvalue : ∀ l d, (Document.map said).find? l.path = some d → R.leaf l d = some (l.get r) := by
    intro l d hd
    have hd' : s.first R l = some d := by
      rw [← Recognised.first_firstRequest saidLeaf l]
      show ((Document.map said).find? l.path).or _ = _
      rw [hd, Option.some_or]
    exact (congrArg (R.settle l) hd').symm.trans (hfirst l)
  by_cases silent : (said.isEmpty && !s.givesAny) = true
  · refine ⟨r, ?_, hfirst, hlive⟩
    simp only [loadWith, hsaid, hr, silent, bind, Except.bind, if_true]
  · -- the second call comes to the same leaves, and is given all live objects
    obtain ⟨r', hr', hleaf', hlive'⟩ :=
      merges.construct _ (h.secondRequest merges shaped hvalue r.sinks)
    have hsame : ∀ l : Leaf, l.get r' = l.get r := fun l => by
      obtain ⟨d, hd, hread⟩ := first_secondRequest (s := s) merges shaped hvalue r.sinks l
      have hsettled := hleaf' l
      rw [hd] at hsettled
      exact Option.some.inj (hsettled.symm.trans hread)
    refine ⟨r', ?_, fun l => ?_, fun f => (hlive' f).trans (hlive f)⟩
    · simp only [loadWith, hsaid, hr, silent, bind, Except.bind, Bool.false_eq_true, if_false]
      exact hr'
    · rw [hsame]
      exact hfirst l

/-! ## Sources that all say something -/

/-- Sources each of which says something of the browser. The file of variables that nobody named
would set the wait, and the second call would make other live objects. -/
def layered : SettingsSources String where
  overrides := [("browser", .map [("headless", .bool false)])]
  file := .map [("browser", .map [("headless", .bool true), ("viewport_width", .int 800)])]
  environment :=
    [("BROWSER_FLOW_BROWSER", "\x7b\"viewport_width\": 640\x7d"),
      ("BROWSER_FLOW_BROWSER__ENGINE", "firefox")]
  envFile := some (some
    "browser_flow_browser__engine=webkit\nbrowser_flow_browser='\x7b\"viewport_height\": 480\x7d'")
  dotenv := some "BROWSER_FLOW_WAIT=PT7S"
  given := fun f => if f = .logStream then some "own" else none
  fresh := fun f => f.key
  renewed := fun _ => "renewed"

/-- What the layered sources come to. -/
def layeredSettings : Settings Unit where
  browser :=
    { engine := .firefox, headless := false, viewportWidth := 800, viewportHeight := 480 }
  sinks := ()

theorem fileVariables_layered : layered.fileVariables .standIn =
    [("browser_flow_browser__engine", some "webkit"),
      ("browser_flow_browser", some "\x7b\"viewport_height\": 480\x7d")] := by
  decide +kernel

theorem dotenv_layered :
    SettingsReaders.standIn.fileVariables layered.environment layered.dotenv =
      [("BROWSER_FLOW_WAIT", some "PT7S")] := by
  decide +kernel

theorem settle_layered (l : Leaf) :
    SettingsReaders.standIn.settle l (layered.first .standIn l) =
      some (l.get layeredSettings) := by
  unfold first
  rw [fileVariables_layered]
  cases l with
  | browser f => cases f <;> decide +kernel
  | _ => decide +kernel

theorem recognised_layered : layered.Recognised .standIn where
  overrides := ⟨by decide, fun d hd => ⟨_, (Option.some.inj hd).symm, by decide⟩⟩
  file := .inl rfl
  fileEntries := ⟨by decide, fun d hd => ⟨_, (Option.some.inj hd).symm, by decide⟩⟩
  environment := by
    refine ⟨fun text htext => ?_, Environment.flat_of_short (by decide)⟩
    have hgiven : Environment.given? (Environment.present layered.environment)
        (Environment.mark ++ "browser") = some (some "\x7b\"viewport_width\": 640\x7d") := by
      decide +kernel
    rw [hgiven] at htext
    cases htext
    refine ⟨[("viewport_width", .int 640)], rfl, fun f => ?_⟩
    cases f <;> decide +kernel
  fileVariables := by
    rw [fileVariables_layered]
    refine ⟨fun text htext => ?_, Environment.flat_of_short (by decide)⟩
    have hgiven : Environment.given? (layered.fileVariables .standIn)
        (Environment.mark ++ "browser") = some (some "\x7b\"viewport_height\": 480\x7d") := by
      decide +kernel
    rw [fileVariables_layered] at hgiven
    rw [hgiven] at htext
    cases htext
    refine ⟨[("viewport_height", .int 480)], rfl, fun f => ?_⟩
    cases f <;> decide +kernel
  dotenv := by
    rw [dotenv_layered]
    refine ⟨fun text htext => ?_, Environment.flat_of_short (by decide)⟩
    have hgiven : Environment.given? [("BROWSER_FLOW_WAIT", some "PT7S")]
        (Environment.mark ++ "browser") = none := by decide +kernel
    cases hgiven.symm.trans htext
  valid := by
    intro l d hd
    have hsettle := settle_layered l
    rw [hd] at hsettle
    exact ⟨_, hsettle⟩
  live := by
    intro f hf
    have hsilent : f = .logStream ∨
        (Environment.plainly (Environment.present layered.environment) f.key = none ∧
          Environment.plainly (layered.fileVariables .standIn) f.key = none) := by
      rw [fileVariables_layered]
      cases f <;> decide +kernel
    cases f with
    | logStream => cases hf
    | _ => exact ⟨rfl, rfl, hsilent.resolve_left (by decide)⟩

/-- The overrides hide one field of the file, the file one of the environment, and the environment
one of the file of variables; every other field of each of them counts. What the second call finds
or makes anew does not. -/
theorem load_precedence_layered :
    ∃ r, layered.loadWith .standIn = .ok r ∧ r.browser = ⟨.firefox, false, 800, 480, 0⟩ ∧
      r.wait = ⟨10000000⟩ ∧ r.sinks .logStream = "own" ∧ r.sinks .errorStream = "error_stream" := by
  obtain ⟨r, hload, hleaf, hsinks⟩ :=
    load_precedence SettingsLibrary.standIn_mergesDeeply recognised_layered
  have hget : ∀ l : Leaf, l.get r = l.get layeredSettings := fun l =>
    Option.some.inj ((hleaf l).symm.trans (settle_layered l))
  exact ⟨r, hload, BrowserConfig.ext_get fun f => hget (.browser f), hget .wait,
    hsinks .logStream, hsinks .errorStream⟩

end SettingsSources

end Walkthrough
