import Walkthrough.Proofs.Settings.Overlay
import Walkthrough.Settings.Reading

/-!
# The leaves of settings

Settings are a tree of two levels: single values, and the configuration of the browser with fields
of its own. A `Leaf` is a single value of either level, with the path of keys at which documents
hold it, the way it is read, and its default. What settings come to is said leaf by leaf: settings
are read from a map exactly when each leaf is (`Settings.ofEntries_eq_ok`), settings that are
written out hold each leaf at its path (`Leaf.read_toEntries`), and a map laid over another one
gives each leaf from the upper map, or from the lower one when the upper has none
(`Leaf.find?_overlay`).
-/

namespace Walkthrough

/-- The fields of the configuration of a browser. -/
inductive BrowserField where
  | engine
  | headless
  | viewportWidth
  | viewportHeight
  | slowMotion
  deriving DecidableEq, Repr

namespace BrowserField

/-- The key of a field. -/
def key : BrowserField → String
  | engine => "engine"
  | headless => "headless"
  | viewportWidth => "viewport_width"
  | viewportHeight => "viewport_height"
  | slowMotion => "slow_mo_ms"

/-- What a field holds. -/
def Value : BrowserField → Type
  | engine => BrowserEngine
  | headless => Bool
  | viewportWidth => Int
  | viewportHeight => Int
  | slowMotion => Rat

instance : (f : BrowserField) → DecidableEq f.Value
  | engine => inferInstanceAs (DecidableEq BrowserEngine)
  | headless => inferInstanceAs (DecidableEq Bool)
  | viewportWidth => inferInstanceAs (DecidableEq Int)
  | viewportHeight => inferInstanceAs (DecidableEq Int)
  | slowMotion => inferInstanceAs (DecidableEq Rat)

/-- Reads a field. -/
def read : (f : BrowserField) → SettingsDocument → Checked f.Value
  | engine => Field.engine
  | headless => Field.bool
  | viewportWidth => Field.int
  | viewportHeight => Field.int
  | slowMotion => Field.real

/-- The value of a field. -/
def get (c : BrowserConfig) : (f : BrowserField) → f.Value
  | engine => c.engine
  | headless => c.headless
  | viewportWidth => c.viewportWidth
  | viewportHeight => c.viewportHeight
  | slowMotion => c.slowMotion

/-- What a field comes to: the value that is given for it, or the default. -/
def settle (f : BrowserField) : Option SettingsDocument → Checked f.Value
  | some d => f.read d
  | none => .ok (f.get {})

end BrowserField

/-- The single values of settings. -/
inductive Leaf where
  | wait
  | interval
  | disposeOnCompletion
  | browser (field : BrowserField)
  deriving DecidableEq, Repr

namespace Leaf

/-- The keys that lead to a leaf. -/
def path : Leaf → List String
  | wait => ["wait"]
  | interval => ["interval"]
  | disposeOnCompletion => ["dispose_on_completion"]
  | browser f => ["browser", f.key]

/-- What a leaf holds. -/
def Value : Leaf → Type
  | wait => Duration
  | interval => Duration
  | disposeOnCompletion => Bool
  | browser f => f.Value

instance : (l : Leaf) → DecidableEq l.Value
  | wait => inferInstanceAs (DecidableEq Duration)
  | interval => inferInstanceAs (DecidableEq Duration)
  | disposeOnCompletion => inferInstanceAs (DecidableEq Bool)
  | browser f => inferInstanceAs (DecidableEq f.Value)

/-- Reads a leaf. -/
def read : (l : Leaf) → SettingsDocument → Checked l.Value
  | wait => Field.duration
  | interval => Field.duration
  | disposeOnCompletion => Field.bool
  | browser f => f.read

/-- The value of a leaf. -/
def get {Sinks : Type} (s : Settings Sinks) : (l : Leaf) → l.Value
  | wait => s.wait
  | interval => s.interval
  | disposeOnCompletion => s.disposeOnCompletion
  | browser f => f.get s.browser

/-- What a leaf comes to: the value that is given for it, or the default. -/
def settle (l : Leaf) : Option SettingsDocument → Checked l.Value
  | some d => l.read d
  | none => .ok (l.get ({ sinks := () } : Settings Unit))

/-- No leaf is a map. -/
theorem not_isMap_of_read {l : Leaf} {d : SettingsDocument} {v : l.Value} (h : l.read d = .ok v) :
    d.isMap = false := by
  cases d with
  | map entries =>
    cases l with
    | browser f => cases f <;> cases h
    | _ => cases h
  | _ => rfl

end Leaf

/-! ## Maps that hold settings -/

/-- Each key stands there once, and the browser, if it is there, is such a map. -/
structure Document.WellShaped (entries : Document.Entries Extra) : Prop where
  keys : (Keyed.keys entries).Nodup
  browser : ∀ d, entries.lookup "browser" = some d →
    ∃ fields, d = .map fields ∧ (Keyed.keys fields).Nodup

namespace Document.WellShaped

variable {entries below above : Entries Extra}

theorem overlay (hbelow : WellShaped below) (habove : WellShaped above) :
    WellShaped (Document.overlay below above) := by
  refine ⟨nodup_keys_overlay hbelow.keys above, fun d hd => ?_⟩
  rw [lookup_overlay habove.keys] at hd
  rcases hupper : above.lookup "browser" with _ | upper
  · rw [hupper] at hd
    exact hbelow.browser d hd
  · rw [hupper] at hd
    obtain ⟨inner, rfl, hinner⟩ := habove.browser upper hupper
    rcases hlower : below.lookup "browser" with _ | lower
    · rw [hlower] at hd
      exact ⟨inner, (Option.some.inj hd).symm, hinner⟩
    · rw [hlower] at hd
      obtain ⟨under, rfl, hunder⟩ := hbelow.browser lower hlower
      exact ⟨_, (Option.some.inj hd).symm, nodup_keys_overlay hunder inner⟩

theorem lookup_filter {p : String → Bool} {key : String} (h : p key = true) :
    (entries.filter fun e => p e.1).lookup key = entries.lookup key := by
  induction entries with
  | nil => rfl
  | cons e rest ih =>
    obtain ⟨k, d⟩ := e
    by_cases heq : key = k
    · subst heq
      simp [h]
    · by_cases hp : p k
      · simp [hp, List.lookup_cons, beq_false_of_ne heq, ih]
      · simp [hp, List.lookup_cons, beq_false_of_ne heq, ih]

theorem filter (h : WellShaped entries) {p : String → Bool} (hp : p "browser" = true) :
    WellShaped (entries.filter fun e => p e.1) := by
  refine ⟨h.keys.sublist (List.filter_sublist.map Prod.fst), fun d hd => h.browser d ?_⟩
  rwa [lookup_filter hp] at hd

end Document.WellShaped

namespace Leaf

open Document (WellShaped)

/-- Laying a map over another one gives each leaf from the upper map, or from the lower one when the
upper has none. -/
theorem find?_overlay {below above : Document.Entries Extra} (hbelow : WellShaped below)
    (habove : WellShaped above) (l : Leaf)
    (plain : ∀ d, (Document.map above).find? l.path = some d → d.isMap = false) :
    (Document.map (Document.overlay below above)).find? l.path =
      ((Document.map above).find? l.path).or ((Document.map below).find? l.path) := by
  have top : ∀ key, (∀ d, above.lookup key = some d → d.isMap = false) →
      (Document.overlay below above).lookup key = (above.lookup key).or (below.lookup key) := by
    intro key hkey
    rw [Document.lookup_overlay habove.keys]
    rcases hupper : above.lookup key with _ | d
    · rfl
    · simp [Document.layer_of_not_isMap (hkey d hupper)]
  cases l with
  | browser f =>
    simp only [path, Document.find?] at plain ⊢
    rw [Document.lookup_overlay habove.keys]
    rcases hupper : above.lookup "browser" with _ | upper
    · rfl
    · obtain ⟨inner, rfl, hinner⟩ := habove.browser upper hupper
      rcases hlower : below.lookup "browser" with _ | lower
      · simp
      · obtain ⟨under, rfl, -⟩ := hbelow.browser lower hlower
        rw [hupper] at plain
        simp only [Option.bind_some, Document.find?, Option.bind_fun_some,
          Document.layer] at plain ⊢
        rw [Document.lookup_overlay hinner]
        rcases hfield : inner.lookup f.key with _ | d
        · rfl
        · simp [Document.layer_of_not_isMap (plain d hfield)]
  | _ =>
    simp only [path, Document.find?, Option.bind_fun_some] at plain ⊢
    exact top _ plain

end Leaf

/-! ## Reading and writing -/

/-- A field that comes to a value is read as that value. -/
theorem Field.named_eq_ok {α : Type} {key : String} {read : SettingsDocument → Checked α}
    {default a : α} {entries : Document.Entries Extra}
    (hgiven : ∀ d, entries.lookup key = some d → read d = .ok a)
    (hmissing : entries.lookup key = none → default = a) :
    Field.named key read default entries = .ok a := by
  unfold Field.named
  rcases h : entries.lookup key with _ | d
  · rw [hmissing h]
  · simp [hgiven d h, Checked.at_]

namespace BrowserField

variable {f : BrowserField} {entries : Document.Entries Extra} {v : f.Value}

theorem read_of_settle {d : SettingsDocument} (h : f.settle (entries.lookup f.key) = .ok v)
    (hd : entries.lookup f.key = some d) : f.read d = .ok v := by
  rwa [hd] at h

theorem default_of_settle (h : f.settle (entries.lookup f.key) = .ok v)
    (hd : entries.lookup f.key = none) : f.get {} = v := by
  rw [hd] at h
  exact Except.ok.inj h

end BrowserField

/-- The configuration of a browser is read from a map when each of its fields is. -/
theorem BrowserConfig.ofEntries_eq_ok {c : BrowserConfig} {entries : Document.Entries Extra}
    (h : ∀ f : BrowserField, f.settle (entries.lookup f.key) = .ok (f.get c)) :
    ofEntries entries = .ok c := by
  have named : ∀ f : BrowserField,
      Field.named f.key f.read (f.get {}) entries = .ok (f.get c) := fun f =>
    Field.named_eq_ok (fun d hd => BrowserField.read_of_settle (h f) hd)
      fun hd => BrowserField.default_of_settle (h f) hd
  have hengine : Field.named "engine" Field.engine BrowserEngine.chromium entries = .ok c.engine :=
    named .engine
  have hheadless : Field.named "headless" Field.bool true entries = .ok c.headless :=
    named .headless
  have hwidth : Field.named "viewport_width" Field.int 1280 entries = .ok c.viewportWidth :=
    named .viewportWidth
  have hheight : Field.named "viewport_height" Field.int 720 entries = .ok c.viewportHeight :=
    named .viewportHeight
  have hslow : Field.named "slow_mo_ms" Field.real 0 entries = .ok c.slowMotion :=
    named .slowMotion
  simp [ofEntries, hengine, hheadless, hwidth, hheight, hslow, Checked.apply, Checked.both,
    Except.map]

/-- Configurations with the same fields are the same. -/
theorem BrowserConfig.ext_get {c c' : BrowserConfig}
    (h : ∀ f : BrowserField, f.get c = f.get c') : c = c' := by
  obtain ⟨engine, headless, width, height, slow⟩ := c
  obtain ⟨engine', headless', width', height', slow'⟩ := c'
  have hengine : engine = engine' := h .engine
  have hheadless : headless = headless' := h .headless
  have hwidth : width = width' := h .viewportWidth
  have hheight : height = height' := h .viewportHeight
  have hslow : slow = slow' := h .slowMotion
  rw [hengine, hheadless, hwidth, hheight, hslow]

/-- Settings are read from a map when each leaf is, and no live field is mentioned that was not
given. -/
theorem Settings.ofEntries_eq_ok {Sinks : Type} {given : LiveField → Bool} {s : Settings Sinks}
    {entries : Document.Entries Extra} (shaped : Document.WellShaped entries)
    (live : LiveField.problems given entries = [])
    (h : ∀ l : Leaf, l.settle ((Document.map entries).find? l.path) = .ok (l.get s)) :
    ofEntries given s.sinks entries = .ok s := by
  have named : ∀ (l : Leaf) (key : String), l.path = [key] →
      Field.named key l.read (l.get ({ sinks := () } : Settings Unit)) entries = .ok (l.get s) := by
    intro l key hkey
    have hleaf := h l
    simp only [hkey, Document.find?, Option.bind_fun_some] at hleaf
    refine Field.named_eq_ok (fun d hd => ?_) fun hd => ?_
    · rwa [hd] at hleaf
    · rw [hd] at hleaf
      exact Except.ok.inj hleaf
  have hwait : Field.named "wait" Field.duration ⟨10000000⟩ entries = .ok s.wait :=
    named .wait "wait" rfl
  have hinterval : Field.named "interval" Field.duration ⟨500000⟩ entries = .ok s.interval :=
    named .interval "interval" rfl
  have hdispose : Field.named "dispose_on_completion" Field.bool false entries =
      .ok s.disposeOnCompletion :=
    named .disposeOnCompletion "dispose_on_completion" rfl
  have hbrowser : Field.named "browser" BrowserConfig.ofDocument {} entries = .ok s.browser := by
    have hfields : ∀ f : BrowserField,
        f.settle ((entries.lookup "browser").bind (·.find? [f.key])) = .ok (f.get s.browser) :=
      fun f => h (.browser f)
    refine Field.named_eq_ok (fun d hd => ?_) fun hd => ?_
    · obtain ⟨fields, rfl, -⟩ := shaped.browser d hd
      rw [hd] at hfields
      refine BrowserConfig.ofEntries_eq_ok fun f => ?_
      simpa [Document.find?] using hfields f
    · rw [hd] at hfields
      exact BrowserConfig.ext_get fun f => Except.ok.inj (hfields f)
  simp [ofEntries, hwait, hinterval, hdispose, hbrowser, live, Checked.apply, Checked.both,
    Except.map]

namespace Settings

variable {Sinks : Type} (s : Settings Sinks)

theorem wellShaped_toEntries : Document.WellShaped s.toEntries := by
  refine ⟨by simp [toEntries, Keyed.keys], fun d hd => ⟨s.browser.toEntries, ?_, ?_⟩⟩
  · simp [toEntries, List.lookup_cons] at hd
    exact hd.symm
  · simp [BrowserConfig.toEntries, Keyed.keys]

end Settings

/-- Settings that are written out hold each leaf at its path. -/
theorem Leaf.read_toEntries {Sinks : Type} (s : Settings Sinks) (l : Leaf) :
    ∃ d, (Document.map s.toEntries).find? l.path = some d ∧ l.read d = .ok (l.get s) := by
  cases l with
  | browser f =>
    cases f with
    | engine =>
      refine ⟨.text s.browser.engine.name, rfl, ?_⟩
      have hengine : Field.engine (.text s.browser.engine.name) = .ok s.browser.engine := by
        simp [Field.engine, BrowserEngine.ofName?_name]
      exact hengine
    | _ => exact ⟨_, rfl, rfl⟩
  | _ => exact ⟨_, rfl, rfl⟩

end Walkthrough
