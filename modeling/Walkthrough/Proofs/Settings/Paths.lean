import Walkthrough.Proofs.Settings.Overlay

/-!
# Paths into maps that were laid over one another

What is found at the end of a path of keys after one map was laid over another. What the upper map
has there meets whatever lies below at the same path (`find?_layer_of_some`). Where it has nothing,
the path shows what lies below (`find?_layer_of_none`), unless it runs into a value of the upper map
that is no map (`find?_layer_of_blocked`).

The three are about any two documents and not about maps, so that one induction on the path goes
through maps inside maps: on each level either both sides hold a map, or nothing of the lower one is
seen any more (`layer_map_cases`).

Laying a map over another one a second time changes nothing (`layer_layer`). On each level the
reason is that a key whose value stays as it is when the upper one is laid over it may be put again
(`overlay_eq_self`).

The upper map has each of its keys once, and so has every map inside it (`Distinct`). Nothing is
asked of the map below.

Headline: `overlay_follows_paths`.
-/

namespace Walkthrough.Document

open Keyed

variable {Atom : Type}

/-! ## Maps with distinct keys -/

/-- No map of the document has a key twice. -/
inductive Distinct : Document Atom → Prop where
  | plain {d : Document Atom} (h : d.isMap = false) : Distinct d
  | map {entries : Entries Atom} (keys : (keys entries).Nodup)
      (nested : ∀ e ∈ entries, Distinct e.2) : Distinct (map entries)

namespace Distinct

variable {entries : Entries Atom}

theorem keys (h : (Document.map entries).Distinct) : (Keyed.keys entries).Nodup := by
  cases h with
  | plain h => cases h
  | map hkeys _ => exact hkeys

theorem nested (h : (Document.map entries).Distinct) {key : String} {d : Document Atom}
    (hd : entries.lookup key = some d) : d.Distinct := by
  cases h with
  | plain h => cases h
  | map _ hnested => exact hnested (key, d) (mem_of_lookup hd)

/-- Maps without maps in them only need distinct keys of their own. -/
theorem flat (hkeys : (Keyed.keys entries).Nodup) (hplain : ∀ e ∈ entries, e.2.isMap = false) :
    (Document.map entries).Distinct :=
  .map hkeys fun e he => .plain (hplain e he)

end Distinct

/-! ## Paths -/

theorem find?_cons (entries : Entries Atom) (key : String) (path : List String) :
    (map entries).find? (key :: path) = (entries.lookup key).bind (·.find? path) := rfl

/-- Nothing is found inside a value that is no map. -/
theorem find?_cons_of_not_isMap {d : Document Atom} (h : d.isMap = false) (key : String)
    (path : List String) : d.find? (key :: path) = none := by
  cases d with
  | map entries => cases h
  | _ => rfl

/-- A path may be followed in two parts. -/
theorem find?_append (d : Document Atom) (path rest : List String) :
    d.find? (path ++ rest) = (d.find? path).bind (·.find? rest) := by
  induction path generalizing d with
  | nil => rw [List.nil_append, find?_nil, Option.bind_some]
  | cons key path ih =>
    cases d with
    | map entries =>
      rw [List.cons_append, find?_cons, find?_cons, Option.bind_assoc]
      exact congrArg _ (funext ih)
    | _ => rfl

/-- The path runs into a value that is no map before it ends. -/
def Blocked (d : Document Atom) (path : List String) : Prop :=
  ∃ p rest e, path = p ++ rest ∧ rest ≠ [] ∧ d.find? p = some e ∧ e.isMap = false

/-- A path that is blocked further down is blocked. -/
theorem Blocked.cons {entries : Entries Atom} {key : String} {path : List String}
    {d : Document Atom} (hd : entries.lookup key = some d) (h : d.Blocked path) :
    (map entries).Blocked (key :: path) := by
  obtain ⟨p, rest, e, rfl, hrest, he, hplain⟩ := h
  refine ⟨key :: p, rest, e, rfl, hrest, ?_, hplain⟩
  rw [find?_cons, hd, Option.bind_some, he]

/-! ## Layers -/

theorem layer_map_map (under inner : Entries Atom) :
    layer (some (map under)) (map inner) = map (overlay under inner) := rfl

/-- Under a map either lies a map, or nothing of what lies there is seen. -/
theorem layer_map_cases (lower : Option (Document Atom)) (inner : Entries Atom) :
    (∃ under, lower = some (map under)) ∨
      (layer lower (map inner) = map inner ∧
        ∀ key path, lower.bind (·.find? (key :: path)) = none) := by
  cases lower with
  | none => exact .inr ⟨rfl, fun _ _ => rfl⟩
  | some d =>
    cases d with
    | map under => exact .inl ⟨under, rfl⟩
    | _ => exact .inr ⟨rfl, fun _ _ => rfl⟩

/-- What the upper document has at a path meets what the lower one has there. -/
theorem find?_layer_of_some {upper : Document Atom} (hupper : upper.Distinct)
    (lower : Option (Document Atom)) {path : List String} {d : Document Atom}
    (hd : upper.find? path = some d) :
    (layer lower upper).find? path = some (layer (lower.bind (·.find? path)) d) := by
  induction path generalizing upper lower with
  | nil =>
    rw [find?_nil] at hd
    cases hd
    simp
  | cons key path ih =>
    cases upper with
    | map inner =>
      rcases layer_map_cases lower inner with ⟨under, rfl⟩ | ⟨hlayer, hunseen⟩
      · obtain ⟨u, hu, hfound⟩ := Option.bind_eq_some_iff.mp hd
        rw [layer_map_map, find?_cons, lookup_overlay hupper.keys, hu]
        exact ih (hupper.nested hu) (under.lookup key) hfound
      · rw [hlayer, hunseen, layer_none, hd]
    | _ => cases hd

/-- Where the upper document has nothing and does not block the path, the lower one shows. -/
theorem find?_layer_of_none {upper : Document Atom} (hupper : upper.Distinct)
    (lower : Option (Document Atom)) {path : List String} (hnone : upper.find? path = none)
    (hopen : ¬ upper.Blocked path) :
    (layer lower upper).find? path = lower.bind (·.find? path) := by
  induction path generalizing upper lower with
  | nil =>
    rw [find?_nil] at hnone
    cases hnone
  | cons key path ih =>
    cases upper with
    | map inner =>
      rcases layer_map_cases lower inner with ⟨under, rfl⟩ | ⟨hlayer, hunseen⟩
      · rw [layer_map_map, find?_cons, lookup_overlay hupper.keys]
        rcases hu : inner.lookup key with _ | u
        · rfl
        · rw [find?_cons, hu, Option.bind_some] at hnone
          exact ih (hupper.nested hu) (under.lookup key) hnone fun h => hopen (h.cons hu)
      · rw [hlayer, hunseen, hnone]
    | _ =>
      -- the document itself is the value that blocks the path
      exact absurd ⟨[], key :: path, _, rfl, List.cons_ne_nil _ _, find?_nil _, rfl⟩ hopen

/-- Nothing is found behind a value of the upper document that is no map. -/
theorem find?_layer_of_blocked {upper : Document Atom} (hupper : upper.Distinct)
    (lower : Option (Document Atom)) {path : List String} (h : upper.Blocked path) :
    (layer lower upper).find? path = none := by
  obtain ⟨p, rest, e, rfl, hrest, he, hplain⟩ := h
  obtain ⟨key, rest, rfl⟩ := List.exists_cons_of_ne_nil hrest
  rw [find?_append, find?_layer_of_some hupper lower he, layer_of_not_isMap hplain,
    Option.bind_some, find?_cons_of_not_isMap hplain]

/-! ## Laying the same map twice -/

/-- Entries that stay as they are when anything of the upper ones is laid over them stay as they are
altogether. -/
theorem overlay_eq_self {entries above : Entries Atom}
    (h : ∀ key d, (key, d) ∈ above → ∃ e, entries.lookup key = some e ∧ layer (some e) d = e) :
    overlay entries above = entries := by
  induction above with
  | nil => rw [overlay]
  | cons e rest ih =>
    obtain ⟨key, d⟩ := e
    obtain ⟨e, he, hlayer⟩ := h key d List.mem_cons_self
    rw [overlay_cons, he, hlayer, put_eq_self he]
    exact ih fun k d' hmem => h k d' (List.mem_cons_of_mem _ hmem)

/-- A document that is laid over itself stays as it is. -/
theorem layer_self {d : Document Atom} (hd : d.Distinct) : layer (some d) d = d := by
  induction hd with
  | plain h => exact layer_of_not_isMap h _
  | @map entries hkeys _ ih =>
    rw [layer_map_map]
    refine congrArg map (overlay_eq_self fun key d hmem => ?_)
    exact ⟨d, lookup_of_mem hkeys hmem, ih (key, d) hmem⟩

/-- Laying a document over another one a second time changes nothing. -/
theorem layer_layer {upper : Document Atom} (hupper : upper.Distinct)
    (lower : Option (Document Atom)) :
    layer (some (layer lower upper)) upper = layer lower upper := by
  induction hupper generalizing lower with
  | plain h => rw [layer_of_not_isMap h, layer_of_not_isMap h]
  | @map inner hkeys hnested ih =>
    rcases layer_map_cases lower inner with ⟨under, rfl⟩ | ⟨hlayer, -⟩
    · rw [layer_map_map, layer_map_map]
      refine congrArg map (overlay_eq_self fun key d hmem => ?_)
      refine ⟨layer (under.lookup key) d, ?_, ih (key, d) hmem (under.lookup key)⟩
      rw [lookup_overlay hkeys, lookup_of_mem hkeys hmem]
    · rw [hlayer]
      exact layer_self (.map hkeys hnested)

/-! ## Following a path -/

/-- A map inside a document with distinct keys has distinct keys. -/
theorem Distinct.find? {d e : Document Atom} (h : d.Distinct) {path : List String}
    (he : d.find? path = some e) : e.Distinct := by
  induction path generalizing d with
  | nil =>
    rw [find?_nil] at he
    cases he
    exact h
  | cons key path ih =>
    cases d with
    | map entries =>
      obtain ⟨inner, hinner, hfound⟩ := Option.bind_eq_some_iff.mp he
      exact ih (h.nested hinner) hfound
    | _ => cases he

/-- What a map shows at the end of a path after another one was laid over it. A value of the upper
map that is no map is found there. A path that the upper map does not have and does not block leads
to what was there; that is nothing where the upper map put a map in the place of a value that was
none. Two maps become one that has the keys of both and is laid together key by key, and a map that
meets no map is found as it is. Doing it again changes nothing. -/
theorem overlay_follows_paths {above : Entries Atom} (habove : (map above).Distinct)
    (below : Entries Atom) :
    (∀ path d, (map above).find? path = some d → d.isMap = false →
        (map (overlay below above)).find? path = some d) ∧
      (∀ path, (map above).find? path = none → ¬ (map above).Blocked path →
        (map (overlay below above)).find? path = (map below).find? path) ∧
      (∀ path, (map above).Blocked path → (map (overlay below above)).find? path = none) ∧
      (∀ path under inner, (map below).find? path = some (map under) →
        (map above).find? path = some (map inner) →
        ∃ merged, (map (overlay below above)).find? path = some (map merged) ∧
          keys merged = keys under ++ ((keys inner).filter fun key => key ∉ keys under) ∧
          ∀ key, merged.lookup key =
            match inner.lookup key with
            | some d => some (layer (under.lookup key) d)
            | none => under.lookup key) ∧
      (∀ path inner, (map above).find? path = some (map inner) →
        (∀ under, (map below).find? path ≠ some (map under)) →
        (map (overlay below above)).find? path = some (map inner)) ∧
      overlay (overlay below above) above = overlay below above := by
  have meets : ∀ {path d}, (map above).find? path = some d →
      (map (overlay below above)).find? path = some (layer ((map below).find? path) d) :=
    fun hd => find?_layer_of_some habove (some (map below)) hd
  refine ⟨?value, ?shown, ?blocked, ?both, ?alone, ?again⟩
  case value =>
    intro path d hd hplain
    rw [meets hd, layer_of_not_isMap hplain]
  case shown =>
    intro path hnone hopen
    exact find?_layer_of_none habove (some (map below)) hnone hopen
  case blocked =>
    intro path hblocked
    exact find?_layer_of_blocked habove (some (map below)) hblocked
  case both =>
    intro path under inner hunder hinner
    have hkeys : (keys inner).Nodup := (habove.find? hinner).keys
    refine ⟨overlay under inner, ?_, keys_overlay hkeys under, lookup_overlay hkeys under⟩
    rw [meets hinner, hunder, layer_map_map]
  case alone =>
    intro path inner hinner hnone
    rcases layer_map_cases ((map below).find? path) inner with ⟨under, hunder⟩ | ⟨hlayer, -⟩
    · exact absurd hunder (hnone under)
    · rw [meets hinner, hlayer]
  case again =>
    have htwice := layer_layer habove (some (map below))
    rw [layer_map_map, layer_map_map] at htwice
    exact map.inj htwice

/-- On each side a map meets a map, a value that is none, and nothing. -/
theorem overlay_follows_paths_mixed :
    let below : Entries Unit :=
      [("browser", .map [("engine", .text "chromium"), ("headless", .bool true)]),
        ("interval", .map [("seconds", .int 5)]), ("wait", .text "PT3S")]
    let above : Entries Unit :=
      [("browser", .map [("engine", .text "webkit"), ("slow_mo_ms", .int 20)]),
        ("interval", .int 2), ("wait", .map [("seconds", .int 3)])]
    let laid : Document Unit := .map (overlay below above)
    (map above).Distinct ∧
      laid.find? ["browser", "engine"] = some (.text "webkit") ∧
      laid.find? ["browser", "headless"] = some (.bool true) ∧
      laid.find? ["interval", "seconds"] = none ∧
      (∃ merged, laid.find? ["browser"] = some (.map merged) ∧
        keys merged = ["engine", "headless", "slow_mo_ms"]) ∧
      laid.find? ["wait"] = some (.map [("seconds", .int 3)]) ∧
      overlay (overlay below above) above = overlay below above := by
  intro below above laid
  have habove : (map above).Distinct := by
    refine .map (by decide) ?_
    simp only [above, List.forall_mem_cons, List.not_mem_nil, false_implies, implies_true, and_true]
    exact ⟨.flat (by decide) (by decide), .plain rfl, .flat (by decide) (by decide)⟩
  obtain ⟨value, shown, blocked, both, alone, again⟩ := overlay_follows_paths habove below
  have hopen : ¬ (map above).Blocked ["browser", "headless"] := by
    rintro ⟨p, rest, e, hpath, hrest, he, hplain⟩
    match p with
    | [] => cases he; cases hplain
    | [_] => cases hpath; cases he; cases hplain
    | [_, _] => cases hpath; exact hrest rfl
  have hblocked : (map above).Blocked ["interval", "seconds"] :=
    ⟨["interval"], ["seconds"], .int 2, rfl, List.cons_ne_nil _ _, rfl, rfl⟩
  obtain ⟨merged, hmerged, hkeys, -⟩ := both ["browser"] _ _ rfl rfl
  refine ⟨habove, value _ _ rfl rfl, shown ["browser", "headless"] rfl hopen, blocked _ hblocked,
    ⟨merged, hmerged, hkeys.trans (by decide)⟩, alone ["wait"] _ rfl fun under h => ?_, again⟩
  cases h

end Walkthrough.Document
