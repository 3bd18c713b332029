import Mathlib.Data.List.Induction
import Walkthrough.Proofs.Settings.Library
import Walkthrough.Settings.Environment

/-!
# What the map of all variables holds of each leaf

`SettingsLibrary.standIn` makes one map of all variables. `Environment.leaf?` is the rule by which a
variable gives a leaf, for each leaf by itself, and `Environment.entries_eq_ok` says that the map
holds for each leaf what the rule says.

The variables must be `Recognised`: the variable of the browser holds a map whose keys are written
in small letters, and no variable goes deeper than a field.
-/

namespace Walkthrough

/-! ## Maps in JSON -/

namespace JsonText

/-- A word of JSON is no map. -/
theorem named?_ne_map {cs rest : List Char} {entries : Document.Entries Extra} :
    named? cs ≠ some (.map entries, rest) := by
  intro h
  obtain ⟨e, he, hword⟩ := List.exists_of_findSome?_eq_some h
  obtain ⟨r, -, heq⟩ := Option.map_eq_some_iff.mp hword
  have hmap : e.2 = .map entries := congrArg Prod.fst heq
  revert hmap
  revert e
  simp

/-- Nor is a number. -/
theorem number?_ne_map {cs rest : List Char} {entries : Document.Entries Extra} :
    number? cs ≠ some (.map entries, rest) := by
  unfold number?
  generalize (if cs.head? = some '-' then ['-'] else []) = sign
  generalize (if (cs.drop sign.length).head? = some '0' then ['0']
    else (cs.drop sign.length).takeWhile Number.isPlainDigit) = digits
  dsimp only
  grind

/-- Of entries with one key only one is left in a map. -/
theorem nodup_of_value? {depth : Nat} {cs rest : List Char} {entries : Document.Entries Extra}
    (h : value? depth cs = some (.map entries, rest)) : (Keyed.keys entries).Nodup := by
  cases depth with
  | zero => cases h
  | succ depth =>
    unfold value? at h
    split at h
    · obtain ⟨x, -, hx⟩ := Option.map_eq_some_iff.mp h
      cases hx
    · obtain ⟨x, -, hx⟩ := Option.map_eq_some_iff.mp h
      cases hx
    · obtain ⟨x, -, hx⟩ := Option.map_eq_some_iff.mp h
      cases hx
      exact Keyed.nodup_keys_ofPairs _
    · split at h
      next found hfound =>
        cases h
        exact absurd hfound named?_ne_map
      next => exact absurd h number?_ne_map

/-- A map that is read from JSON holds each key once. -/
theorem nodup_of_read? {s : String} {entries : Document.Entries Extra}
    (h : read? s = some (.map entries)) : (Keyed.keys entries).Nodup := by
  unfold read? at h
  split at h
  next d rest hvalue =>
    split at h
    · cases h
      exact nodup_of_value? hvalue
    · cases h
  next => cases h

end JsonText

/-! ## Variables -/

namespace Environment

/-! ## Names in small letters -/

/-- Small letters stay small. -/
theorem toLower_toLower (s : String) :
    (s.map Char.toLower).map Char.toLower = s.map Char.toLower := by
  have idempotent : Char.toLower ∘ Char.toLower = Char.toLower := by
    funext c
    unfold Function.comp Char.toLower
    grind
  rw [String.map_map, idempotent]

/-- Looking up under names that were changed is looking for the changed name. -/
theorem lookup_map_fst (g : String → String) (vs : Variables) (name : String) :
    (vs.map fun v => (g v.1, v.2)).lookup name =
      (vs.find? fun v => g v.1 == name).map Prod.snd := by
  induction vs with
  | nil => rfl
  | cons v rest ih =>
    by_cases h : g v.1 = name
    · simp [h]
    · simp [List.lookup_cons, beq_false_of_ne (Ne.symm h), h, ih]

/-- Among the names in small letters the last variable of a name counts. -/
theorem lookup_lowered (vs : Variables) (name : String) :
    (lowered vs).lookup name = given? vs name := by
  rw [lowered, Keyed.lookup_ofPairs, ← List.map_reverse, lookup_map_fst]
  rfl

/-- Each name in small letters is there once. -/
theorem nodup_lowered (vs : Variables) : (Keyed.keys (lowered vs)).Nodup :=
  Keyed.nodup_keys_ofPairs _

/-- The names of lowered variables are those of the variables, in small letters. -/
theorem exists_of_mem_lowered {vs : Variables} {v : String × Option String} (h : v ∈ lowered vs) :
    ∃ u ∈ vs, v.1 = u.1.map Char.toLower := by
  have hkey : v.1 ∈ Keyed.keys (lowered vs) := List.mem_map_of_mem h
  rw [lowered, Keyed.mem_keys_ofPairs, Keyed.keys, List.map_map] at hkey
  obtain ⟨u, hu, heq⟩ := List.mem_map.mp hkey
  exact ⟨u, hu, heq.symm⟩

/-! ## Paths -/

/-- A name is its first piece, or goes on behind it with a separator. -/
theorem pathOf_eq_cons (word cs : List Char) :
    ∃ p rest, pathOf word cs = p :: rest ∧
      ((rest = [] ∧ word.reverse ++ cs = p.toList) ∨
        p.toList ++ separator <+: word.reverse ++ cs) := by
  fun_induction pathOf word cs with
  | case1 word rest =>
    refine ⟨_, _, rfl, .inr ⟨rest, ?_⟩⟩
    simp [separator]
  | case2 word c rest hc ih =>
    obtain ⟨p, rest', hpath, hp⟩ := ih
    refine ⟨p, rest', hpath, ?_⟩
    simpa using hp
  | case3 word => exact ⟨_, _, rfl, .inl ⟨rfl, by simp⟩⟩

/-- The first key of a path begins the text that it was cut from. -/
theorem prefix_of_pathOf {cs : List Char} {p : String} {rest : List String}
    (h : pathOf [] cs = p :: rest) : p.toList <+: cs := by
  obtain ⟨p', rest', hpath, hp⟩ := pathOf_eq_cons [] cs
  rw [h] at hpath
  cases hpath
  rcases hp with ⟨-, heq⟩ | hprefix
  · rw [← heq]
    exact List.prefix_rfl
  · exact (List.prefix_append _ _).trans hprefix

/-- Setting a value at the end of a path changes only what is at its first key. -/
theorem lookup_setPath_of_ne {k p : String} (h : k ≠ p) (value : SettingsDocument)
    (path : List String) (entries : Document.Entries Extra) :
    (setPath value (p :: path) entries).lookup k = entries.lookup k := by
  cases path with
  | nil => simp [setPath, Keyed.lookup_put, h]
  | cons q path =>
    unfold setPath
    split <;> simp [Keyed.lookup_put, h]

/-- Setting a path brings in no key but its first one. -/
theorem mem_keys_setPath {k p : String} {value : SettingsDocument} {path : List String}
    {entries : Document.Entries Extra}
    (h : k ∈ Keyed.keys (setPath value (p :: path) entries)) :
    k = p ∨ k ∈ Keyed.keys entries := by
  cases path with
  | nil => exact Keyed.mem_keys_put.mp h
  | cons q path =>
    unfold setPath at h
    split at h
    · exact Keyed.mem_keys_put.mp h
    · exact .inr h
    · exact Keyed.mem_keys_put.mp h

/-- Setting a path keeps keys from standing twice. -/
theorem nodup_keys_setPath {p : String} {value : SettingsDocument} {path : List String}
    {entries : Document.Entries Extra} (h : (Keyed.keys entries).Nodup) :
    (Keyed.keys (setPath value (p :: path) entries)).Nodup := by
  cases path with
  | nil => exact Keyed.nodup_keys_put h
  | cons q path =>
    unfold setPath
    split
    · exact Keyed.nodup_keys_put h
    · exact h
    · exact Keyed.nodup_keys_put h

/-! ## The fields of the browser -/

/-- The keys of the browser are in small letters. -/
theorem key_lowered (f : BrowserField) : f.key.map Char.toLower = f.key := by
  cases f <;> decide +kernel

/-- What the name of the variable of a field begins with. -/
def fieldStart : List Char := (mark ++ "browser").toList ++ separator

/-- The variable of a field is the start of all of them, and the key. -/
theorem toList_fieldVariable (f : BrowserField) :
    (fieldVariable f).toList = fieldStart ++ f.key.toList := by
  simp [fieldVariable, fieldStart, separator]

/-- The key of a field holds no separator, so it is a path of one. -/
theorem pathOf_key (f : BrowserField) : pathOf [] f.key.toList = [f.key] := by
  cases f <;> decide +kernel

/-- Adds what one variable says of the browser. -/
def addField (entries : Document.Entries Extra) (v : String × Option String) :
    Document.Entries Extra :=
  if fieldStart.isPrefixOf v.1.toList then
    setPath (valueOf v.2) (pathOf [] (v.1.toList.drop fieldStart.length)) entries
  else entries

/-- What the variables say of the browser, as one loop over them. -/
theorem nested_browser (vs : Variables) : nested "browser" vs = vs.foldl addField [] := rfl

/-- The variable of a field sets it, and no other one does that goes no deeper. -/
theorem lookup_addField {v : String × Option String} {f : BrowserField}
    (flat : ¬ (fieldVariable f).toList ++ separator <+: v.1.toList)
    (entries : Document.Entries Extra) :
    (addField entries v).lookup f.key =
      if v.1 = fieldVariable f then some (valueOf v.2) else entries.lookup f.key := by
  unfold addField
  by_cases hname : v.1 = fieldVariable f
  · simp [hname, toList_fieldVariable, pathOf_key, setPath, Keyed.lookup_put]
  · rw [if_neg hname]
    split
    · rename_i hstart
      obtain ⟨cs, hcs⟩ := List.isPrefixOf_iff_prefix.mp hstart
      rw [← hcs, List.drop_left]
      -- a name that begins with the key of the field is that of the field, or goes deeper
      obtain ⟨p, rest, hpath, hp⟩ := pathOf_eq_cons [] cs
      rw [hpath]
      refine lookup_setPath_of_ne (fun heq => ?_) _ _ _
      subst heq
      rcases hp with ⟨-, hwhole⟩ | hdeeper
      · refine hname (String.toList_inj.mp ?_)
        rw [toList_fieldVariable, ← hcs, ← hwhole]
        rfl
      · refine flat ?_
        rw [toList_fieldVariable, ← hcs, List.append_assoc]
        exact (List.prefix_append_right_inj _).mpr hdeeper
    · rfl

/-- After the loop, a field of the browser has what its own variable says, where no variable reaches
inside it. -/
theorem lookup_foldl_addField {vs : Variables} (hnames : (Keyed.keys vs).Nodup)
    {f : BrowserField} (flat : ∀ v ∈ vs, ¬ (fieldVariable f).toList ++ separator <+: v.1.toList)
    (entries : Document.Entries Extra) :
    (vs.foldl addField entries).lookup f.key =
      ((vs.lookup (fieldVariable f)).map valueOf).or (entries.lookup f.key) := by
  induction vs generalizing entries with
  | nil => rfl
  | cons v rest ih =>
    obtain ⟨name, value⟩ := v
    obtain ⟨hv, hrest⟩ := List.nodup_cons.mp hnames
    rw [List.foldl_cons, ih hrest fun u hu => flat u (List.mem_cons_of_mem _ hu),
      lookup_addField (flat _ List.mem_cons_self)]
    by_cases hname : name = fieldVariable f
    · -- no later variable has the same name
      have hnone : rest.lookup (fieldVariable f) = none := by
        rw [List.lookup_eq_none_iff]
        intro u hu
        refine bne_iff_ne.mpr fun heq => hv ?_
        show name ∈ _
        rw [hname, heq]
        exact List.mem_map_of_mem hu
      simp [hnone, hname]
    · simp [List.lookup_cons, hname, beq_false_of_ne (Ne.symm hname)]

/-- A variable keeps keys from standing twice. -/
theorem addField_nodup {entries : Document.Entries Extra} (h : (Keyed.keys entries).Nodup)
    (v : String × Option String) : (Keyed.keys (addField entries v)).Nodup := by
  unfold addField
  split
  · obtain ⟨p, rest, hpath, -⟩ := pathOf_eq_cons [] (v.1.toList.drop fieldStart.length)
    rw [hpath]
    exact nodup_keys_setPath h
  · exact h

/-- The keys that a variable in small letters adds are in small letters. -/
theorem addField_lowered {entries : Document.Entries Extra} {v : String × Option String}
    (hv : v.1.map Char.toLower = v.1)
    (h : ∀ k ∈ Keyed.keys entries, k.map Char.toLower = k) :
    ∀ k ∈ Keyed.keys (addField entries v), k.map Char.toLower = k := by
  intro k hk
  unfold addField at hk
  split at hk
  · obtain ⟨p, rest, hpath, -⟩ := pathOf_eq_cons [] (v.1.toList.drop fieldStart.length)
    rw [hpath] at hk
    rcases mem_keys_setPath hk with rfl | hk
    · have hchars : v.1.toList.map Char.toLower = v.1.toList.map id := by
        rw [List.map_id, ← String.toList_map, hv]
      have hpiece : ∀ c ∈ k.toList, c ∈ v.1.toList := fun c hc =>
        List.mem_of_mem_drop ((prefix_of_pathOf hpath).subset hc)
      -- a character of a key is one of the name, so it is small already
      refine String.toList_inj.mp ?_
      calc (k.map Char.toLower).toList
        = k.toList.map Char.toLower := String.toList_map
        _ = k.toList.map id :=
          List.map_congr_left fun c hc => List.map_inj_left.mp hchars c (hpiece c hc)
        _ = k.toList := List.map_id _
    · exact h k hk
  · exact h k hk

/-- The key under which the map of small keys holds what is given for a key. -/
def smallKey (k : String) : String :=
  if browserFields.contains (k.map Char.toLower) then k.map Char.toLower else k

/-- Keys in small letters, as one loop over the entries. -/
theorem smallKeys_eq (entries : Document.Entries Extra) :
    smallKeys entries =
      entries.foldl (fun done e => Keyed.put (smallKey e.1) e.2 done) [] := rfl

/-- Only a key that is a field in small letters becomes that field. -/
theorem smallKey_eq_iff {k : String} {f : BrowserField}
    (small : k.map Char.toLower = f.key → k = f.key) : smallKey k = f.key ↔ k = f.key := by
  unfold smallKey
  refine ⟨fun h => ?_, ?_⟩
  · split at h
    · exact small h
    · exact h
  · rintro rfl
    simp [key_lowered]

/-- Entries that are put one after the other under other keys are found under those. -/
theorem lookup_foldl_put {entries : Document.Entries Extra}
    (hkeys : (Keyed.keys entries).Nodup) {g : String → String} {key : String}
    (own : ∀ k ∈ Keyed.keys entries, g k = key ↔ k = key) (done : Document.Entries Extra) :
    (entries.foldl (fun done e => Keyed.put (g e.1) e.2 done) done).lookup key =
      (entries.lookup key).or (done.lookup key) := by
  induction entries generalizing done with
  | nil => rfl
  | cons e rest ih =>
    obtain ⟨k, d⟩ := e
    obtain ⟨hk, hrest⟩ := List.nodup_cons.mp hkeys
    have hown : g k = key ↔ k = key := own k List.mem_cons_self
    rw [List.foldl_cons, ih hrest fun k' hk' => own k' (List.mem_cons_of_mem _ hk'),
      Keyed.lookup_put]
    by_cases hname : k = key
    · subst hname
      rw [Keyed.lookup_eq_none_of_not_mem hk, if_pos (hown.mpr rfl).symm, List.lookup_cons_self]
      rfl
    · rw [if_neg fun h => hname (hown.mp h.symm), List.lookup_cons,
        beq_false_of_ne (Ne.symm hname)]

/-- The map of small keys holds each field as it was, when no key but its own is like it. -/
theorem lookup_smallKeys {entries : Document.Entries Extra} (hkeys : (Keyed.keys entries).Nodup)
    {f : BrowserField}
    (small : ∀ k ∈ Keyed.keys entries, k.map Char.toLower = f.key → k = f.key) :
    (smallKeys entries).lookup f.key = entries.lookup f.key := by
  rw [smallKeys_eq, lookup_foldl_put hkeys fun k hk => smallKey_eq_iff (small k hk)]
  exact Option.or_none

/-- They stand once each. -/
theorem nodup_smallKeys (entries : Document.Entries Extra) :
    (Keyed.keys (smallKeys entries)).Nodup :=
  List.foldlRecOn entries _ (motive := fun es => (Keyed.keys es).Nodup) .nil
    fun _ hes _ _ => Keyed.nodup_keys_put hes

namespace Recognised

variable {vs : Variables}

/-- What the variables of the fields say of the browser. -/
theorem lookup_nested (h : Recognised JsonText.read? vs) (f : BrowserField) :
    (nested "browser" (lowered vs)).lookup f.key = (given? vs (fieldVariable f)).map valueOf := by
  have flat : ∀ v ∈ lowered vs, ¬ (fieldVariable f).toList ++ separator <+: v.1.toList := by
    intro v hv
    obtain ⟨u, hu, heq⟩ := exists_of_mem_lowered hv
    rw [heq]
    exact h.flat u hu f
  rw [nested_browser, lookup_foldl_addField (nodup_lowered vs) flat, lookup_lowered]
  exact Option.or_none

/-- So do the keys that variables give the browser. -/
theorem nodup_nested (vs : Variables) : (Keyed.keys (nested "browser" (lowered vs))).Nodup :=
  List.foldlRecOn (lowered vs) addField (motive := fun es => (Keyed.keys es).Nodup) .nil
    fun _ hes v _ => addField_nodup hes v

/-- Those keys are in small letters. -/
theorem nested_lowered (vs : Variables) :
    ∀ k ∈ Keyed.keys (nested "browser" (lowered vs)), k.map Char.toLower = k := by
  refine List.foldlRecOn (lowered vs) addField
    (motive := fun es => ∀ k ∈ Keyed.keys es, k.map Char.toLower = k)
    (fun k hk => nomatch hk) fun es hes v hv => addField_lowered ?_ hes
  obtain ⟨u, -, heq⟩ := exists_of_mem_lowered hv
  rw [heq, toLower_toLower]

/-- The map of the browser holds for each field what the variables say of it. -/
theorem browser_eq_ok (h : Recognised JsonText.read? vs) :
    ∃ d?, Environment.browser (lowered vs) = .ok d? ∧
      (∀ d, d? = some d → ∃ fields, d = .map fields ∧ (Keyed.keys fields).Nodup) ∧
      ∀ f : BrowserField, d?.bind (·.find? [f.key]) = leaf? JsonText.read? vs (.browser f) := by
  have hown := h.lookup_nested
  have hsmall : ∀ f : BrowserField, ∀ k ∈ Keyed.keys (nested "browser" (lowered vs)),
      k.map Char.toLower = f.key → k = f.key := fun f k hk heq =>
    (nested_lowered vs k hk).symm.trans heq
  unfold Environment.browser
  rw [lookup_lowered]
  dsimp only
  rcases hgiven : (given? vs (mark ++ "browser")).join with _ | text
  · -- only the variables of the fields count
    refine ⟨_, rfl, fun d hd => ?_, fun f => ?_⟩
    · split at hd
      · cases hd
      · exact ⟨_, (Option.some.inj hd).symm, nodup_smallKeys _⟩
    · have hfield :
          leaf? JsonText.read? vs (.browser f) = (given? vs (fieldVariable f)).map valueOf := by
        simp only [leaf?, hgiven]
        cases given? vs (fieldVariable f) <;> rfl
      rw [hfield, ← hown f]
      split
      · rename_i hempty
        rw [List.isEmpty_iff.mp hempty]
        rfl
      · simp only [Option.bind_some, Document.find?, Option.bind_fun_some]
        exact lookup_smallKeys (nodup_nested vs) (hsmall f)
  · -- the variables of the fields lie over the map that the variable of the browser holds
    obtain ⟨fields, hread, hfields⟩ := h.browser text (Option.join_eq_some_iff.mp hgiven)
    have hkeys : (Keyed.keys fields).Nodup := JsonText.nodup_of_read? hread
    dsimp only
    rw [hread]
    refine ⟨_, rfl, fun d hd => ⟨_, (Option.some.inj hd).symm, nodup_smallKeys _⟩, fun f => ?_⟩
    have hboth : ∀ k ∈ Keyed.keys (Document.overlay fields (nested "browser" (lowered vs))),
        k.map Char.toLower = f.key → k = f.key := fun k hk heq =>
      (Document.mem_keys_overlay hk).elim (fun hk => hfields f k hk heq)
        fun hk => hsmall f k hk heq
    simp only [Option.bind_some, Document.find?, Option.bind_fun_some]
    rw [lookup_smallKeys (Document.nodup_keys_overlay hkeys _) hboth,
      Document.lookup_overlay (nodup_nested vs), hown f]
    simp only [leaf?, hgiven]
    rcases given? vs (fieldVariable f) with _ | value
    · simp [hread, Document.find?]
    · have hplain : (valueOf value).isMap = false := by cases value <;> rfl
      simp [Document.layer_of_not_isMap hplain]

end Recognised

/-! ## All variables -/

/-- The fields that are given as texts. -/
def plainEntries (vs : Variables) : Document.Entries Extra :=
  plainFields.filterMap fun field =>
    ((vs.lookup (mark ++ field)).join).map fun s => (field, Document.text s)

/-- What is found under a key, in entries that are made field by field. -/
theorem lookup_filterMap {fields : List String} (hfields : fields.Nodup)
    (g : String → Option SettingsDocument) (k : String) :
    (fields.filterMap fun field => (g field).map fun d => (field, d)).lookup k =
      if k ∈ fields then g k else none := by
  induction fields with
  | nil => rfl
  | cons field rest ih =>
    obtain ⟨hfield, hrest⟩ := List.nodup_cons.mp hfields
    rw [List.filterMap_cons]
    by_cases heq : k = field
    · subst heq
      rcases hg : g k with _ | d
      · simp [ih hrest, hfield]
      · simp
    · rcases g field with _ | d
      · simp [ih hrest, heq]
      · simp [List.lookup_cons, beq_false_of_ne heq, ih hrest, heq]

/-- A field that holds no map has what its variable says. -/
theorem lookup_plainEntries (vs : Variables) {key : String} (h : key ∈ plainFields) :
    (plainEntries (lowered vs)).lookup key = plainly vs key := by
  have hplain : plainEntries (lowered vs) = plainFields.filterMap fun field =>
      (plainly vs field).map fun d => (field, d) := by
    simp [plainEntries, plainly, lookup_lowered, Option.map_map, Function.comp_def]
  rw [hplain, lookup_filterMap (by decide), if_pos h]

/-- Only fields that hold no map are among the plain entries, in the order of the fields. -/
theorem keys_plainEntries_sublist (vs : Variables) :
    (Keyed.keys (plainEntries vs)).Sublist plainFields := by
  unfold plainEntries
  generalize plainFields = fields
  induction fields with
  | nil => exact .slnil
  | cons field rest ih =>
    rw [List.filterMap_cons]
    rcases (vs.lookup (mark ++ field)).join with _ | s
    · exact ih.cons field
    · exact ih.cons_cons field

/-- The map that is made of variables holds for each leaf what they say of it. -/
theorem entries_eq_ok {vs : Variables} (h : Recognised JsonText.read? vs) :
    ∃ es, entries vs = .ok es ∧ Document.WellShaped es ∧
      (∀ l : Leaf, (Document.map es).find? l.path = leaf? JsonText.read? vs l) ∧
      ∀ f : LiveField, es.lookup f.key = plainly vs f.key := by
  obtain ⟨d?, hbrowser, hmap, hfields⟩ := h.browser_eq_ok
  have hplain : (Keyed.keys (plainEntries (lowered vs))).Nodup :=
    (show plainFields.Nodup by decide).sublist (keys_plainEntries_sublist _)
  have hother : "browser" ∉ Keyed.keys (plainEntries (lowered vs)) := fun hk =>
    absurd ((keys_plainEntries_sublist _).subset hk) (by decide)
  let es := plainEntries (lowered vs) ++ (d?.map fun d => ("browser", d)).toList
  have hentries : entries vs = .ok es := by
    unfold entries
    simp only [hbrowser]
    cases d? with
    | none => exact congrArg Except.ok (List.append_nil _).symm
    | some d => rfl
  have hlookup : ∀ key ∈ plainFields, es.lookup key = plainly vs key := by
    intro key hkey
    have hne : key ≠ "browser" := by
      rintro rfl
      exact absurd hkey (by decide)
    rw [List.lookup_append, lookup_plainEntries vs hkey]
    cases d? <;> simp [List.lookup_cons, beq_false_of_ne hne]
  have hlookupBrowser : es.lookup "browser" = d? := by
    rw [List.lookup_append, Keyed.lookup_eq_none_of_not_mem hother]
    cases d? <;> simp
  refine ⟨es, hentries, ⟨?_, fun d hd => hmap d (hlookupBrowser ▸ hd)⟩, fun l => ?_, fun f => ?_⟩
  · cases d? with
    | none => simpa [es] using hplain
    | some d =>
      have hkeys : Keyed.keys es = Keyed.keys (plainEntries (lowered vs)) ++ ["browser"] := by
        simp [es, Keyed.keys]
      rw [hkeys]
      exact List.nodup_append.mpr ⟨hplain, List.nodup_singleton _, by grind⟩
  · have htop : ∀ key, (Document.map es).find? [key] = es.lookup key := fun key => by
      simp [Document.find?]
    cases l with
    | browser f =>
      rw [← hfields f, ← hlookupBrowser]
      rfl
    | _ => exact (htop _).trans (hlookup _ (by decide))
  · exact hlookup _ (by cases f <;> decide)

end Environment

end Walkthrough
