/-!
# Keyed entries

A map with texts as keys is a list of entries, in the order in which the keys first came. A value
that is put for a key takes the place of the one that was there, and a new key comes last
(`Keyed.put`). Pairs become such entries one after the other (`Keyed.ofPairs`): of several pairs
with one key the last counts, in the place of the first.

Headline: `lookup_put` and `lookup_ofPairs` for what is found under a key, `keys_put` for the order
of the keys, and `ofPairs_eq_self`: entries with distinct keys stay as they are.
-/

namespace Walkthrough.Keyed

variable {α : Type}

/-- The keys of entries, in order. -/
def keys (entries : List (String × α)) : List String := entries.map Prod.fst

/-- Entries with another value at a key: in place when the key is there, at the end when not. -/
def put (key : String) (value : α) : List (String × α) → List (String × α)
  | [] => [(key, value)]
  | (k, old) :: rest => if k = key then (k, value) :: rest else (k, old) :: put key value rest

/-- The entries that some pairs come to. -/
def ofPairs (pairs : List (String × α)) : List (String × α) :=
  pairs.foldl (fun entries e => put e.1 e.2 entries) []

/-! ## Looking up -/

variable {entries : List (String × α)} {key : String}

/-- A key that was put is found, and every other key is as it was. -/
theorem lookup_put (key k : String) (value : α) (entries : List (String × α)) :
    (put key value entries).lookup k = if k = key then some value else entries.lookup k := by
  induction entries with
  | nil =>
    by_cases h : k = key
    · simp [put, h]
    · simp [put, h, List.lookup_cons, beq_false_of_ne h]
  | cons e rest ih =>
    obtain ⟨k', old⟩ := e
    by_cases h' : k' = key
    · subst h'
      by_cases h : k = k'
      · simp [put, h]
      · simp [put, List.lookup_cons, h, beq_false_of_ne h]
    · by_cases hk : k = k'
      · subst hk
        simp [put, h']
      · simp [put, h', List.lookup_cons, beq_false_of_ne hk, ih]

theorem lookup_eq_none_of_not_mem (h : key ∉ keys entries) : entries.lookup key = none := by
  rw [List.lookup_eq_none_iff]
  intro e he
  have hne : key ≠ e.1 := fun heq => h (heq ▸ List.mem_map_of_mem he)
  exact bne_iff_ne.mpr hne

theorem mem_of_lookup {value : α} (h : entries.lookup key = some value) :
    (key, value) ∈ entries := by
  obtain ⟨before, after, rfl, -⟩ := List.lookup_eq_some_iff.mp h
  exact List.mem_append_right _ List.mem_cons_self

/-- Every entry is found under its key when the keys are distinct. -/
theorem lookup_of_mem (hkeys : (keys entries).Nodup) {value : α} (hmem : (key, value) ∈ entries) :
    entries.lookup key = some value := by
  induction entries with
  | nil => exact absurd hmem List.not_mem_nil
  | cons e rest ih =>
    obtain ⟨k, old⟩ := e
    obtain ⟨hk, hrest⟩ := List.nodup_cons.mp hkeys
    rcases List.mem_cons.mp hmem with heq | hlater
    · cases heq
      exact List.lookup_cons_self
    · have hne : key ≠ k := by
        rintro rfl
        exact hk (List.mem_map.mpr ⟨(key, value), hlater, rfl⟩)
      rw [List.lookup_cons, beq_false_of_ne hne]
      exact ih hrest hlater

/-- Putting what is there already changes nothing. -/
theorem put_eq_self {value : α} (h : entries.lookup key = some value) :
    put key value entries = entries := by
  induction entries with
  | nil => cases h
  | cons e rest ih =>
    obtain ⟨k, old⟩ := e
    by_cases heq : k = key
    · subst heq
      rw [List.lookup_cons_self] at h
      cases h
      simp [put]
    · rw [List.lookup_cons, beq_false_of_ne (Ne.symm heq)] at h
      simp [put, heq, ih h]

/-! ## Keys -/

/-- A new key comes last. -/
theorem keys_put (key : String) (value : α) (entries : List (String × α)) :
    keys (put key value entries) =
      if key ∈ keys entries then keys entries else keys entries ++ [key] := by
  induction entries with
  | nil => simp [put, keys]
  | cons e rest ih =>
    obtain ⟨k, old⟩ := e
    by_cases heq : k = key
    · simp [put, keys, heq]
    · have hput : keys (put key value ((k, old) :: rest)) = k :: keys (put key value rest) := by
        simp [put, keys, heq]
      have hmem : key ∈ keys ((k, old) :: rest) ↔ key ∈ keys rest := by
        simp [keys, Ne.symm heq]
      rw [hput, ih]
      simp only [hmem]
      split <;> rfl

theorem mem_keys_put {k : String} {value : α} :
    k ∈ keys (put key value entries) ↔ k = key ∨ k ∈ keys entries := by
  rw [keys_put]
  split
  · rename_i hkey
    exact ⟨.inr, fun h => h.elim (fun heq => heq ▸ hkey) id⟩
  · rw [List.mem_append, List.mem_singleton, or_comm]

theorem nodup_keys_put {value : α} (h : (keys entries).Nodup) :
    (keys (put key value entries)).Nodup := by
  rw [keys_put]
  split
  · exact h
  · rename_i hkey
    refine List.nodup_append.mpr ⟨h, List.nodup_cons.mpr ⟨List.not_mem_nil, .nil⟩, ?_⟩
    intro k hk k' hk' heq
    exact hkey (List.mem_singleton.mp hk' ▸ heq ▸ hk)

/-- Entries without the key get it at their end. -/
theorem put_of_not_mem (h : key ∉ keys entries) (value : α) :
    put key value entries = entries ++ [(key, value)] := by
  induction entries with
  | nil => rfl
  | cons e rest ih =>
    obtain ⟨k, old⟩ := e
    have hne : k ≠ key := fun heq => h (heq ▸ List.mem_cons_self)
    rw [put, if_neg hne, ih fun hmem => h (List.mem_cons_of_mem _ hmem), List.cons_append]

/-! ## Pairs -/

/-- The last of several pairs with one key counts. -/
theorem lookup_ofPairs (pairs : List (String × α)) (key : String) :
    (ofPairs pairs).lookup key = pairs.reverse.lookup key := by
  -- said of any entries that the pairs are put into, so that the induction may take the first pair
  suffices h : ∀ entries : List (String × α),
      (pairs.foldl (fun entries e => put e.1 e.2 entries) entries).lookup key =
        (pairs.reverse.lookup key).or (entries.lookup key) from (h []).trans Option.or_none
  induction pairs with
  | nil => exact fun entries => rfl
  | cons e rest ih =>
    obtain ⟨k, value⟩ := e
    intro entries
    rw [List.foldl_cons, ih, lookup_put, List.reverse_cons, List.lookup_append, Option.or_assoc]
    by_cases h : key = k
    · simp [h]
    · simp [h, List.lookup_cons, beq_false_of_ne h]

theorem mem_keys_ofPairs {pairs : List (String × α)} :
    key ∈ keys (ofPairs pairs) ↔ key ∈ keys pairs := by
  suffices h : ∀ entries : List (String × α),
      key ∈ keys (pairs.foldl (fun entries e => put e.1 e.2 entries) entries) ↔
        key ∈ keys entries ∨ key ∈ keys pairs from (h []).trans (by simp [keys])
  induction pairs with
  | nil => exact fun entries => by simp [keys]
  | cons e rest ih =>
    intro entries
    rw [List.foldl_cons, ih, mem_keys_put]
    simp only [keys, List.map_cons, List.mem_cons]
    rw [or_comm (a := key = e.1), or_assoc]

theorem nodup_keys_ofPairs (pairs : List (String × α)) : (keys (ofPairs pairs)).Nodup :=
  List.foldlRecOn pairs _ (motive := fun entries => (keys entries).Nodup) .nil
    fun _ hentries _ _ => nodup_keys_put hentries

/-- Entries with distinct keys are what they come to themselves. -/
theorem ofPairs_eq_self (h : (keys entries).Nodup) : ofPairs entries = entries := by
  suffices hput : ∀ before : List (String × α), (keys (before ++ entries)).Nodup →
      entries.foldl (fun entries e => put e.1 e.2 entries) before = before ++ entries from
    hput [] h
  clear h
  induction entries with
  | nil => exact fun before _ => (List.append_nil before).symm
  | cons e rest ih =>
    obtain ⟨k, value⟩ := e
    intro before hkeys
    have hnew : k ∉ keys before := by
      intro hmem
      have hkeys : (keys before ++ k :: keys rest).Nodup := by simpa [keys] using hkeys
      exact (List.nodup_append.mp hkeys).2.2 k hmem k List.mem_cons_self rfl
    have hassoc : before ++ [(k, value)] ++ rest = before ++ (k, value) :: rest := by simp
    rw [List.foldl_cons, put_of_not_mem hnew, ih _ (hassoc ▸ hkeys), hassoc]

/-- Pairs that were put together once stay as they are. -/
theorem ofPairs_ofPairs (pairs : List (String × α)) : ofPairs (ofPairs pairs) = ofPairs pairs :=
  ofPairs_eq_self (nodup_keys_ofPairs pairs)

end Walkthrough.Keyed
