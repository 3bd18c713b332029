import Mathlib.Data.List.Nodup
import Walkthrough.Document

/-!
# Laying maps over one another

What is found in a map that was laid over another one. A key that the upper map has gives the value
there, laid over the value below when both are maps (`Document.layer`); any other key is found as it
was below (`Document.lookup_overlay`). Along a path this means that a value which is no map hides
whatever lies below it, and that a path without a value shows what lies below.

The upper map must have each of its keys once, as the entries of a map do that was read; putting a
key and laying a map over another one keep it so. The keys of the lower map keep their order, and
the new ones come behind them (`keys_overlay`).
-/

namespace Walkthrough.Document

open Keyed

variable {Atom : Type}

/-- A value that is laid over the one below it, if there is one. -/
def layer (below : Option (Document Atom)) (above : Document Atom) : Document Atom :=
  match below, above with
  | some (map under), map inner => map (overlay under inner)
  | _, d => d

/-- Nothing below leaves what is above. -/
@[simp] theorem layer_none (d : Document Atom) : layer none d = d := by
  cases d <;> rfl

/-- What is no map replaces what it meets. -/
theorem layer_of_not_isMap {d : Document Atom} (h : d.isMap = false)
    (below : Option (Document Atom)) : layer below d = d := by
  unfold layer
  split
  · cases h
  · rfl

/-- Laying entries over others is laying the first one and then the rest. -/
theorem overlay_cons (below rest : Entries Atom) (key : String) (d : Document Atom) :
    overlay below ((key, d) :: rest) =
      overlay (put key (layer (below.lookup key) d) below) rest := by
  cases d with
  | map inner =>
    -- only a map below is looked into
    rcases hbelow : below.lookup key with _ | under
    · simp [overlay, hbelow]
    · cases under <;> simp [overlay, layer, hbelow]
  | _ => rw [layer_of_not_isMap (by rfl)]; simp only [overlay]

/-- What is found in a map that was laid over another one. -/
theorem lookup_overlay {above : Entries Atom} (hkeys : (keys above).Nodup) (below : Entries Atom)
    (key : String) :
    (overlay below above).lookup key =
      match above.lookup key with
      | some d => some (layer (below.lookup key) d)
      | none => below.lookup key := by
  induction above generalizing below with
  | nil => simp [overlay]
  | cons e rest ih =>
    obtain ⟨k, d⟩ := e
    obtain ⟨hk, hrest⟩ := List.nodup_cons.mp hkeys
    rw [overlay_cons, ih hrest, lookup_put]
    by_cases heq : key = k
    · -- the rest of the upper map does not have the key again
      subst heq
      rw [lookup_eq_none_of_not_mem hk, List.lookup_cons_self]
      simp
    · rw [List.lookup_cons, beq_false_of_ne heq]
      simp [heq]

/-! ## Keys -/

/-- The keys from below keep their places, and the new ones follow. -/
theorem keys_overlay {above : Entries Atom} (hkeys : (keys above).Nodup) (below : Entries Atom) :
    keys (overlay below above) =
      keys below ++ (keys above).filter fun key => key ∉ keys below := by
  induction above generalizing below with
  | nil => simp [overlay, keys]
  | cons e rest ih =>
    obtain ⟨k, d⟩ := e
    obtain ⟨hk, hrest⟩ := List.nodup_cons.mp hkeys
    have hcons : keys ((k, d) :: rest) = k :: keys rest := rfl
    rw [overlay_cons, ih hrest, keys_put, hcons]
    by_cases hmem : k ∈ keys below
    · rw [if_pos hmem, List.filter_cons_of_neg (by simpa using hmem)]
    · -- a key that was just added does not come again
      have hfilter : ((keys rest).filter fun key => key ∉ keys below ++ [k]) =
          (keys rest).filter fun key => key ∉ keys below := by
        refine List.filter_congr fun key hkey => ?_
        have hne : key ≠ k := fun heq => hk (heq ▸ hkey)
        simp [hne]
      rw [if_neg hmem, hfilter, List.filter_cons_of_pos (by simpa using hmem), List.append_assoc]
      rfl

/-- Laying one map over another keeps keys from standing twice. -/
theorem nodup_keys_overlay {below : Entries Atom} (h : (keys below).Nodup) (above : Entries Atom) :
    (keys (overlay below above)).Nodup := by
  induction above generalizing below with
  | nil => simpa [overlay] using h
  | cons e rest ih =>
    rw [overlay_cons]
    exact ih (nodup_keys_put h)

/-- A key of the result is a key of one of the two. -/
theorem mem_keys_overlay {k : String} {below above : Entries Atom}
    (h : k ∈ keys (overlay below above)) : k ∈ keys below ∨ k ∈ keys above := by
  induction above generalizing below with
  | nil => exact .inl (by simpa [overlay] using h)
  | cons e rest ih =>
    rw [overlay_cons] at h
    rcases ih h with h | h
    · rcases mem_keys_put.mp h with rfl | h
      · exact .inr List.mem_cons_self
      · exact .inl h
    · exact .inr (List.mem_cons_of_mem _ h)

end Walkthrough.Document
