import Walkthrough.Keyed

/-!
# Documents

Nested plain data, as settings files hold it and as scripts on a page take and give it: nothing,
truth values, numbers, texts, lists and maps with texts as keys. Whatever else a kind of document
may hold is an `Atom` of it.

A map is a list of entries; the first entry with a key counts. `Document.find?` follows a path of
keys into nested maps, and `Document.overlay` lays one map over another: maps that meet are laid
over one another in turn, and anything else replaces what it meets.

Mirroring notes:
- `overlay` is `_deep_update`. That one changes the map that it is given; maps are taken here
  without sharing, so the result is a map of its own.
-/

namespace Walkthrough

/-- Nested plain data. -/
inductive Document (Atom : Type) where
  | null
  | bool (b : Bool)
  | int (i : Int)
  | real (r : Rat)
  | text (s : String)
  | list (items : List (Document Atom))
  | map (entries : List (String × Document Atom))
  | atom (a : Atom)
  deriving Inhabited

namespace Document

variable {Atom : Type}

/-- The entries of a map, in order. -/
abbrev Entries (Atom : Type) : Type := List (String × Document Atom)

/-- Whether a document counts as true: nothing, zero and whatever is empty do not. -/
def truthy : Document Atom → Bool
  | null => false
  | bool b => b
  | int i => i != 0
  | real r => r != 0
  | text s => !s.isEmpty
  | list items => !items.isEmpty
  | map entries => !entries.isEmpty
  | atom _ => true

/-- Whether a document is a map. -/
def isMap : Document Atom → Bool
  | map _ => true
  | _ => false

mutual

/-- How many lists and maps there are around the innermost part of a document. -/
def depth : Document Atom → Nat
  | list items => depthOfAll items + 1
  | map entries => depthOfEntries entries + 1
  | _ => 0

/-- The depth of the deepest of several documents. -/
def depthOfAll : List (Document Atom) → Nat
  | [] => 0
  | d :: ds => max d.depth (depthOfAll ds)

/-- The depth of the deepest entry. -/
def depthOfEntries : List (String × Document Atom) → Nat
  | [] => 0
  | (_, d) :: rest => max d.depth (depthOfEntries rest)

end

/-- The document at the end of a path of keys. -/
def find? : Document Atom → List String → Option (Document Atom)
  | d, [] => some d
  | map entries, key :: path => (entries.lookup key).bind fun d => d.find? path
  | _, _ :: _ => none

/-- Lays entries over other entries. A map is taken with all that is in it, and none is shared: the
same map under two keys is two maps here, so laying one over the first leaves the second as it is.
A program that updates maps in place sees both change. -/
def overlay (below : Entries Atom) : (above : Entries Atom) → Entries Atom
  | [] => below
  | (key, map inner) :: rest =>
    match below.lookup key with
    | some (map under) => overlay (Keyed.put key (map (overlay under inner)) below) rest
    | _ => overlay (Keyed.put key (map inner) below) rest
  | (key, d) :: rest => overlay (Keyed.put key d below) rest

/-! ## Laws -/

@[simp] theorem find?_nil (d : Document Atom) : d.find? [] = some d := by cases d <;> rfl

end Document

end Walkthrough
