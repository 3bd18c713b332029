import Walkthrough.Settings.Library
import Walkthrough.Yaml.Node
import Walkthrough.Yaml.Scalar

/-!
# Settings files

A settings file is a YAML text of one document. `Yaml.read` gives the document that it holds as
settings are read from it: maps keep the entries with texts as keys, where the last of several
entries with one key counts, and dates, sets and the like are things that no setting takes. A map at
the top whose keys are not all texts is no map of settings.
-/

namespace Walkthrough.Yaml

/-- What the full tags of the standard kinds of values begin with. -/
def standard : String := "tag:yaml.org,2002:"

/-- The kind of a tag: its last word, or nothing when it is none of the standard ones. -/
def kindOf? (tag : String) : Option String :=
  if tag.startsWith standard then some (tag.drop standard.length).toString else none

/-- What a text with a tag stands for. -/
def taggedScalar (kind s : String) : Except Malformed SettingsDocument :=
  let number : Except Malformed SettingsDocument :=
    match Scalar.ofPlain s with
    | .int i => .ok (.int i)
    | .real r => .ok (.real r)
    | .notFinite => .ok (.atom .notFinite)
    | _ => .error .value
  match kind with
  | "str" => .ok (.text s)
  | "null" => .ok .null
  | "bool" =>
    match Scalar.bool? s with
    | some b => .ok (.bool b)
    | none => .error .value
  | "int" =>
    match Scalar.int? s.toList with
    | some i => .ok (.int i)
    | none => .error .value
  | "float" =>
    match number with
    | .ok (.int i) => .ok (.real (Number.nearestDouble i))
    | d => d
  | "timestamp" => if Scalar.isStamp s.toList then .ok (.atom .foreign) else .error .value
  | "binary" => .ok (.atom .foreign)
  | _ => .error .value

/-- What a plain text stands for. -/
def plainScalar (s : String) : Except Malformed SettingsDocument :=
  match Scalar.ofPlain s with
  | .null => .ok .null
  | .bool b => .ok (.bool b)
  | .int i => .ok (.int i)
  | .real r => .ok (.real r)
  | .notFinite => .ok (.atom .notFinite)
  | .stamp => .ok (.atom .foreign)
  | .merge => .error .value
  | .default => .error .value
  | .text s => .ok (.text s)

/-- What a text in a document stands for. -/
def scalar (tag : Option String) (style : Style) (s : String) :
    Except Malformed SettingsDocument :=
  match tag with
  | some tag =>
    if tag = "!" then plainScalar s
    else
      match kindOf? tag with
      | some kind => taggedScalar kind s
      | none => .error .value
  | none => if style = .plain then plainScalar s else .ok (.text s)

/-- Whether a list or a map is one of a kind, where no tag and the mark alone mean the usual kind;
an error when it can be of no such kind. -/
def isUsual (usual : String) (others : List String) (tag : Option String) :
    Except Malformed Bool :=
  match tag with
  | none => .ok true
  | some tag =>
    if tag = "!" then .ok true
    else
      match kindOf? tag with
      | some kind =>
        if kind = usual then .ok true
        else if others.contains kind then .ok false
        else .error .value
      | none => .error .value

namespace Node

/-- Whether a node is the mark of maps to merge. -/
def isMerge : Node → Bool
  | .text none .plain s => s = "<<"
  | .text (some tag) _ _ => tag = standard ++ "merge"
  | _ => false

/-- A mark of a default value as a key is a text. -/
def isDefault : Node → Bool
  | .text none .plain s => s = "="
  | _ => false

/-- The entries of a map with those that it merges in front of them, where a merged map may itself
merge others, at most so many levels deep. -/
def merged : (depth : Nat) → List (Node × Node) → Except Malformed (List (Node × Node))
  | 0, _ => .error .order
  | depth + 1, entries => do
    let own := entries.filter fun e => !isMerge e.1
    let parts ← (entries.filter fun e => isMerge e.1).mapM fun e =>
      match e.2 with
      | .map _ inner => merged depth inner
      | .list _ items => do
        let maps ← items.mapM fun
          | .map _ inner => merged depth inner
          | _ => .error .value
        .ok maps.reverse.flatten
      | _ => .error .value
    .ok (parts.flatten ++ own)

/-- The key that a document is: a text, or one that does not count. Lists and maps are no keys. -/
def keyOf : SettingsDocument → Except Malformed (Option String)
  | .text s => .ok (some s)
  | .list _ => .error .value
  | .map _ => .error .value
  | _ => .ok none

/-- The document that a node holds, at most so many levels deep, and whether it is a map with keys
that are no texts. -/
def read : (depth : Nat) → Node → Except Malformed (SettingsDocument × Bool)
  | 0, _ => .error .order
  | _ + 1, .text tag style s => (scalar tag style s).map fun d => (d, false)
  | depth + 1, .list tag items => do
    let usual ← isUsual "seq" ["omap", "pairs"] tag
    let ds ← items.mapM fun item => (read depth item).map Prod.fst
    .ok (if usual then .list ds else .atom .foreign, false)
  | depth + 1, .map tag entries => do
    let usual ← isUsual "map" ["set"] tag
    let entries ← merged (depth + 1) entries
    let read ← entries.mapM fun e => do
      let key ←
        if isDefault e.1 then .ok (some "=") else ((read depth e.1).map Prod.fst).bind keyOf
      let (d, _) ← read depth e.2
      .ok (key, d)
    let kept := read.foldl (fun done e =>
      match e.1 with
      | some key => Keyed.put key e.2 done
      | none => done) []
    let stray := read.any fun e => e.1.isNone
    .ok (if usual then (.map kept, stray) else (.atom .foreign, false))

/-- The greatest number of levels of a node, itself included. -/
def depth : Node → Nat
  | .text .. => 1
  | .list _ items => depthOfItems items + 1
  | .map _ entries => depthOfEntries entries + 1
where
  /-- The greatest number of levels of some nodes. -/
  depthOfItems : List Node → Nat
    | [] => 0
    | item :: items => max item.depth (depthOfItems items)
  /-- The greatest number of levels of the nodes in some entries. -/
  depthOfEntries : List (Node × Node) → Nat
    | [] => 0
    | (k, v) :: entries => max (max k.depth v.depth) (depthOfEntries entries)

end Node

/-- The document that a settings file holds. -/
def read (s : String) : Except LoadError SettingsDocument :=
  match Node.ofText s with
  | .error _ => .error .malformed
  | .ok none => .ok .null
  | .ok (some node) =>
    match node.read (node.depth + 1) with
    | .error _ => .error .malformed
    | .ok (d, stray) => if stray then .error .noFields else .ok d

end Walkthrough.Yaml
