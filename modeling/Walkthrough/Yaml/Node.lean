import Walkthrough.Yaml.Token

/-!
# Nodes of a YAML document

The tree that the tokens of a text spell out: texts, lists and maps, with their tags, and references
resolved to what they refer to. `Node.ofText` reads the one document of a text.

Reading recurs on a depth that the number of tokens bounds, because every call below another one
comes after at least one more token.
-/

namespace Walkthrough.Yaml

/-- A node of a document. -/
inductive Node where
  | text (tag : Option String) (style : Style) (text : String)
  | list (tag : Option String) (items : List Node)
  | map (tag : Option String) (entries : List (Node × Node))
  deriving Repr, Inhabited

/-- What is known while a document is read: the tokens that are left, what the handles of tags stand
for, and the named nodes, where one that is still open has no node yet. -/
structure Reading where
  tokens : List Token
  handles : List (String × String) := [("!", "!"), ("!!", "tag:yaml.org,2002:")]
  named : List (String × Option Node) := []

namespace Reading

/-- A step of reading. -/
abbrev Read (α : Type) : Type := StateT Reading (Except Malformed) α

/-- The next token. -/
def peek : Read (Option Token) := do return (← get).tokens.head?

/-- Goes past the next token. -/
def skip : Read Unit := modify fun r => { r with tokens := r.tokens.drop 1 }

/-- Goes past the next token if it is the given one, and says whether it was. -/
def accept (t : Token) : Read Bool := do
  if (← peek) = some t then
    skip
    return true
  else return false

/-- Goes past the next token, which has to be the given one. -/
def require (t : Token) : Read Unit := do
  if !(← accept t) then throw .order

/-- Whether the next token is one of these. -/
def before (ts : List Token) : Read Bool := do
  match ← peek with
  | some t => return ts.contains t
  | none => return false

/-- The node of nothing at all. -/
def empty (tag : Option String) : Node := .text tag .plain ""

/-- The tag that a mark stands for. -/
def tagOf (mark : TagMark) : Read String := do
  match mark with
  | .full tag => return tag
  | .short handle suffix =>
    match (← get).handles.lookup handle with
    | some start => return start ++ suffix
    | none => throw .mark

/-- An anchor in front of a node. -/
def anchor : Read (Option String) := do
  match ← peek with
  | some (.anchor name) =>
    skip
    return some name
  | _ => return none

/-- A tag in front of a node. -/
def tag : Read (Option String) := do
  match ← peek with
  | some (.tag mark) =>
    skip
    return some (← tagOf mark)
  | _ => return none

/-- The node that a name refers to. -/
def named? (name : String) : Read Node := do
  match (← get).named.lookup name with
  | some (some node) => return node
  | _ => throw (.reference name)

/-- Gives a node its name while it is read, if it has one. -/
def naming (name : Option String) (node : Read Node) : Read Node := do
  match name with
  | none => node
  | some name =>
    if ((← get).named.lookup name).isSome then throw (.sameName name)
    modify fun r => { r with named := (name, none) :: r.named }
    let made ← node
    modify fun r => { r with named := (name, some made) :: r.named }
    return made

/-- The items of a list in a block, each read by `node`. -/
def blockItems (node : Read Node) : Nat → Read (List Node)
  | 0 => throw .order
  | n + 1 => do
    if ← accept .entry then
      let item ← if ← before [.entry, .levelEnd] then pure (empty none) else node
      return item :: (← blockItems node n)
    else
      require .levelEnd
      return []

/-- The items of a list that is indented no further than the map that it stands in. -/
def flatItems (node : Read Node) : Nat → Read (List Node)
  | 0 => throw .order
  | n + 1 => do
    if ← accept .entry then
      let item ←
        if ← before [.entry, .key, .value, .levelEnd] then pure (empty none) else node
      return item :: (← flatItems node n)
    else return []

/-- The entries of a map in a block. -/
def blockEntries (node : Read Node) : Nat → Read (List (Node × Node))
  | 0 => throw .order
  | n + 1 => do
    if ← accept .key then
      let nothing := before [.key, .value, .levelEnd]
      let key ← if ← nothing then pure (empty none) else node
      let value ←
        if ← accept .value then (do if ← nothing then pure (empty none) else node)
        else pure (empty none)
      return (key, value) :: (← blockEntries node n)
    else
      require .levelEnd
      return []

/-- A key and its value between brackets, after the mark of the key. -/
def flowEntry (close : Token) (node : Read Node) : Read (Node × Node) := do
  let key ← if ← before [.value, .comma, close] then pure (empty none) else node
  let value ←
    if ← accept .value then (do if ← before [.comma, close] then pure (empty none) else node)
    else pure (empty none)
  return (key, value)

/-- What stands between brackets, with commas in between; `first` says whether nothing came yet. -/
def flowItems {α : Type} (close : Token) (item : Read α) : (first : Bool) → Nat → Read (List α)
  | _, 0 => throw .order
  | first, n + 1 => do
    if ← accept close then return []
    if !first then require .comma
    if ← accept close then return []
    let a ← item
    return a :: (← flowItems close item false n)

/-- An item of a list between brackets: a node, or a map of one entry. -/
def flowListItem (node : Read Node) : Read Node := do
  if ← accept .key then
    let entry ← flowEntry .flowListEnd node
    return .map none [entry]
  else node

/-- An entry of a map between brackets: with the mark of a key, or a key alone. -/
def flowMapItem (node : Read Node) : Read (Node × Node) := do
  if ← accept .key then flowEntry .flowMapEnd node
  else return (← node, empty none)

/-- The kinds of places where a node may stand. -/
inductive Place where
  /-- Between brackets. -/
  | flow
  /-- In a block. -/
  | block
  /-- In a map in a block, where a list may be indented no further than the map. -/
  | entry
  deriving DecidableEq

/-- What follows the marks in front of a node. -/
def content (node : Place → Read Node) (place : Place) (marked : Bool) (tag : Option String)
    (size : Nat) : Read Node := do
  match ← peek with
  | some .entry =>
    if place = .entry then return .list tag (← flatItems (node .block) size)
    else if marked then return empty tag
    else throw .order
  | some (.text style s) =>
    skip
    return .text tag style s
  | some .flowListStart =>
    skip
    return .list tag (← flowItems .flowListEnd (flowListItem (node .flow)) true size)
  | some .flowMapStart =>
    skip
    return .map tag (← flowItems .flowMapEnd (flowMapItem (node .flow)) true size)
  | some .listStart =>
    if place = .flow then throw .order
    skip
    return .list tag (← blockItems (node .block) size)
  | some .mapStart =>
    if place = .flow then throw .order
    skip
    return .map tag (← blockEntries (node .entry) size)
  | _ => if marked then return empty tag else throw .order

/-- A node, at most so many levels deep. -/
def node (size : Nat) : (depth : Nat) → Place → Read Node
  | 0, _ => throw .order
  | depth + 1, place => do
    match ← peek with
    | some (.alias name) =>
      skip
      named? name
    | _ =>
      let first ← anchor
      let kind ← tag
      let second ← if first.isNone && kind.isSome then anchor else pure none
      let name := first.or second
      naming name (content (node size depth) place (name.isSome || kind.isSome) kind size)

/-- The directives in front of a document. -/
def directives : Nat → Read Unit
  | 0 => return ()
  | n + 1 => do
    match ← peek with
    | some (.version major _) =>
      if major ≠ 1 then throw .directive
      skip
      directives n
    | some (.handle handle tag) =>
      skip
      modify fun r => { r with handles := (handle, tag) :: r.handles }
      directives n
    | some .otherDirective =>
      skip
      directives n
    | _ => return ()

/-- Goes past the marks of the ends of documents. -/
def ends : Nat → Read Unit
  | 0 => return ()
  | n + 1 => do if ← accept .documentEnd then ends n

/-- Whether a document starts with a mark here, or the text ends. -/
def atStart : Read Bool := do
  match ← peek with
  | none => return true
  | some .documentStart => return true
  | some (.version ..) => return true
  | some (.handle ..) => return true
  | some .otherDirective => return true
  | _ => return false

/-- The node of a document, after the mark that starts it. -/
def root (size : Nat) : Read Node := do
  if (← atStart) || (← before [.documentEnd]) then return empty none
  else node size size .block

/-- The one document of the text, if it has one. -/
def document (size : Nat) : Read (Option Node) := do
  if !(← atStart) then
    let found ← root size
    ends size
    if (← peek).isSome then throw (if ← atStart then .manyDocuments else .order)
    return some found
  else
    if (← peek).isNone then return none
    directives size
    require .documentStart
    let found ← root size
    ends size
    if (← peek).isSome then throw (if ← atStart then .manyDocuments else .order)
    return some found

end Reading

/-- The one document of a text, if it has one. -/
def Node.ofText (s : String) : Except Malformed (Option Node) := do
  let tokens ← Token.ofText s
  let size := tokens.length + 1
  let (found, _) ← (Reading.document size).run { tokens }
  return found

end Walkthrough.Yaml
