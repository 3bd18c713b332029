import Walkthrough.Yaml.Text

/-!
# Tokens of YAML

The marks and texts that a YAML text is made of, with the levels of indentation as tokens of their
own. `Token.ofText` cuts a text into tokens.

A key needs no mark of its own: whatever could be a key is remembered, and when a colon follows it
on the same line the tokens for a key are put in front of it. Something that has to be a key,
because it starts a line of a map, and is not followed by a colon is an error.
-/

namespace Walkthrough.Yaml

/-- How a text was written: plain texts may stand for other values. -/
inductive Style where
  | plain
  | quoted
  deriving DecidableEq, Repr

/-- A tag before a node: a handle and a suffix, or a tag in full. -/
inductive TagMark where
  | full (tag : String)
  | short (handle suffix : String)
  deriving DecidableEq, Repr

/-- The tokens of a text. -/
inductive Token where
  | version (major minor : Nat)
  | handle (handle tag : String)
  | otherDirective
  | documentStart
  | documentEnd
  | listStart
  | mapStart
  | levelEnd
  | flowListStart
  | flowListEnd
  | flowMapStart
  | flowMapEnd
  | entry
  | comma
  | key
  | value
  | alias (name : String)
  | anchor (name : String)
  | tag (mark : TagMark)
  | text (style : Style) (text : String)
  deriving DecidableEq, Repr

/-- Something that may turn out to be a key: how many tokens came before it, where it starts, and
whether it has to be one. -/
structure KeyStart where
  tokens : Nat
  required : Bool
  cursor : Cursor

/-- A text that is being cut into tokens. -/
structure Lexer where
  cursor : Cursor
  /-- The tokens so far, in order. -/
  tokens : List Token := []
  /-- The column of the current level, and those of the levels around it. -/
  indent : Int := -1
  outer : List Int := []
  /-- How many brackets are open. -/
  flow : Nat := 0
  /-- What may turn out to be a key, for each number of open brackets. -/
  keys : List (Nat × KeyStart) := []
  /-- Whether a key may start here. -/
  keyAllowed : Bool := true

namespace Lexer

/-- A step of the lexer. -/
abbrev Step : Type := Lexer → Except Malformed Lexer

/-- Adds a token. -/
def emit (t : Token) (l : Lexer) : Lexer := { l with tokens := l.tokens ++ [t] }

/-- Moves on to another place. -/
def goTo (c : Cursor) (l : Lexer) : Lexer := { l with cursor := c }

/-- The column of the next character. -/
def column (l : Lexer) : Int := l.cursor.column

/-- Forgets what may turn out to be a key in the innermost brackets. -/
def dropKey : Step := fun l =>
  match l.keys.lookup l.flow with
  | some k =>
    if k.required then .error .key
    else .ok { l with keys := l.keys.filter fun e => e.1 != l.flow }
  | none => .ok l

/-- Remembers that a key may start here. -/
def saveKey : Step := fun l =>
  if l.keyAllowed then
    (dropKey l).map fun l =>
      let required := l.flow = 0 && l.indent = l.column
      { l with keys := (l.flow, ⟨l.tokens.length, required, l.cursor⟩) :: l.keys }
  else .ok l

/-- The most characters of a key without a mark. -/
def keyLength : Nat := 1024

/-- Forgets what can be no key any more: a key ends on its line. -/
def dropStaleKeys : Step := fun l =>
  let stale (k : KeyStart) : Bool :=
    k.cursor.line != l.cursor.line || keyLength < l.cursor.index - k.cursor.index
  if l.keys.any fun e => stale e.2 && e.2.required then .error .key
  else .ok { l with keys := l.keys.filter fun e => !stale e.2 }

/-- Ends the levels that are indented further than a column. -/
def unwind (column : Int) (l : Lexer) : Lexer :=
  if l.flow ≠ 0 then l
  else
    let rec go (indent : Int) (ended : Nat) : List Int → Int × Nat × List Int
      | [] => (indent, ended, [])
      | next :: outer =>
        if column < indent then go next (ended + 1) outer else (indent, ended, next :: outer)
    let (indent, ended, outer) := go l.indent 0 l.outer
    { l with indent, outer, tokens := l.tokens ++ List.replicate ended .levelEnd }

/-- Starts a level at a column unless there is one that far. -/
def indentTo (column : Int) (start : Lexer → Lexer) (l : Lexer) : Lexer :=
  if l.indent < column then start { l with outer := l.indent :: l.outer, indent := column } else l

/-- Moves on to the next token, past blanks, comments and line breaks. -/
def toNextToken : Nat → Lexer → Lexer
  | 0, l => l
  | n + 1, l =>
    let c := l.cursor.skipWhile (· = ' ')
    let c := if c.peek 0 = some '#' then c.skipWhile (!isBreak ·) else c
    match c.peek 0 with
    | some ch =>
      if isBreak ch then
        let l := l.goTo c.lineBreak.2
        toNextToken n (if l.flow = 0 then { l with keyAllowed := true } else l)
      else l.goTo c
    | none => l.goTo c

/-- Ends all levels, as between documents. -/
def endLevels : Step := fun l =>
  (dropKey (l.unwind (-1))).map fun l => { l with keyAllowed := false }

/-! ## Marks -/

/-- A mark between documents. -/
def documentMark (t : Token) : Step := fun l =>
  (endLevels l).map fun l => (l.emit t).goTo (l.cursor.skip 3)

/-- An opening bracket. -/
def open_ (t : Token) : Step := fun l =>
  (saveKey l).map fun l =>
    { (l.emit t).goTo l.cursor.next with flow := l.flow + 1, keyAllowed := true }

/-- A closing bracket. -/
def close (t : Token) : Step := fun l =>
  if l.flow = 0 then .error .order
  else
    (dropKey l).map fun l =>
      { (l.emit t).goTo l.cursor.next with flow := l.flow - 1, keyAllowed := false }

/-- A comma between entries in brackets. -/
def comma : Step := fun l =>
  (dropKey l).map fun l => { (l.emit .comma).goTo l.cursor.next with keyAllowed := true }

/-- The mark of an entry of a list. -/
def entry : Step := fun l =>
  if l.flow = 0 && !l.keyAllowed then .error .entry
  else
    let l := if l.flow = 0 then l.indentTo l.column (emit .listStart) else l
    (dropKey l).map fun l => { (l.emit .entry).goTo l.cursor.next with keyAllowed := true }

/-- The mark of a key. -/
def key : Step := fun l =>
  if l.flow = 0 && !l.keyAllowed then .error .key
  else
    let l := if l.flow = 0 then l.indentTo l.column (emit .mapStart) else l
    (dropKey l).map fun l =>
      { (l.emit .key).goTo l.cursor.next with keyAllowed := l.flow = 0 }

/-- Puts the tokens for a key in front of what turned out to be one. -/
def insertKey (k : KeyStart) (l : Lexer) : Lexer :=
  let insert (t : Token) (l : Lexer) : Lexer := { l with tokens := l.tokens.insertIdx k.tokens t }
  let l := insert .key l
  let l := if l.flow = 0 then l.indentTo k.cursor.column (insert .mapStart) else l
  { l with keys := l.keys.filter fun e => e.1 != l.flow, keyAllowed := false }

/-- The mark of a value. -/
def value : Step := fun l =>
  match l.keys.lookup l.flow with
  | some k =>
    let l := l.insertKey k
    .ok ((l.emit .value).goTo l.cursor.next)
  | none =>
    if l.flow = 0 && !l.keyAllowed then .error .key
    else
      let l := if l.flow = 0 then l.indentTo l.column (emit .mapStart) else l
      (dropKey { l with keyAllowed := l.flow = 0 }).map fun l =>
        (l.emit .value).goTo l.cursor.next

/-! ## Names and tags -/

/-- Whether a character may stand in a name. -/
def isNameChar (c : Char) : Bool := c.isAlphanum || c = '-' || c = '_'

/-- The name of an anchor or of a reference to one. -/
def name (make : String → Token) : Step := fun l => do
  let l ← saveKey l
  let (cs, c) := l.cursor.next.takeWhile isNameChar
  let ends := isGap (c.peek 0) || ((c.peek 0).map "?:,]\x7d%@\x60".toList.contains).getD false
  if cs.isEmpty || !ends then .error .mark
  else .ok { (l.emit (make (String.ofList cs))).goTo c with keyAllowed := false }

/-- Whether a character may stand in a tag. -/
def isTagChar (c : Char) : Bool :=
  c.isAlphanum || "-;/?:@&=+$,_.!~*'()[]%".toList.contains c

/-- A tag with its percent escapes undone. -/
def unescapeTag : List Char → List Char
  | '%' :: a :: b :: rest =>
    match hexValue? a, hexValue? b with
    | some x, some y => Char.ofNat (16 * x + y) :: unescapeTag rest
    | _, _ => '%' :: unescapeTag (a :: b :: rest)
  | c :: rest => c :: unescapeTag rest
  | [] => []

/-- The rest of a tag, and the place after it. -/
def tagRest (c : Cursor) : Except Malformed (String × Cursor) :=
  let (cs, c) := c.takeWhile isTagChar
  if cs.isEmpty then .error .mark else .ok (String.ofList (unescapeTag cs), c)

/-- A tag from its exclamation mark on, and the place after it. -/
def tagMark (c : Cursor) : Except Malformed (TagMark × Cursor) :=
  match c.peek 1 with
  | some '<' => do
    let (tag, c) ← tagRest (c.skip 2)
    if c.peek 0 = some '>' then .ok (.full tag, c.next) else .error .mark
  | next =>
    if isGap next then .ok (.full "!", c.next)
    else
      let word := c.next.rest.takeWhile fun ch => ch ≠ ' ' && !isBreak ch
      let handle := word.takeWhile (· ≠ '!')
      if word.contains '!' then
        if handle.all isNameChar then
          (tagRest (c.skip (handle.length + 2))).map fun (suffix, c) =>
            (.short ("!" ++ String.ofList handle ++ "!") suffix, c)
        else .error .mark
      else (tagRest c.next).map fun (suffix, c) => (.short "!" suffix, c)

/-- A tag. -/
def tag : Step := fun l => do
  let l ← saveKey l
  let (mark, c) ← tagMark l.cursor
  if isGap (c.peek 0) && c.peek 0 ≠ some '\t' then
    .ok { (l.emit (.tag mark)).goTo c with keyAllowed := false }
  else .error .mark

/-! ## Directives -/

/-- The words of a line. -/
def lineWords (cs : List Char) : List (List Char) :=
  ((cs.splitBy fun a b => (a = ' ') == (b = ' ')).filter fun w => w.head? ≠ some ' ').takeWhile
    fun w => w.head? ≠ some '#'

/-- The number with these digits, if they are that. -/
def digits? (cs : List Char) : Option Nat :=
  if cs.isEmpty || !cs.all Char.isDigit then none
  else some (cs.foldl (fun n c => 10 * n + (c.toNat - 48)) 0)

/-- What the words of a directive say. -/
def directiveOf : List (List Char) → Except Malformed Token
  | [] => .error .directive
  | kind :: arguments =>
    if kind = "YAML".toList then
      match arguments with
      | [version] =>
        let minor := (version.dropWhile (· ≠ '.')).drop 1
        match digits? (version.takeWhile (· ≠ '.')), digits? minor with
        | some major, some minor => .ok (.version major minor)
        | _, _ => .error .directive
      | _ => .error .directive
    else if kind = "TAG".toList then
      match arguments with
      | [handle, tag] =>
        if handle.head? = some '!' && handle.getLast? = some '!' then
          .ok (.handle (String.ofList handle) (String.ofList (unescapeTag tag)))
        else .error .directive
      | _ => .error .directive
    else if kind.all isNameChar then .ok .otherDirective
    else .error .directive

/-- A directive, on a line of its own. -/
def directive : Step := fun l => do
  let l ← endLevels l
  let (line, c) := l.cursor.next.takeWhile (!isBreak ·)
  let t ← if line.head? = some ' ' then .error .directive else directiveOf (lineWords line)
  .ok ((l.emit t).goTo c.lineBreak.2)

/-! ## Texts -/

/-- A text between quotation marks. -/
def quotedText (double : Bool) : Step := fun l => do
  let l ← saveKey l
  let (cs, c) ← quoted double (l.cursor.rest.length + 1) l.cursor.next
  .ok { (l.emit (.text .quoted (String.ofList cs))).goTo c with keyAllowed := false }

/-- A block. -/
def blockText (fold : Bool) : Step := fun l => do
  let l ← dropKey { l with keyAllowed := true }
  let (cs, c) ← block fold l.indent l.cursor.next
  .ok ((l.emit (.text .quoted (String.ofList cs))).goTo c)

/-- A plain text. -/
def plainText : Step := fun l =>
  (saveKey l).map fun l =>
    let (cs, broken, c) :=
      plain (l.flow ≠ 0) (l.indent + 1) (l.cursor.rest.length + 1) l.cursor [] false
    { (l.emit (.text .plain (String.ofList cs))).goTo c with keyAllowed := broken }

/-- Whether a plain text may start with a character before another one. -/
def startsPlain (flow : Bool) (c : Char) (after : Option Char) : Bool :=
  !(isGap (some c) || "-?:,[]\x7b\x7d#&*!|>'\"%@\x60".toList.contains c) ||
    (!isGap after && (c = '-' || (!flow && (c = '?' || c = ':'))))

/-! ## The whole text -/

/-- The next token, from its first character on. -/
def token (ch : Char) : Step := fun l =>
  let c := l.cursor
  let after := c.peek 1
  let marked := l.flow ≠ 0 || isGap after
  if ch = '%' && c.column = 0 then directive l
  else if c.column = 0 && c.atDocumentMark then
    documentMark (if ch = '-' then .documentStart else .documentEnd) l
  else if ch = '[' then open_ .flowListStart l
  else if ch = '\x7b' then open_ .flowMapStart l
  else if ch = ']' then close .flowListEnd l
  else if ch = '\x7d' then close .flowMapEnd l
  else if ch = ',' then comma l
  else if ch = '-' && isGap after then entry l
  else if ch = '?' && marked then key l
  else if ch = ':' && marked then value l
  else if ch = '*' then name .alias l
  else if ch = '&' then name .anchor l
  else if ch = '!' then tag l
  else if ch = '|' && l.flow = 0 then blockText false l
  else if ch = '>' && l.flow = 0 then blockText true l
  else if ch = '\'' then quotedText false l
  else if ch = '"' then quotedText true l
  else if startsPlain (l.flow ≠ 0) ch after then plainText l
  else .error (.character ch)

/-- Cuts the rest of a text into tokens. -/
def run : Nat → Lexer → Except Malformed (List Token)
  | 0, _ => .error .order
  | n + 1, l => do
    let l := toNextToken (l.cursor.rest.length + 1) l
    let l ← dropStaleKeys l
    let l := l.unwind l.column
    match l.cursor.peek 0 with
    | none => (endLevels l).map tokens
    | some ch => run n (← token ch l)

end Lexer

/-- The tokens of a text. -/
def Token.ofText (s : String) : Except Malformed (List Token) :=
  let cs := s.toList
  match cs.find? fun c => !isAllowed c with
  | some c => .error (.character c)
  | none =>
    let cs := if cs.head? = some '\uFEFF' then cs.drop 1 else cs
    Lexer.run (cs.length + 1) { cursor := { rest := cs } }

end Walkthrough.Yaml
