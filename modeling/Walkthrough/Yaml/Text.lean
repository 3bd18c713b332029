import Walkthrough.Yaml.Cursor

/-!
# Texts in YAML

The four ways of writing a text: plain, between quotation marks, and as a block that keeps its line
breaks or folds them. In the first two, and in a folded block, a single line break between words
stands for a blank, and each further one for itself.

Every function recurs on a number that is at least the number of characters left.
-/

namespace Walkthrough.Yaml

/-- A line break that is folded together with the breaks after it. -/
def folded (first : List Char) (more : List (List Char)) : List Char :=
  (if first ≠ ['\n'] then first else if more.isEmpty then [' '] else []) ++ more.flatten

/-! ## Plain texts -/

/-- Whether a colon before this character ends a plain text. -/
def endsKey (flow : Bool) (after : Option Char) : Bool :=
  isGap after || (flow && (after.map ",[]\x7b\x7d".toList.contains).getD false)

/-- The characters of a plain text on one stretch of a line. -/
def plainRun (flow : Bool) : List Char → List Char
  | [] => []
  | c :: rest =>
    if isGap (some c) || (c = ':' && endsKey flow rest.head?) ||
        (flow && ",?[]\x7b\x7d".toList.contains c) then []
    else c :: plainRun flow rest

/-- The line breaks from here on, past blanks in front of them, in order; `none` when a mark between
documents follows. -/
def plainBreaks : Nat → Cursor → Option (List (List Char) × Cursor)
  | 0, c => some ([], c)
  | n + 1, c =>
    match c.peek 0 with
    | some ' ' => plainBreaks n c.next
    | some ch =>
      if isBreak ch then
        let (b, c) := c.lineBreak
        if c.atDocumentMark then none
        else (plainBreaks n c).map fun (bs, c) => (b :: bs, c)
      else some ([], c)
    | none => some ([], c)

/-- What stands between two stretches of a plain text, and whether it holds a line break. -/
def plainGap (n : Nat) (c : Cursor) : List Char × Bool × Cursor :=
  let (blanks, c) := c.takeWhile (· = ' ')
  match c.peek 0 with
  | none => (blanks, false, c)
  | some ch =>
    if isBreak ch then
      let (first, c) := c.lineBreak
      if c.atDocumentMark then ([], true, c)
      else
        match plainBreaks n c with
        | some (more, c) => (folded first more, true, c)
        | none =>
          -- the place of the mark is found again by going over the breaks
          ([], true, c.skipWhile fun ch => ch = ' ' || isBreak ch)
    else (blanks, false, c)

/-- A plain text from here on: its characters, whether a line break came after the last of them, and
the place after it. `indent` is the least column of its further lines. -/
def plain (flow : Bool) (indent : Int) : Nat → Cursor → List Char → Bool →
    List Char × Bool × Cursor
  | 0, c, _, broken => ([], broken, c)
  | n + 1, c, gap, broken =>
    let run := if c.peek 0 = some '#' then [] else plainRun flow c.rest
    if run.isEmpty then ([], broken, c)
    else
      let c := c.skip run.length
      let (gap', broken', c) := plainGap n c
      let stop := gap'.isEmpty || c.peek 0 = some '#' || (!flow && (c.column : Int) < indent)
      if stop then (gap ++ run, broken', c)
      else
        let (more, broken'', c) := plain flow indent n c gap' broken'
        (gap ++ run ++ more, broken'', c)

/-! ## Texts between quotation marks -/

/-- The line breaks from here on, past the blanks around them. -/
def quotedBreaks : Nat → Cursor → Except Malformed (List (List Char) × Cursor)
  | 0, c => .ok ([], c)
  | n + 1, c =>
    if c.atDocumentMark then .error .unclosed
    else
      let c := c.skipWhile fun ch => ch = ' ' || ch = '\t'
      match c.peek 0 with
      | some ch =>
        if isBreak ch then
          let (b, c) := c.lineBreak
          (quotedBreaks n c).map fun (bs, c) => (b :: bs, c)
        else .ok ([], c)
      | none => .ok ([], c)

/-- The character for a letter after a backslash. -/
def escaped? : Char → Option Char
  | '0' => some '\x00'
  | 'a' => some '\x07'
  | 'b' => some '\x08'
  | 't' => some '\t'
  | '\t' => some '\t'
  | 'n' => some '\n'
  | 'v' => some '\x0b'
  | 'f' => some '\x0c'
  | 'r' => some '\r'
  | 'e' => some '\x1b'
  | ' ' => some ' '
  | '"' => some '"'
  | '\\' => some '\\'
  | '/' => some '/'
  | 'N' => some '\x85'
  | '_' => some '\xa0'
  | 'L' => some '\u2028'
  | 'P' => some '\u2029'
  | _ => none

/-- How many hexadecimal digits follow a letter after a backslash. -/
def escapeLength? : Char → Option Nat
  | 'x' => some 2
  | 'u' => some 4
  | 'U' => some 8
  | _ => none

/-- The value of a hexadecimal digit. -/
def hexValue? (c : Char) : Option Nat :=
  if '0' ≤ c && c ≤ '9' then some (c.toNat - 48)
  else if 'a' ≤ c && c ≤ 'f' then some (c.toNat - 87)
  else if 'A' ≤ c && c ≤ 'F' then some (c.toNat - 55)
  else none

/-- What an escape stands for, from the character after the backslash on. -/
def escape (n : Nat) (c : Cursor) : Except Malformed (List Char × Cursor) :=
  match c.peek 0 with
  | none => .error .unclosed
  | some letter =>
    match escaped? letter, escapeLength? letter with
    | some ch, _ => .ok ([ch], c.next)
    | none, some length =>
      let digits := c.next.rest.take length
      match digits.mapM hexValue? with
      | some values =>
        if values.length = length then
          let code := values.foldl (fun n d => 16 * n + d) 0
          if code < 0x110000 then .ok ([Char.ofNat code], c.next.skip length)
          else .error .escape
        else .error .escape
      | none => .error .escape
    | none, none =>
      if isBreak letter then
        (quotedBreaks n c.lineBreak.2).map fun (bs, c) => (bs.flatten, c)
      else .error .escape

/-- The rest of a text between quotation marks, and the place after the closing mark. -/
def quoted (double : Bool) : Nat → Cursor → Except Malformed (List Char × Cursor)
  | 0, _ => .error .unclosed
  | n + 1, c =>
    match c.peek 0 with
    | none => .error .unclosed
    | some ch =>
      let further (cs : List Char) (c : Cursor) : Except Malformed (List Char × Cursor) :=
        (quoted double n c).map fun (more, c) => (cs ++ more, c)
      if !double && ch = '\'' then
        if c.peek 1 = some '\'' then further ['\''] (c.skip 2) else .ok ([], c.next)
      else if double && ch = '"' then .ok ([], c.next)
      else if double && ch = '\\' then
        match escape n c.next with
        | .ok (cs, c) => further cs c
        | .error e => .error e
      else if isGap (some ch) then
        let (blanks, c) := c.takeWhile fun ch => ch = ' ' || ch = '\t'
        match c.peek 0 with
        | none => .error .unclosed
        | some ch =>
          if isBreak ch then
            let (first, c) := c.lineBreak
            match quotedBreaks n c with
            | .ok (more, c) => further (folded first more) c
            | .error e => .error e
          else further blanks c
      else further [ch] c.next

/-! ## Blocks -/

/-- What becomes of the line breaks at the end of a block. -/
inductive Chomping where
  | clip
  | strip
  | keep
  deriving DecidableEq, Repr

/-- How a block is written: what becomes of its last line breaks, and how far it is indented when
that is said. -/
structure BlockHeader where
  chomping : Chomping := .clip
  increment : Option Nat := none

/-- The header of a block, from the character after its mark on. -/
def blockHeader (c : Cursor) : Except Malformed (BlockHeader × Cursor) :=
  let chomping? (c : Cursor) : Option Chomping :=
    match c.peek 0 with
    | some '+' => some .keep
    | some '-' => some .strip
    | _ => none
  let increment? (c : Cursor) : Except Malformed (Option Nat) :=
    match c.peek 0 with
    | some ch =>
      if '1' ≤ ch && ch ≤ '9' then .ok (some (ch.toNat - 48))
      else if ch = '0' then .error .mark
      else .ok none
    | none => .ok none
  let header : Except Malformed (BlockHeader × Cursor) :=
    match chomping? c with
    | some chomping => do
      match ← increment? c.next with
      | some n => .ok (⟨chomping, some n⟩, c.skip 2)
      | none => .ok (⟨chomping, none⟩, c.next)
    | none => do
      match ← increment? c with
      | none => .ok ({}, c)
      | some n =>
        match chomping? c.next with
        | some chomping => .ok (⟨chomping, some n⟩, c.skip 2)
        | none => .ok (⟨.clip, some n⟩, c.next)
  header.bind fun (h, c) =>
    if !isGap (c.peek 0) then .error .mark
    else
      let c := c.skipWhile (· = ' ')
      let c := if c.peek 0 = some '#' then c.skipWhile (!isBreak ·) else c
      if isLineEnd (c.peek 0) then .ok (h, c.lineBreak.2) else .error .mark

/-- The empty lines at the start of a block, the largest column that they reach, and the place after
them. -/
def blockStart : Nat → Cursor → List (List Char) × Nat × Cursor
  | 0, c => ([], c.column, c)
  | n + 1, c =>
    match c.peek 0 with
    | some ' ' =>
      let (bs, widest, c') := blockStart n c.next
      (bs, max c.next.column widest, c')
    | some ch =>
      if isBreak ch then
        let (b, c) := c.lineBreak
        let (bs, widest, c) := blockStart n c
        (b :: bs, widest, c)
      else ([], 0, c)
    | none => ([], 0, c)

/-- The blanks up to a column. -/
def skipToColumn (indent : Nat) : Nat → Cursor → Cursor
  | 0, c => c
  | n + 1, c => if c.column < indent && c.peek 0 = some ' ' then skipToColumn indent n c.next else c

/-- The empty lines before a line of a block. -/
def blockBreaks (indent : Nat) : Nat → Cursor → List (List Char) × Cursor
  | 0, c => ([], c)
  | n + 1, c =>
    let c := skipToColumn indent (n + 1) c
    match c.peek 0 with
    | some ch =>
      if isBreak ch then
        let (b, c) := c.lineBreak
        let (bs, c) := blockBreaks indent n c
        (b :: bs, c)
      else ([], c)
    | none => ([], c)

/-- The lines of a block from here on, where `before` holds the empty lines before the next one. -/
def blockLines (fold : Bool) (chomping : Chomping) (indent : Nat) :
    Nat → Cursor → (last : List Char) → (before : List (List Char)) → List Char × Cursor
  | 0, c, _, _ => ([], c)
  | n + 1, c, last, before =>
    let finish : List Char :=
      match chomping with
      | .strip => []
      | .clip => last
      | .keep => last ++ before.flatten
    if c.column = indent && (c.peek 0).isSome then
      let solid := !((c.peek 0) = some ' ' || (c.peek 0) = some '\t')
      let (line, c) := c.takeWhile (!isBreak ·)
      let (b, c) := c.lineBreak
      let (breaks, c) := blockBreaks indent n c
      let goesOn := c.column = indent && (c.peek 0).isSome
      let between : List Char :=
        if !goesOn then []
        else if fold && b = ['\n'] && solid &&
            !((c.peek 0) = some ' ' || (c.peek 0) = some '\t') then
          if breaks.isEmpty then [' '] else []
        else b
      let (more, c) := blockLines fold chomping indent n c b breaks
      (before.flatten ++ line ++ between ++ more, c)
    else (finish, c)

/-- A block from the character after its mark on. `indent` is the column of what holds it. -/
def block (fold : Bool) (indent : Int) (c : Cursor) : Except Malformed (List Char × Cursor) := do
  let (header, c) ← blockHeader c
  let least := (max (indent + 1) 1).toNat
  let n := c.rest.length + 1
  match header.increment with
  | some increment =>
    let column := least + increment - 1
    let (breaks, c) := blockBreaks column n c
    .ok (blockLines fold header.chomping column n c [] breaks)
  | none =>
    let (breaks, widest, c) := blockStart n c
    .ok (blockLines fold header.chomping (max least widest) n c [] breaks)

end Walkthrough.Yaml
