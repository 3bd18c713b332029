/-!
# Reading YAML text character by character

A `Cursor` is a place in a text: what is left of it, and the line, column and index of the next
character. Lines end at line feeds and carriage returns and at the line separators of Unicode. The
module also holds the classes of characters that tell tokens apart, and what can be wrong with a
text.
-/

namespace Walkthrough.Yaml

/-- What is wrong with a text that is no YAML. -/
inductive Malformed where
  /-- A character that may not stand in a text, or not where it stands. -/
  | character (c : Char)
  /-- A text between quotation marks that does not end. -/
  | unclosed
  /-- An escape that is none. -/
  | escape
  /-- A key, or something after one, where none may stand. -/
  | key
  /-- An entry of a list where none may stand. -/
  | entry
  /-- A mark before a node that is not well formed. -/
  | mark
  /-- A directive that is not understood. -/
  | directive
  /-- Something other than what has to come next. -/
  | order
  /-- A reference to a node that is not there, or that is still open. -/
  | reference (name : String)
  /-- Two nodes of one name. -/
  | sameName (name : String)
  /-- More than one document. -/
  | manyDocuments
  /-- A value that is none of its kind. -/
  | value
  deriving DecidableEq, Repr

/-- A place in a text. -/
structure Cursor where
  rest : List Char
  line : Nat := 0
  column : Nat := 0
  index : Nat := 0

/-- Whether a character ends a line. -/
def isBreak (c : Char) : Bool :=
  c = '\n' || c = '\r' || c = '\x85' || c = '\u2028' || c = '\u2029'

/-- Whether the end of the text or of a line comes next. -/
def isLineEnd : Option Char → Bool
  | none => true
  | some c => isBreak c

/-- Whether the end of the text, the end of a line or a blank comes next. -/
def isGap : Option Char → Bool
  | none => true
  | some c => c = ' ' || c = '\t' || isBreak c

/-- Whether a character may stand in a text at all. -/
def isAllowed (c : Char) : Bool :=
  let n := c.toNat
  n == 9 || n == 10 || n == 13 || (0x20 ≤ n && n ≤ 0x7E) || n == 0x85 ||
    (0xA0 ≤ n && n ≤ 0xD7FF) || (0xE000 ≤ n && n ≤ 0xFFFD) || 0x10000 ≤ n

namespace Cursor

/-- The next character, or one after it. -/
def peek (c : Cursor) (n : Nat) : Option Char := c.rest[n]?

/-- The place after the next character. -/
def next (c : Cursor) : Cursor :=
  match c.rest with
  | [] => c
  | ch :: rest =>
    if isBreak ch && !(ch = '\r' && rest.head? = some '\n') then
      ⟨rest, c.line + 1, 0, c.index + 1⟩
    else if ch = '\uFEFF' then ⟨rest, c.line, c.column, c.index + 1⟩
    else ⟨rest, c.line, c.column + 1, c.index + 1⟩

/-- The place some characters further on. -/
def skip (c : Cursor) : Nat → Cursor
  | 0 => c
  | n + 1 => c.next.skip n

/-- The characters up to one that fails a test, and the place of that one. -/
def takeWhile (c : Cursor) (p : Char → Bool) : List Char × Cursor :=
  let taken := c.rest.takeWhile p
  (taken, c.skip taken.length)

/-- The place after the characters that pass a test. -/
def skipWhile (c : Cursor) (p : Char → Bool) : Cursor := (c.takeWhile p).2

/-- A line break, as the one character that it stands for, and the place after it; no character when
there is none. -/
def lineBreak (c : Cursor) : List Char × Cursor :=
  match c.rest with
  | '\r' :: '\n' :: _ => (['\n'], c.skip 2)
  | ch :: _ =>
    if ch = '\u2028' || ch = '\u2029' then ([ch], c.next)
    else if isBreak ch then (['\n'], c.next)
    else ([], c)
  | [] => ([], c)

/-- Whether a line with a mark between documents starts here. -/
def atDocumentMark (c : Cursor) : Bool :=
  let mark := c.rest.take 3
  (mark = ['-', '-', '-'] || mark = ['.', '.', '.']) && isGap (c.peek 3)

end Cursor

end Walkthrough.Yaml
