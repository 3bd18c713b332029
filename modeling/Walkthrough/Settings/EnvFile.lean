import Walkthrough.Document
import Walkthrough.Text.Blank

/-!
# Environment files

A file of variables, as `SettingsLibrary.standIn` reads it: one to a line, with a name, an equals
sign and a value. The word `export` may stand in front of a name. A value between quotation marks
may hold line breaks and escapes; any other value ends at the end of its line or at a comment, which
a blank comes before. A line that is none of this is skipped. A name without an equals sign has no
value.

In a value, a name between a dollar sign with an opening brace and a closing brace stands for the
value of that variable, or for a text after `:-` when there is none.
-/

namespace Walkthrough.EnvFile

/-- The variables of a file, in the order in which their names first came. -/
abbrev Variables : Type := List (String × Option String)

/-- Whether a character ends a line. -/
def isBreak (c : Char) : Bool := c = '\n' || c = '\r'

/-- Whether a character is a blank within a line. -/
def isGap (c : Char) : Bool := Text.isBlank c && !isBreak c

/-- A text without the blanks in front of it that are within a line. -/
def skipGaps (cs : List Char) : List Char := cs.dropWhile isGap

/-- What stands behind the end of the line. -/
def afterLine (cs : List Char) : List Char :=
  match cs.dropWhile (!isBreak ·) with
  | '\r' :: '\n' :: rest => rest
  | _ :: rest => rest
  | [] => []

/-- What stands behind blanks and the end of the line, if nothing else is in between. -/
def endOfLine? (cs : List Char) : Option (List Char) :=
  match skipGaps cs with
  | [] => some []
  | c :: rest => if isBreak c then some (afterLine (c :: rest)) else none

/-- A text without the word `export` in front of it. -/
def skipExport (cs : List Char) : List Char :=
  let word := "export".toList
  let rest := cs.drop word.length
  if word.isPrefixOf cs && (rest.head?.map isGap).getD false then skipGaps rest else cs

/-- The text up to a mark, and what stands behind it. A mark behind a backslash does not count. -/
def quoted? (mark : Char) : List Char → Option (List Char × List Char)
  | [] => none
  | '\\' :: c :: rest =>
    if c = mark then
      match quoted? mark rest with
      | some (s, r) => some ('\\' :: c :: s, r)
      | none => some (['\\'], rest)
    else (quoted? mark (c :: rest)).map fun (s, r) => ('\\' :: s, r)
  | c :: rest =>
    if c = mark then some ([], rest) else (quoted? mark rest).map fun (s, r) => (c :: s, r)

/-- The character for a letter after a backslash, in a value between double quotes. -/
def escaped? : Char → Option Char
  | '\\' => some '\\'
  | '\'' => some '\''
  | '"' => some '"'
  | 'a' => some '\x07'
  | 'b' => some '\x08'
  | 'f' => some '\x0c'
  | 'n' => some '\n'
  | 'r' => some '\r'
  | 't' => some '\t'
  | 'v' => some '\x0b'
  | _ => none

/-- The character for a mark after a backslash, in a value between apostrophes. -/
def escapedMark? : Char → Option Char
  | '\\' => some '\\'
  | '\'' => some '\''
  | _ => none

/-- A value with its escapes undone. -/
def unescape (read : Char → Option Char) : List Char → List Char
  | [] => []
  | '\\' :: c :: rest =>
    match read c with
    | some d => d :: unescape read rest
    | none => '\\' :: unescape read (c :: rest)
  | c :: rest => c :: unescape read rest

/-- A value without the comment at its end. -/
def withoutComment (cs : List Char) : List Char :=
  match cs with
  | [] => []
  | c :: rest =>
    if Text.isBlank c && (rest.dropWhile Text.isBlank).head? = some '#' then []
    else c :: withoutComment rest

/-- A text without the blanks at its end. -/
def dropBlanksAtEnd (cs : List Char) : List Char := (cs.reverse.dropWhile Text.isBlank).reverse

/-- The value in front of a text, and the rest. -/
def value? (cs : List Char) : Option (List Char × List Char) :=
  match cs with
  | '\'' :: rest => (quoted? '\'' rest).map fun (s, r) => (unescape escapedMark? s, r)
  | '"' :: rest => (quoted? '"' rest).map fun (s, r) => (unescape escaped? s, r)
  | cs =>
    let line := cs.takeWhile (!isBreak ·)
    some (dropBlanksAtEnd (withoutComment line), cs.drop line.length)

/-- The name in front of a text, and the rest; a comment has no name. -/
def name? (cs : List Char) : Option (Option (List Char) × List Char) :=
  match cs with
  | '#' :: _ => some (none, cs)
  | '\'' :: rest =>
    let name := rest.takeWhile (· ≠ '\'')
    match rest.drop name.length with
    | _ :: after => if name.isEmpty then none else some (some name, after)
    | [] => none
  | cs =>
    let name := cs.takeWhile fun c => c ≠ '=' && c ≠ '#' && !Text.isBlank c
    if name.isEmpty then none else some (some name, cs.drop name.length)

/-- A text without the comment in front of it. -/
def skipComment (cs : List Char) : List Char :=
  match skipGaps cs with
  | '#' :: rest => rest.dropWhile (!isBreak ·)
  | _ => cs

/-- What the first line of a text gives: a variable, or nothing when it is a comment, and the rest.
When the line is neither, the text from where that shows. -/
def binding (cs : List Char) :
    Except (List Char) (Option (String × Option String) × List Char) := do
  let cs := skipExport cs
  let orAt {α : Type} (position : List Char) (found : Option α) : Except (List Char) α :=
    match found with
    | some a => .ok a
    | none => .error position
  let (name, rest) ← orAt cs (name? cs)
  let (value, rest) ←
    match skipGaps rest with
    | '=' :: rest =>
      let rest := skipGaps rest
      (orAt rest (value? rest)).map fun (v, r) => (some (String.ofList v), r)
    | rest => .ok (none, rest)
  let rest := skipComment rest
  let after ← orAt rest (endOfLine? rest)
  .ok (name.map fun n => (String.ofList n, value), after)

/-- The variables of a text in order, where the text has at most `lines` lines. -/
def bindings : (lines : Nat) → List Char → List (String × Option String)
  | 0, _ => []
  | lines + 1, cs =>
    match cs.dropWhile Text.isBlank with
    | [] => []
    | cs =>
      match binding cs with
      | .ok (found, rest) => found.toList ++ bindings lines rest
      | .error rest => bindings lines (afterLine rest)

/-! ## References between variables -/

/-- A piece of a value: text, or a reference to a variable with what stands for it when it has no
value. -/
inductive Piece where
  | text (c : Char)
  | reference (name fallback : String)

/-- The opening and the closing brace of a reference. -/
def opening : Char := '\x7b'

@[inherit_doc opening]
def closing : Char := '\x7d'

/-- The reference in front of a text, behind its opening brace. -/
def reference? (cs : List Char) : Option (Piece × List Char) :=
  let name := cs.takeWhile fun c => c ≠ closing && c ≠ ':'
  let rest := cs.drop name.length
  match rest with
  | ':' :: '-' :: more =>
    let fallback := more.takeWhile (· ≠ closing)
    match more.drop fallback.length with
    | _ :: after => some (.reference (String.ofList name) (String.ofList fallback), after)
    | [] => none
  | c :: after => if c = closing then some (.reference (String.ofList name) "", after) else none
  | [] => none

theorem length_reference? {cs rest : List Char} {p : Piece} (h : reference? cs = some (p, rest)) :
    rest.length < cs.length := by
  unfold reference? at h
  simp only at h
  have hd : ∀ (xs : List Char) (n : Nat), (xs.drop n).length ≤ xs.length := by simp
  split at h
  · rename_i more heq
    split at h
    · rename_i c after heq'
      simp only [Option.some.injEq, Prod.mk.injEq] at h
      obtain ⟨-, rfl⟩ := h
      have h₁ := congrArg List.length heq
      have h₂ := congrArg List.length heq'
      simp only [List.length_drop, List.length_cons] at h₁ h₂
      omega
    · simp at h
  · rename_i c after _ heq
    split at h
    · simp only [Option.some.injEq, Prod.mk.injEq] at h
      obtain ⟨-, rfl⟩ := h
      have h₁ := congrArg List.length heq
      simp only [List.length_drop, List.length_cons] at h₁
      omega
    · simp at h
  · simp at h

/-- The pieces of a value. -/
def pieces (cs : List Char) : List Piece :=
  match cs with
  | [] => []
  | c :: rest =>
    if c = '$' && rest.head? = some opening then
      match _h : reference? (rest.drop 1) with
      | some (p, after) => p :: pieces after
      | none => .text c :: pieces rest
    else .text c :: pieces rest
termination_by cs.length
decreasing_by
  · have h₁ := length_reference? _h
    have h₂ : (rest.drop 1).length ≤ rest.length := by simp
    simp only [List.length_cons]
    omega
  · simp
  · simp

/-- A value with its references resolved. -/
def resolve (known : Variables) (value : String) : String :=
  String.join ((pieces value.toList).map fun
    | .text c => c.toString
    | .reference name fallback =>
      match known.lookup name with
      | some value => value.getD ""
      | none => fallback)

/-- The variables that a file gives, where the last value of a name counts. References are to the
file's own variables, as far as they have been read, and then to the environment. -/
def read (environment : List (String × String)) (s : String) : Variables :=
  (bindings (s.length + 1) s.toList).foldl (fun vs b =>
    let known := vs ++ environment.map fun e => (e.1, some e.2)
    Keyed.put b.1 (b.2.map (resolve known)) vs) []

end Walkthrough.EnvFile
