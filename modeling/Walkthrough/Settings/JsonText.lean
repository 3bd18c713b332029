import Walkthrough.Number.Decimal
import Walkthrough.Form.Problem

/-!
# JSON texts

Reading a settings document from JSON. Beside the values of the standard, the words `NaN`,
`Infinity` and `-Infinity` are numbers that are not finite. Of entries with one key the last counts,
at the place of the first. A number with a point or an exponent is kept as a double.

The reading recurs on a depth that the length of the text bounds: each step below a bracket takes at
least one character.
-/

namespace Walkthrough.JsonText

/-- A value that was read, and the rest of the text. -/
abbrev Parsed (α : Type) : Type := Option (α × List Char)

/-- The blanks that may stand between values. -/
def isGap (c : Char) : Bool := c = ' ' || c = '\t' || c = '\n' || c = '\r'

/-- A text without the blanks in front of it. -/
def skipGaps (cs : List Char) : List Char := cs.dropWhile isGap

/-- The value of a hexadecimal digit. -/
def hexValue? (c : Char) : Option Nat :=
  if '0' ≤ c && c ≤ '9' then some (c.toNat - 48)
  else if 'a' ≤ c && c ≤ 'f' then some (c.toNat - 87)
  else if 'A' ≤ c && c ≤ 'F' then some (c.toNat - 55)
  else none

/-- The number with these hexadecimal digits. -/
def hexNumber? (cs : List Char) : Option Nat :=
  cs.foldlM (fun n c => (hexValue? c).map (16 * n + ·)) 0

/-- The character for a letter after a backslash. -/
def escaped? : Char → Option Char
  | '"' => some '"'
  | '\\' => some '\\'
  | '/' => some '/'
  | 'b' => some '\x08'
  | 'f' => some '\x0c'
  | 'n' => some '\n'
  | 'r' => some '\r'
  | 't' => some '\t'
  | _ => none

/-- The character that two halves of a UTF-16 pair stand for. -/
def paired (high low : Nat) : Char :=
  Char.ofNat (0x10000 + (high - 0xD800) * 0x400 + (low - 0xDC00))

/-- Whether a number is the first half of a UTF-16 pair. -/
def isHigh (n : Nat) : Bool := 0xD800 ≤ n && n < 0xDC00

/-- Whether a number is the second half of a UTF-16 pair. -/
def isLow (n : Nat) : Bool := 0xDC00 ≤ n && n < 0xE000

/-- The rest of a string, up to its closing mark; `high` is a first half of a pair that waits for
the second one. A half that is alone becomes a replacement character. -/
def string? (high : Option Nat) : List Char → Parsed (List Char)
  | [] => none
  | '"' :: rest => some ((high.map fun _ => '\uFFFD').toList, rest)
  | '\\' :: 'u' :: a :: b :: c :: d :: rest =>
    match hexNumber? [a, b, c, d] with
    | none => none
    | some n =>
      match high with
      | some h =>
        if isLow n then (string? none rest).map fun (s, r) => (paired h n :: s, r)
        else if isHigh n then (string? (some n) rest).map fun (s, r) => ('\uFFFD' :: s, r)
        else (string? none rest).map fun (s, r) => ('\uFFFD' :: Char.ofNat n :: s, r)
      | none =>
        if isHigh n then string? (some n) rest
        else if isLow n then (string? none rest).map fun (s, r) => ('\uFFFD' :: s, r)
        else (string? none rest).map fun (s, r) => (Char.ofNat n :: s, r)
  | '\\' :: e :: rest =>
    match escaped? e with
    | none => none
    | some c => (string? none rest).map fun (s, r) =>
      ((high.map fun _ => '\uFFFD').toList ++ c :: s, r)
  | c :: rest =>
    if c.toNat < 0x20 then none
    else (string? none rest).map fun (s, r) => ((high.map fun _ => '\uFFFD').toList ++ c :: s, r)

/-- A word in front of a text, and the rest. -/
def word? (word : String) (cs : List Char) : Option (List Char) :=
  if word.toList.isPrefixOf cs then some (cs.drop word.length) else none

/-- The exponent in front of a text, if there is a whole one, and the rest. -/
def splitExponent (cs : List Char) : List Char × List Char :=
  match cs with
  | e :: rest =>
    if e = 'e' || e = 'E' then
      let sign := rest.takeWhile fun c => c = '+' || c = '-'
      let afterSign := rest.drop sign.length
      let digits := afterSign.takeWhile Number.isPlainDigit
      if digits.isEmpty || 1 < sign.length then ([], cs)
      else (e :: sign ++ digits, afterSign.drop digits.length)
    else ([], cs)
  | [] => ([], [])

/-- The fraction in front of a text, if there is one, and the rest. -/
def splitFraction (cs : List Char) : List Char × List Char :=
  match cs with
  | '.' :: rest =>
    let digits := rest.takeWhile Number.isPlainDigit
    if digits.isEmpty then ([], cs) else ('.' :: digits, rest.drop digits.length)
  | cs => ([], cs)

/-- A number in front of a text. -/
def number? (cs : List Char) : Parsed SettingsDocument :=
  let sign := if cs.head? = some '-' then ['-'] else []
  let body := cs.drop sign.length
  let digits :=
    if body.head? = some '0' then ['0'] else body.takeWhile Number.isPlainDigit
  if digits.isEmpty then none
  else
    let (places, rest) := splitFraction (body.drop digits.length)
    let (exponent, rest) := splitExponent rest
    if places.isEmpty && exponent.isEmpty then
      let n : Int := Number.ofPlainDigits digits
      some (.int (if sign.isEmpty then n else -n), rest)
    else
      match Number.readDecimal? (sign ++ digits ++ places ++ exponent) with
      | some r => some (.real (Number.nearestDouble r), rest)
      | none => some (.atom .notFinite, rest)

/-- A value that is written as a word, in front of a text. -/
def named? (cs : List Char) : Parsed SettingsDocument :=
  [("null", Document.null), ("true", .bool true), ("false", .bool false),
    ("NaN", .atom .notFinite), ("Infinity", .atom .notFinite),
    ("-Infinity", .atom .notFinite)].findSome? fun entry =>
      (word? entry.1 cs).map fun rest => (entry.2, rest)

/-- Things between commas, the first of which has been read already, up to a closing mark. -/
def commas {α : Type} (close : Char) (item : List Char → Parsed α) :
    (depth : Nat) → List α → List Char → Parsed (List α)
  | 0, _, _ => none
  | depth + 1, done, cs =>
    match skipGaps cs with
    | ',' :: rest =>
      match item (skipGaps rest) with
      | some (a, rest) => commas close item depth (done ++ [a]) rest
      | none => none
    | c :: rest => if c = close then some (done, rest) else none
    | [] => none

/-- Things between brackets, after the opening one. -/
def bracketed {α : Type} (close : Char) (item : List Char → Parsed α) (depth : Nat)
    (cs : List Char) : Parsed (List α) :=
  match skipGaps cs with
  | c :: rest =>
    if c = close then some ([], rest)
    else
      match item (c :: rest) with
      | some (a, rest) => commas close item depth [a] rest
      | none => none
  | [] => none

/-- An entry of a map, where `value` reads its value. -/
def member? (value : List Char → Parsed SettingsDocument) (cs : List Char) :
    Parsed (String × SettingsDocument) :=
  match cs with
  | '"' :: rest =>
    match string? none rest with
    | none => none
    | some (key, rest) =>
      match skipGaps rest with
      | ':' :: rest => (value (skipGaps rest)).map fun (d, r) => ((String.ofList key, d), r)
      | _ => none
  | _ => none

/-- A value in front of a text, at most so many brackets deep. -/
def value? : (depth : Nat) → List Char → Parsed SettingsDocument
  | 0, _ => none
  | depth + 1, cs =>
    match cs with
    | '"' :: rest => (string? none rest).map fun (s, r) => (.text (String.ofList s), r)
    | '[' :: rest =>
      (bracketed ']' (value? depth) rest.length rest).map fun (ds, r) => (.list ds, r)
    | '\x7b' :: rest =>
      (bracketed '\x7d' (member? (value? depth)) rest.length rest).map fun (es, r) =>
        (.map (Keyed.ofPairs es), r)
    | cs =>
      match named? cs with
      | some found => some found
      | none => number? cs

/-- The document that a text holds. -/
def read? (s : String) : Option SettingsDocument :=
  match value? (s.length + 1) (skipGaps s.toList) with
  | some (d, rest) => if (skipGaps rest).isEmpty then some d else none
  | none => none

end Walkthrough.JsonText
