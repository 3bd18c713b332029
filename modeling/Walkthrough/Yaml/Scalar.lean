import Walkthrough.Number.Decimal
import Walkthrough.Yaml.Cursor

/-!
# What plain texts stand for

A plain text stands for nothing, a truth value, a number, a date or a mark when it is written like
one, and for itself otherwise. Whole numbers may be written in binary, octal (with a zero in front),
hexadecimal or, with colons, to the base sixty; underscores in them do not count. A number with a
fraction needs a point, and a sign in its exponent.
-/

namespace Walkthrough.Yaml

/-- What a plain text stands for. -/
inductive Scalar where
  | null
  | bool (b : Bool)
  | int (i : Int)
  | real (r : Rat)
  /-- A number that is infinite, or no number at all. -/
  | notFinite
  /-- A date, or a date and a time. -/
  | stamp
  /-- The mark of maps to merge into the one where it is a key. -/
  | merge
  /-- The mark of a default value. -/
  | default
  | text (s : String)
  deriving DecidableEq, Repr

namespace Scalar

/-- A text in small letters, with a capital first letter, and in capitals. -/
def cases (s : String) : List String := [s, s.capitalize, s.map Char.toUpper]

/-- The words for no and yes. -/
def bool? (s : String) : Option Bool :=
  if ["no", "false", "off"].any fun w => (cases w).contains s then some false
  else if ["yes", "true", "on"].any fun w => (cases w).contains s then some true
  else none

/-- The words for nothing. -/
def isNull (s : String) : Bool := s.isEmpty || s = "~" || (cases "null").contains s

/-- Whether a text is one of these characters after the other, at least once. -/
def someOf (p : Char → Bool) (cs : List Char) : Bool := !cs.isEmpty && cs.all p

/-- Whether a text is a digit, and then digits and underscores. -/
def isDigitRun : List Char → Bool
  | [] => false
  | c :: cs => Number.isPlainDigit c && cs.all fun c => Number.isPlainDigit c || c = '_'

/-- A text without its underscores. -/
def bare (cs : List Char) : List Char := cs.filter (· ≠ '_')

/-- The value of a digit in any base up to sixteen. -/
def digitValue (c : Char) : Nat :=
  if Number.isPlainDigit c then c.toNat - 48
  else if 'a' ≤ c && c ≤ 'f' then c.toNat - 87
  else c.toNat - 55

/-- The number with these digits. -/
def inBase (base : Nat) (cs : List Char) : Nat :=
  cs.foldl (fun n c => base * n + digitValue c) 0

/-- Whether a character is a hexadecimal digit. -/
def isHexDigit (c : Char) : Bool :=
  Number.isPlainDigit c || ('a' ≤ c && c ≤ 'f') || ('A' ≤ c && c ≤ 'F')

/-- The places of a number to the base sixty. -/
def places (cs : List Char) : List (List Char) :=
  cs.foldr (fun c ps =>
    if c = ':' then [] :: ps
    else
      match ps with
      | p :: ps => (c :: p) :: ps
      | [] => [[c]]) [[]]

/-- Whether a text is a place below sixty. -/
def isSixtieth : List Char → Bool
  | [c] => Number.isPlainDigit c
  | [a, b] => '0' ≤ a && a ≤ '5' && Number.isPlainDigit b
  | _ => false

/-- The number with these places to the base sixty. -/
def ofPlaces (ps : List (List Char)) : Nat :=
  ps.foldl (fun n p => 60 * n + Number.ofPlainDigits p) 0

/-- A whole number without its sign. -/
def nat? (cs : List Char) : Option Nat :=
  match cs with
  | '0' :: 'b' :: digits =>
    if someOf (fun c => c = '0' || c = '1' || c = '_') digits then some (inBase 2 (bare digits))
    else none
  | '0' :: 'x' :: digits =>
    if someOf (fun c => isHexDigit c || c = '_') digits then some (inBase 16 (bare digits))
    else none
  | ['0'] => some 0
  | '0' :: digits =>
    if digits.all fun c => ('0' ≤ c && c ≤ '7') || c = '_' then some (inBase 8 (bare digits))
    else none
  | cs =>
    match places cs with
    | [digits] => if isDigitRun digits then some (Number.ofPlainDigits (bare digits)) else none
    | first :: rest =>
      if isDigitRun first && rest.all isSixtieth then some (ofPlaces (bare first :: rest))
      else none
    | [] => none

/-- A whole number. -/
def int? (cs : List Char) : Option Int :=
  let (negative, digits) := Number.splitSign cs
  (nat? digits).map fun n => if negative then -(n : Int) else n

/-- Whether a text is an exponent with a sign, or nothing. -/
def isExponent : List Char → Bool
  | [] => true
  | e :: sign :: digits =>
    (e = 'e' || e = 'E') && (sign = '+' || sign = '-') && someOf Number.isPlainDigit digits
  | _ => false

/-- Whether a character may stand between the point and the exponent of a number. -/
def isPlace (c : Char) : Bool := Number.isPlainDigit c || c = '_'

/-- A number with a point, without its sign. -/
def point? (signed : Bool) (cs : List Char) : Option Rat :=
  let whole := cs.takeWhile (· ≠ '.')
  match cs.dropWhile (· ≠ '.') with
  | _ :: after =>
    let exponent := after.dropWhile isPlace
    let good :=
      if whole.isEmpty then !signed && (after.head?.map Number.isPlainDigit).getD false
      else isDigitRun whole
    if good && isExponent exponent then
      (Number.readDecimal? (bare (whole ++ '.' :: after))).map Number.nearestDouble
    else none
  | [] => none

/-- A number with a point to the base sixty, without its sign. -/
def sixty? (cs : List Char) : Option Rat :=
  let whole := cs.takeWhile (· ≠ '.')
  match cs.dropWhile (· ≠ '.'), places whole with
  | _ :: after, first :: second :: rest =>
    let later := second :: rest
    if isDigitRun first && later.all isSixtieth && after.all isPlace then
      let digits := bare after
      some (Number.nearestDouble (ofPlaces (bare first :: later) +
        mkRat (Number.ofPlainDigits digits) (Nat.pow 10 digits.length)))
    else none
  | _, _ => none

/-- A number with a point. -/
def real? (s : String) : Option Scalar :=
  let (negative, body) := Number.splitSign s.toList
  let signed := body.length ≠ s.length
  let infinite := (cases "inf").any fun w => body = '.' :: w.toList
  let noNumber := [".nan", ".NaN", ".NAN"].contains s
  if infinite || noNumber then some .notFinite
  else
    match point? signed body with
    | some r => some (.real (Number.withSign negative r))
    | none => (sixty? body).map fun r => .real (Number.withSign negative r)

/-! ## Dates -/

/-- A text without the digits in front of it, at least `least` and at most `most`. -/
def afterDigits? (least most : Nat) (cs : List Char) : Option (List Char) :=
  let n := min most (cs.takeWhile Number.isPlainDigit).length
  if least ≤ n then some (cs.drop n) else none

/-- A text without the character in front of it, if it is this one. -/
def after? (c : Char) : List Char → Option (List Char)
  | d :: rest => if c = d then some rest else none
  | [] => none

/-- Whether a text is a time zone, or nothing. -/
def isZone (cs : List Char) : Bool :=
  match cs.dropWhile fun c => c = ' ' || c = '\t' with
  | [] => cs.isEmpty
  | ['Z'] => true
  | sign :: rest =>
    (sign = '+' || sign = '-') &&
      match afterDigits? 1 2 rest with
      | some [] => true
      | some (':' :: minutes) => afterDigits? 2 2 minutes = some []
      | _ => false

/-- Whether a text is a clock time, perhaps with a time zone. -/
def isClock (cs : List Char) : Bool :=
  let rest := do
    let cs ← (afterDigits? 1 2 cs).bind (after? ':')
    let cs ← (afterDigits? 2 2 cs).bind (after? ':')
    afterDigits? 2 2 cs
  match rest with
  | some ('.' :: places) => isZone (places.dropWhile Number.isPlainDigit)
  | some zone => isZone zone
  | none => false

/-- Whether a text is a date, perhaps with a time. -/
def isStamp (cs : List Char) : Bool :=
  let short := do
    let cs ← (afterDigits? 4 4 cs).bind (after? '-')
    let cs ← (afterDigits? 2 2 cs).bind (after? '-')
    afterDigits? 2 2 cs
  let long := do
    let cs ← (afterDigits? 4 4 cs).bind (after? '-')
    let cs ← (afterDigits? 1 2 cs).bind (after? '-')
    afterDigits? 1 2 cs
  short = some [] ||
    match long with
    | some (c :: rest) =>
      if c = 'T' || c = 't' then isClock rest
      else if c = ' ' || c = '\t' then isClock (rest.dropWhile fun c => c = ' ' || c = '\t')
      else false
    | _ => false

/-- What a plain text stands for. -/
def ofPlain (s : String) : Scalar :=
  let cs := s.toList
  if isNull s then .null
  else if s = "<<" then .merge
  else if s = "=" then .default
  else if isStamp cs then .stamp
  else
    match bool? s, real? s, int? cs with
    | some b, _, _ => .bool b
    | none, some r, _ => r
    | none, none, some i => .int i
    | none, none, none => .text s

end Scalar

end Walkthrough.Yaml
