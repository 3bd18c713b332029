import Walkthrough.Criterion
import Walkthrough.Text.Blank

/-!
# Locators

The text by which the browser engine looks elements up. A criterion is written as a CSS selector
or, for the text of links and for explicit paths, as an XPath expression. A value that is compared
with something on the page stands in it as a string literal: `cssString` writes one for CSS,
`xpathString` one for XPath, which has no escapes and needs `concat` for a value with both kinds of
quotation marks.

Mirroring notes:
- `Criterion.locator` is `to_playwright_selector`; `cssString` and `xpathString` are `_css_string`
  and `_xpath_string`. The last branch, for a criterion of no known kind, has no counterpart: there
  are no other strategies.
- `ofClasses` takes the words of a class name as they stand, as its source does: it escapes nothing.
-/

namespace Walkthrough

namespace Locator

/-- A character of a CSS string: backslashes and double quotes are escaped by a backslash. -/
def cssEscape (c : Char) : List Char :=
  if c = '\\' || c = '"' then ['\\', c] else [c]

/-- A text as a CSS string. -/
def cssString (cs : List Char) : List Char := '"' :: cs.flatMap cssEscape ++ ['"']

/-- The pieces of a text between the occurrences of a mark, at least one. -/
def pieces (mark : Char) : List Char → List (List Char)
  | [] => [[]]
  | c :: cs =>
    if c = mark then [] :: pieces mark cs
    else
      match pieces mark cs with
      | [] => [[c]]
      | piece :: rest => (c :: piece) :: rest

/-- A text between two marks. -/
def between (mark : Char) (cs : List Char) : List Char := mark :: cs ++ [mark]

/-- The argument between two pieces of a text that was cut at its double quotes. -/
def quoteArgument : List Char := [',', ' ', '\'', '"', '\'', ',', ' ']

/-- A text as an XPath expression for it. -/
def xpathString (cs : List Char) : List Char :=
  if !cs.contains '"' then between '"' cs
  else if !cs.contains '\'' then between '\'' cs
  else
    "concat(".toList ++ quoteArgument.intercalate ((pieces '"' cs).map (between '"')) ++ [')']

/-- The elements with an attribute of some value. -/
def ofAttribute (name : String) (value : String) : String :=
  "[" ++ name ++ "=" ++ String.ofList (cssString value.toList) ++ "]"

/-- The links whose text without blanks around it passes a test. -/
def ofLink (test : String) : String := "xpath=.//a[" ++ test ++ "]"

/-- The elements with every class in a list of classes. -/
def ofClasses (classes : List String) : String := "." ++ String.intercalate "." classes

end Locator

/-- The text by which the browser engine looks up what a criterion says. -/
def Criterion.locator (c : Criterion) : String :=
  let literal := String.ofList (Locator.xpathString c.value.toList)
  match c.strategy with
  | .css => c.value
  | .tagName => c.value
  | .xpath => "xpath=" ++ c.value
  | .id => Locator.ofAttribute "id" c.value
  | .name => Locator.ofAttribute "name" c.value
  | .className => Locator.ofClasses (Text.words c.value)
  | .linkText => Locator.ofLink ("normalize-space(.)=" ++ literal)
  | .partialLinkText => Locator.ofLink ("contains(normalize-space(.), " ++ literal ++ ")")

namespace Locator

/-! ## Laws -/

theorem pieces_ne_nil (mark : Char) (cs : List Char) : pieces mark cs ≠ [] := by
  cases cs with
  | nil => simp [pieces]
  | cons c cs =>
    unfold pieces
    split
    · simp
    · split <;> simp

/-- Putting the mark back between the pieces gives the text. -/
theorem intercalate_pieces (mark : Char) (cs : List Char) :
    [mark].intercalate (pieces mark cs) = cs := by
  induction cs with
  | nil => rfl
  | cons c cs ih =>
    unfold pieces
    split
    · rename_i h
      cases hp : pieces mark cs with
      | nil => exact absurd hp (pieces_ne_nil mark cs)
      | cons p ps => rw [hp] at ih; subst h; simpa [List.intercalate] using ih
    · cases hp : pieces mark cs with
      | nil => exact absurd hp (pieces_ne_nil mark cs)
      | cons p ps =>
        rw [hp] at ih
        cases ps <;> simp_all [List.intercalate]

end Locator

end Walkthrough
