/-!
# Element criteria

A criterion is one lookup of elements on a page: a strategy and the value it looks for.

Mirroring notes:
- `Strategy` is `By`, with the words that stand for its members; `describe` is the text of a
  `Criterion`. `Point` and `Size` stand beside them as they do there; what is asked of their fields
  is the part of `Form/Model`.
-/

namespace Walkthrough

/-- How elements are looked up. -/
inductive Strategy where
  | css
  | xpath
  | id
  | name
  | tagName
  | className
  | linkText
  | partialLinkText
  deriving DecidableEq, Repr, Inhabited

namespace Strategy

/-- All strategies. -/
def all : List Strategy :=
  [css, xpath, id, name, tagName, className, linkText, partialLinkText]

/-- The words for a strategy. -/
def words : Strategy → String
  | css => "css"
  | xpath => "xpath"
  | id => "id"
  | name => "name"
  | tagName => "tag name"
  | className => "class name"
  | linkText => "link text"
  | partialLinkText => "partial link text"

/-- The strategy with the given words. -/
def ofWords? (s : String) : Option Strategy := all.find? fun k => k.words == s

theorem ofWords?_words (k : Strategy) : ofWords? k.words = some k := by cases k <;> decide

end Strategy

/-- A single lookup of elements. -/
structure Criterion where
  strategy : Strategy
  value : String
  deriving DecidableEq, Repr, Inhabited

/-- The words for the strategy, then the value between double quotes. -/
def Criterion.describe (c : Criterion) : String := c.strategy.words ++ " \"" ++ c.value ++ "\""

/-- The top-left corner of an element. -/
structure Point where
  x : Int := 0
  y : Int := 0
  deriving DecidableEq, Repr, Inhabited

/-- The extent of an element. -/
structure Size where
  width : Int := 0
  height : Int := 0
  deriving DecidableEq, Repr, Inhabited

end Walkthrough
