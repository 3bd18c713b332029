import Walkthrough.Action

/-!
# Assertions

An assertion writes a line when it holds and fails when it does not.

Mirroring notes:
- `assertThat`, `elementHasText` and `elementIsDisplayed` are `assert_that`,
  `assert_element_has_text` and `assert_element_is_displayed`. A fact that is a plain truth value is
  `Flow.pure` of it.
-/

namespace Walkthrough.Assertion

variable {H : Host}

/-- Fails with a label unless the flow gives true. -/
def assertThat (fact : Flow H Bool) (label : String) : Flow H Unit :=
  fact.bind fun holds =>
    .ok (if holds then .info ("Assert " ++ label ++ ": passed")
      else .failWith ("Assertion failed: " ++ label))

/-- Fails unless the only element that matches has a text. -/
def elementHasText (a : Selector H) (expected : String) : Flow H Unit :=
  (Action.text a).bind fun actual =>
    .ok (if actual == expected then
        .info ("Assert " ++ a.describe ++ " has text \"" ++ expected ++ "\": passed")
      else
        .failWith ("Expected " ++ a.describe ++ " to have text \"" ++ expected ++
          "\" but found \"" ++ actual ++ "\""))

/-- Fails unless the only element that matches is displayed. -/
def elementIsDisplayed (a : Selector H) : Flow H Unit :=
  assertThat (Action.displayed a) (a.describe ++ " is displayed")

end Walkthrough.Assertion
