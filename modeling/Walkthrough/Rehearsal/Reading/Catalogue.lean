import Walkthrough.Rehearsal.Catalogue
import Walkthrough.Rehearsal.Reading.Performance

/-!
# Reading catalogues

The modules of a rehearsal are a map from names to maps, which say what stands for each name: a
flow, a script that makes one, or something else.
-/

namespace Walkthrough.Rehearsal.Reading

variable {Atom : Type}

/-- What a module offers. -/
def offer (d : Document Atom) : Reading OfferPlan := do
  if has d "flow" then return .flow (← script (part d "flow"))
  else if has d "factory" then return .maker (← script (part d "factory"))
  else return .neither

/-- Modules with what they offer. -/
def modules (d : Document Atom) : Reading (Modules OfferPlan) := table (table offer) d

/-- The page that the main session shows; an empty one when nothing is said. -/
def mainPage (d : Document Atom) : Reading (List (String × Page)) := do
  return [(mainSession, ← page d)]

/-- A rehearsal: its modules, and the world with the page of the main session. -/
def rehearsal (d : Document Atom) : Reading (Modules OfferPlan × World) := do
  return (← modules (part d "modules"), { pages := ← mainPage (part d "page") })

end Walkthrough.Rehearsal.Reading
