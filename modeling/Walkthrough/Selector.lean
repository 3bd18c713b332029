import Walkthrough.Flow.Batch
import Walkthrough.Flow.Resource
import Walkthrough.Flow.Retry

/-!
# Selectors

A selector says how elements are found, as a list of steps. Nothing happens until it is compiled to
a flow; then the steps run from left to right over the elements found so far. The first query looks
on the page, each later one inside every element found before it. Filters, waits and picks need a
query before them. Selectors concatenate, with the empty selector as the neutral one; compiled on
its own, it finds every element of the page.

Mirroring notes:
- `Step` has the four kinds of steps with their `compile` methods, `standalone` is `_standalone`,
  and `lookUpInsideAll` is `_find_inside`. Selectors concatenate with `++` for `+`.
- A predicate is a `Condition`: the three that the library itself uses have names, so that selectors
  can be compared (`same`); any other one is code. `custom` code gives a flow without a value, since
  the value of a predicate is dropped.
- `as_selector` is left out: whoever has a criterion or a text makes the selector.
-/

namespace Walkthrough

/-- What is asked of the elements found so far. The named ones are told apart by name; a custom one
is known by its code only. -/
inductive Condition (H : Host) : Type 1 where
  | atLeastOne
  | single
  | present
  | custom (check : List H.Element → Act H.World (Flow H Unit))

/-- One step of a selector. -/
inductive Step (H : Host) : Type 1 where
  /-- Looks elements up. -/
  | query (criterion : Criterion)
  /-- Fails unless the elements found so far meet a condition. -/
  | filter (condition : Condition H) (description : String)
  /-- Runs the steps so far again until their elements meet a condition. -/
  | waitFor (condition : Condition H) (description : String) (interval wait : Option Span)
  /-- Keeps only the element at a position, counted from zero. -/
  | pick (index : Int)

/-- How elements are found. -/
structure Selector (H : Host) where
  steps : List (Step H) := []

namespace Condition

variable {H : Host}

/-- Whether two conditions are told to be the same. -/
def same : Condition H → Condition H → Bool
  | atLeastOne, atLeastOne => true
  | single, single => true
  | present, present => true
  | _, _ => false

/-- The failure of a query with an unusable result. -/
def unusable (message : String) : Failure := .ofMessage .resolution message

/-- The flow that fails unless the elements meet the condition. -/
def check (found : List H.Element) : Condition H → Act H.World (Flow H Unit)
  | atLeastOne =>
    .ok (if found.isEmpty then
      .fail (unusable "No elements: expected at least one element") else .unit)
  | single =>
    .ok (match found with
      | [] => .fail (unusable "No elements: expected one element")
      | [_] => .unit
      | _ => .fail (unusable "Too many elements: expected only one"))
  | present =>
    .ok (if found.isEmpty then .failure (unusable "No elements") [] else .unit)
  | custom check => check found

end Condition

namespace Step

variable {H : Host}

/-- The words for a step. -/
def description : Step H → String
  | query criterion => criterion.describe
  | filter _ description => description
  | waitFor _ description _ _ => description
  | pick index => "at index " ++ toString index

/-- The name of the kind of a step. -/
def kindName : Step H → String
  | query _ => "Query"
  | filter .. => "Filter"
  | waitFor .. => "WaitFor"
  | pick _ => "Pick"

/-- Whether two steps are told to be the same. -/
def same : Step H → Step H → Bool
  | query c, query d => c == d
  | filter c n, filter d m => c.same d && n == m
  | waitFor c n i t, waitFor d m j u => c.same d && n == m && i == j && t == u
  | pick i, pick j => i == j
  | _, _ => false

/-- Looks elements up on the page. -/
def lookUp (criterion : Criterion) : Flow H (List H.Element) :=
  .callSession ("Failed to find elements " ++ criterion.describe) (.findElements criterion none)

/-- Looks elements up inside one element. -/
def lookUpInside (criterion : Criterion) (element : H.Element) : Flow H (List H.Element) :=
  .callSession ("Failed to find elements " ++ criterion.describe ++ " inside an element")
    (.findElements criterion (some element))

/-- Looks elements up inside every element found so far, in order. -/
def lookUpInsideAll (criterion : Criterion) (found : List H.Element) : Flow H (List H.Element) :=
  if found.isEmpty then .pure []
  else (Flow.sequence (found.map (lookUpInside criterion))).map fun groups => .ok groups.flatten

/-- The failure of a step that needs a query before it. -/
def standalone (action : String) : Flow H (List H.Element) :=
  .fail (Condition.unusable
    (action ++ " must follow something that queries elements.  It can't run alone"))

/-- The elements of a flow once they meet a condition. -/
def checked (condition : Condition H) (before : Flow H (List H.Element)) :
    Flow H (List H.Element) :=
  before.bind fun found =>
    (condition.check found).map fun verdict => verdict.andThen (.pure found)

/-- Keeps only the element at a position. -/
def pickFrom (index : Int) (found : List H.Element) : Flow H (List H.Element) :=
  let outOfRange :=
    "Index is out of range of the matching elements.  Only " ++ toString found.length ++
      " elements found, element at index " ++ toString index ++ " requested"
  if index < 0 then .fail (Condition.unusable outOfRange)
  else
    match found[index.toNat]? with
    | some element => .pure [element]
    | none => .fail (Condition.unusable outOfRange)

/-- The flow that runs a step after the steps before it, if there are any. -/
def compile (before : Option (Flow H (List H.Element))) : Step H → Flow H (List H.Element)
  | query criterion =>
    match before with
    | none => lookUp criterion
    | some before => before.bind fun found => .ok (lookUpInsideAll criterion found)
  | filter condition _ =>
    match before with
    | none => standalone "filtering"
    | some before => checked condition before
  | waitFor condition description interval wait =>
    match before with
    | none => standalone "\x60wait_for\x60"
    | some before => (checked condition before).waitUntilSucceeds interval wait description
  | pick index =>
    match before with
    | none => standalone "index selection"
    | some before => before.bind fun found => .ok (pickFrom index found)

end Step

namespace Selector

variable {H : Host}

/-- The selector without steps. -/
def identity : Selector H := {}

/-- The selector of one criterion. -/
def ofCriterion (criterion : Criterion) : Selector H := ⟨[.query criterion]⟩

/-- The selector of one lookup. -/
def of (strategy : Strategy) (value : String) : Selector H := ofCriterion ⟨strategy, value⟩

/-- The selector of a style-sheet selector. -/
def css (value : String) : Selector H := of .css value

/-- One selector after the other. -/
def append (a b : Selector H) : Selector H := ⟨a.steps ++ b.steps⟩

instance : Append (Selector H) := ⟨append⟩

/-- The selector with one more step. -/
def andThen (a : Selector H) (step : Step H) : Selector H := ⟨a.steps ++ [step]⟩

def atIndex (a : Selector H) (index : Int) : Selector H := a.andThen (.pick index)

def filterBy (a : Selector H) (condition : Condition H) (description : String) : Selector H :=
  a.andThen (.filter condition description)

def waitFor (a : Selector H) (condition : Condition H) (description : String)
    (interval wait : Option Span) : Selector H :=
  a.andThen (.waitFor condition description interval wait)

def whenAtLeastOne (a : Selector H) : Selector H := a.filterBy .atLeastOne "when at least one"

def whenSingle (a : Selector H) : Selector H := a.filterBy .single "when single"

def waitUntilExists (a : Selector H) : Selector H :=
  a.waitFor .present "wait until exists" none none

def waitUntilExistsFor (a : Selector H) (interval wait : Option Span) : Selector H :=
  a.waitFor .present "wait until exists" interval wait

/-- Whether two selectors are told to be the same. -/
def same (a b : Selector H) : Bool :=
  a.steps.length == b.steps.length && (a.steps.zip b.steps).all fun (s, t) => s.same t

/-- The words for a selector. -/
def describe (a : Selector H) : String :=
  if a.steps.isEmpty then "all elements"
  else String.intercalate " → " (a.steps.map Step.description)

/-- The flow of some steps after the steps before them, if there are any steps at all. -/
def compileSteps (before : Option (Flow H (List H.Element))) (steps : List (Step H)) :
    Option (Flow H (List H.Element)) :=
  steps.foldl (fun before step => some (step.compile before)) before

/-- The criterion that every element meets. -/
def everything : Criterion := ⟨.css, "*"⟩

/-- The flow that runs the steps after `before`, if that is given. -/
def compile (a : Selector H) (before : Option (Flow H (List H.Element))) :
    Flow H (List H.Element) :=
  (compileSteps before a.steps).getD (Step.lookUp everything)

/-! ## Finding elements -/

/-- All elements that match. -/
def findAll (a : Selector H) : Flow H (List H.Element) := a.compile none

/-- The elements that match, seen from an element found earlier. -/
def findInside (element : H.Element) (a : Selector H) : Flow H (List H.Element) :=
  a.compile (some (.pure [element]))

/-- The failure of a query that finds nothing. -/
def notFound (a : Selector H) : Failure := Condition.unusable ("Element not found: " ++ a.describe)

/-- The only element that matches. -/
def findOne (a : Selector H) : Flow H H.Element :=
  a.findAll.bind fun found =>
    .ok (match found with
      | [] => .fail a.notFound
      | [element] => .pure element
      | _ =>
        .fail (Condition.unusable
          ("More than one element found that matches the selector: " ++ a.describe)))

/-- The first element that matches. -/
def findFirst (a : Selector H) : Flow H H.Element :=
  a.findAll.bind fun found =>
    .ok (match found with
      | [] => .fail a.notFound
      | element :: _ => .pure element)

/-- The first element that matches, if there is any. -/
def findFirstOrNone (a : Selector H) : Flow H (Option H.Element) :=
  a.findAll.map fun found => .ok found.head?

/-! ## Laws -/

theorem describe_identity : (identity : Selector H).describe = "all elements" := rfl

@[simp] theorem steps_append (a b : Selector H) : (a ++ b).steps = a.steps ++ b.steps := rfl

theorem append_identity (a : Selector H) : a ++ (identity : Selector H) = a :=
  congrArg Selector.mk (List.append_nil a.steps)

theorem identity_append (a : Selector H) : (identity : Selector H) ++ a = a :=
  congrArg Selector.mk (List.nil_append a.steps)

/-- Compiling a concatenation compiles the second part after the first. -/
theorem compileSteps_append (before : Option (Flow H (List H.Element)))
    (steps more : List (Step H)) :
    compileSteps before (steps ++ more) = compileSteps (compileSteps before steps) more := by
  simp [compileSteps]

end Selector

end Walkthrough
