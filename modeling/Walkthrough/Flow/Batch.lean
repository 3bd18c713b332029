import Walkthrough.Flow.Basic

/-!
# Batches

Two ways to run flows one after the other and gather their values. `sequence` stops at the first
failure. `collect` runs every item, each from the state the one before it left without its failures,
and folds everything that failed into one composite failure.

Mirroring notes:
- `sequence`, `collect` and `forEach` are `sequence`, `collect` and `for_each`. The loops are
  recursions on the items that are left, with the values gathered so far.
- The items are a list, made before the batch is run, as they are there.
-/

namespace Walkthrough.Flow

variable {H : Host} {α β : Type}

/-- Runs the items after those whose values are already gathered, the latest first. -/
def sequenceFrom (env : H.Env) (gathered : List α) :
    List (Flow H α) → H.State → H.World → Program H (List α)
  | [], s, w => .finish (.of gathered.reverse s) w
  | item :: items, s, w =>
    .run item env s w fun o w =>
      match o with
      | .faulted _ t h => .finish (.faulted none t h) w
      | .success a t _ => sequenceFrom env (a :: gathered) items t w

/-- Runs flows in order and gathers their values; the first failure is the end. -/
def sequence (items : List (Flow H α)) : Flow H (List α) := fun env s w =>
  sequenceFrom env [] items s w

/-- The outcome of a batch that has run to its end: faulted by one composite failure when any item
failed. -/
def settleBatch (values : List (Option α)) (failed : List Failure) (s : H.State) :
    Outcome H (List (Option α)) :=
  match failed with
  | [] => .of values s
  | f :: fs =>
    .faulted (some values) (s.withFailures [Failure.collected (f :: fs)]) (by simp)

/-- Runs the items after those whose values and failures are already gathered, the latest value
first. -/
def collectFrom (env : H.Env) (gathered : List (Option α)) (failed : List Failure) :
    List (Flow H α) → H.State → H.World → Program H (List (Option α))
  | [], s, w => .finish (settleBatch gathered.reverse failed s) w
  | item :: items, s, w =>
    .run item env s w fun o w =>
      let value :=
        match o with
        | .success a _ _ => some a
        | .faulted .. => none
      collectFrom env (value :: gathered) (failed ++ o.failures) items
        (o.state.withFailures []) w

/-- Runs every flow in order, and folds all failures into one. A failed item has no value. -/
def collect (items : List (Flow H α)) : Flow H (List (Option α)) := fun env s w =>
  collectFrom env [] [] items s w

/-- Runs the flow of each value in order. -/
def forEach (values : List β) (f : β → Flow H α) : Flow H (List α) := sequence (values.map f)

end Walkthrough.Flow
