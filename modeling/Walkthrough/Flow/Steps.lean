import Walkthrough.Flow.Basic

/-!
# Flows written as a list of steps

A `Body` is a piece of code that hands out flows one at a time and is resumed with the value of
each. `ofBody` runs every flow that the body hands out from the state the one before it left. The
first failure closes the body and becomes the result, and what the body throws is a fault of the
state after the last step that ended well.

A body that is closed early still runs its closing code; a body that returns or throws has run it
already. `Body.alwaysThen` gives a body closing code that is run however the body is left.

Mirroring notes:
- `ofRecipe` is the decorator `flow`, and `Recipe` is what the function that it decorates may give:
  a computation, a generator (`Body`), or any other value. `followBody` is its loop.
- `strays` is a generator that yields what is no computation.
- Closing a generator runs what stands in its `finally` blocks (`close`), and may throw. A generator
  that yields while it is being closed is no `Body`.
-/

namespace Walkthrough

/-- Runs one piece of code, then another one, whether the first throws or not. What the second
throws takes the place of what has become of the first. -/
def Act.alwaysThen {World : Type} {α : Type _} (a : Act World α) (block : Act World Unit) :
    Act World α := fun w =>
  match block (a w).2 with
  | (.ok _, w') => ((a w).1, w')
  | (.error e, w') => (.error e, w')

/-- What a body does next. -/
inductive Body (H : Host) (α : Type) : Type 1 where
  /-- It has returned. -/
  | returned (value : α) (world : H.World)
  /-- It has thrown. -/
  | threw (e : Thrown) (world : H.World)
  /-- It hands out a flow. `close` is what it does when it is closed here. -/
  | handsOut {β : Type} (c : Flow H β) (world : H.World) (close : Act H.World Unit)
      (resume : β → H.World → Body H α)
  /-- It hands out something that is not a flow, shown as it would be quoted. -/
  | strays (shown : String) (world : H.World) (close : Act H.World Unit)

/-- What the code of a flow makes when it is called: a value, a flow, or a body. -/
inductive Recipe (H : Host) (α : Type) : Type 1 where
  | value (a : α)
  | flow (c : Flow H α)
  | body (b : H.World → Body H α)

namespace Body

variable {H : Host} {α : Type}

/-- The body that has come to its end with a value, or by throwing. -/
def ended : Except Thrown α × H.World → Body H α
  | (.ok a, w) => .returned a w
  | (.error e, w) => .threw e w

/-- The body with a block at its end that is run however the body is left: when it returns or
throws, and when it is closed. -/
def alwaysThen (block : Act H.World Unit) : Body H α → Body H α
  | .returned a w => .ended ((Act.ok a).alwaysThen block w)
  | .threw e w => .ended ((Act.throw e).alwaysThen block w)
  | .handsOut c w close resume =>
    .handsOut c w (close.alwaysThen block) fun b w => alwaysThen block (resume b w)
  | .strays shown w close => .strays shown w (close.alwaysThen block)

end Body

namespace Flow

variable {H : Host} {α : Type}

/-- Closes a body, then ends with an outcome. -/
def closeWith (close : Act H.World Unit) (o : Outcome H α) (w : H.World) : Program H α :=
  match close w with
  | (.ok _, w) => .finish o w
  | (.error e, w) => .raise e w

/-- Runs the flows of a body, the first one from `s`. -/
def followBody (env : H.Env) : Body H α → (s : H.State) → Program H α
  | .returned a w, s => .finish (.of a s) w
  | .threw e w, s => .finish (.raised s e) w
  | .strays shown w close, s =>
    closeWith close
      (.fault s (.ofMessage .capability ("flow yielded " ++ shown ++ ", expected a computation"))
        [])
      w
  | .handsOut c w close resume, s =>
    .run c env s w fun o w =>
      match o with
      | .faulted _ t h => closeWith close (.faulted none t h) w
      | .success b t _ => followBody env (resume b w) t

/-- The flow of a body. -/
def ofBody (body : H.World → Body H α) : Flow H α := fun env s w => followBody env (body w) s

/-- The flow of code that is called anew in each run. -/
def ofRecipe (code : Act H.World (Recipe H α)) : Flow H α := fun env s w =>
  match code w with
  | (.error e, w) => .raise e w
  | (.ok (.value a), w) => .finish (.of a s) w
  | (.ok (.flow c), w) => c.endWith env s w
  | (.ok (.body b), w) => followBody env (b w) s

end Flow

end Walkthrough
