import Walkthrough.Rehearsal.Expression

/-!
# Flows written down as data

The scripts of a rehearsal: every way of building a flow, with expressions and scripts in the place
of functions. A function of one argument is a `Callback`: the name of its variable and the script
that is built anew with it at every call. A script may be a mere expression, where a function gives
a plain value instead of a flow.
-/

namespace Walkthrough.Rehearsal

/-- The settings of a rehearsed run as they are written down. -/
structure SettingsPlan where
  wait : Option Duration := none
  interval : Option Duration := none
  dispose : Bool := false
  logging : Bool := true
  breaksOn : Option String := none
  /-- Whether the trace listens to the log stream. -/
  stream : Bool := false
  failures : FailurePlan := .record
  deriving Inhabited

/-- Which elements of a selector a script asks for. -/
inductive Find where
  | all
  | one
  | first
  | firstOrNone
  | snapshot
  deriving DecidableEq, Repr

/-- What ends a loop and how long it may last, as it is written down. -/
structure Pace where
  interval : Option Span := none
  wait : Option Span := none

mutual

/-- A flow, or a plain value. -/
inductive Script where
  | expr (e : Expr)
  | pure (value : Expr)
  | fail (error : Expr) (kind : FailureKind)
  | failure (errors : Expr)
  | line (kind : LogKind) (message : Expr)
  | bind (c : Script) (f : Callback)
  | map (c : Script) (var : String) (f : Expr)
  | andThen (c next : Script)
  | chain (items : List Script) (toTheRight : Bool)
  | replicate (c : Script) (n : Int) (toTheRight : Bool)
  | orElse (c alternative : Script)
  | orElseWith (c : Script) (f : Callback)
  | pipe (items : List Script)
  | mapFail (c : Script) (var : String) (f : Expr)
  | bimap (c : Script) (var : String) (onSuccess onFailure : Expr)
  | steps (steps : List DoStep) (result : Expr) (closing : Option Value)
  | plainCode (result : Expr)
  | flowCode (c : Script)
  | program (steps : List ProgramStep) (result : Expr) (fault : Option Expr)
  | getState
  | putState (state : Expr)
  | liftState (var : String) (f : Expr)
  | modifyState (var : String) (changes : List (StateField × Expr))
  | lift (code : Expr) (asynchronous : Bool)
  | tryCall (code : Expr) (asynchronous : Bool) (label : Expr)
  | tryCallWith (code : Expr) (asynchronous : Bool) (var : String) (label : Expr)
  | require (value label : Expr)
  | ask
  | asks (var : String) (f : Expr)
  | «local» (var : String) (f : Expr) (c : Script)
  | initConfig (configuration : Expr)
  | config (key : Expr)
  | initSettings (settings : SettingsPlan)
  | defaultWait
  | defaultInterval
  | context (label : Expr) (c : Script)
  | mute (c : Script)
  | sequence (items : List Script)
  | collect (items : List Script)
  | forEach (values : Expr) (f : Callback)
  | use (resource : Expr) (var : String) (release : Expr) (asynchronous : Bool) (body : Script)
  | session
  | callSession (label : Expr) (method : String) (arguments : List Expr)
  | withSession (session : Expr) (c : Script)
  | stopwatch (c : Script)
  | pause (interval : Span)
  | waitUntil (c : Script) (continueIf : Callback) (pace : Pace) (label : Expr)
      (describe : Option Callback)
  | waitUntilSucceeds (c : Script) (pace : Pace) (label : Expr)
  | doWhile (c : Script) (continueIf : Callback) (maxRepeats : Int)
  | doWhileOrFail (c : Script) (continueIf : Callback) (maxAttempts : Int) (interval : Option Span)
      (message : Expr)
  | choose (condition : Expr) (yes no : Script)
  | asFlow (c : Script)
  | find (which : Find) (selector : SelectorPlan)
  | findInside (element : Expr) (selector : SelectorPlan)
  | snapshotElement (element : Expr) (selector : SelectorPlan) (index : Int)
  | assertThat (c : Script) (label : Expr)
  | assertText (selector : SelectorPlan) (expected : Expr)
  | assertDisplayed (selector : SelectorPlan)
  | act (name : String) (selector : Option SelectorPlan) (arguments : List Expr) (pace : Pace)

/-- A function of one argument. -/
inductive Callback where
  | mk (var : String) (body : Script)

/-- A step of a flow that is written as a list of steps. -/
inductive DoStep where
  | run (c : Script) (var : Option String)
  | stray (e : Expr)
  | returnIf (condition result : Expr)
  | eval (var : Option String) (e : Expr)

/-- A step of a program that asks its driver itself. -/
inductive ProgramStep where
  | run (c : Script) (var : Option String) (env : Option Expr) (fromStart : Bool)
  | sleep (seconds : Rat)
  | await (code : Expr) (catching : Bool) (var : Option String)
  | request (e : Expr)
  | eval (e : Expr)

/-- A selector as it is written down. -/
inductive SelectorPlan where
  | criterion (c : Criterion)
  | steps (steps : List SelectorStep)

/-- A step of a selector as it is written down. -/
inductive SelectorStep where
  | lookUp (strategy : Strategy) (value : String)
  | pick (index : Int)
  | atLeastOne
  | single
  | waitExists
  | waitExistsFor (pace : Pace)
  | filter (condition : Callback) (description : String)
  | waitFor (condition : Callback) (description : String) (pace : Pace)
  | plus (selector : SelectorPlan)

end

instance : Inhabited Script := ⟨.expr (.lit .null)⟩

instance : Inhabited SelectorPlan := ⟨.steps []⟩

end Walkthrough.Rehearsal
