import Walkthrough.Flow.Steps
import Walkthrough.Rehearsal.Named
import Walkthrough.Rehearsal.Script

/-!
# Building rehearsed flows

`Script.make` turns a script into the flow that it describes. The expressions of a node are
evaluated when the node is built; the functions inside it are built anew at every call, so that
whatever building them throws is thrown by the call.
-/

namespace Walkthrough.Rehearsal

/-- What building a script gives: a flow, or a plain value in the place of one. -/
inductive Made : Type 1 where
  | flow (c : RFlow Value)
  | value (v : Value)

/-- What is thrown when a plain value is used as a flow. -/
def noFlow (v : Value) (property : String) : Thrown :=
  .fault ⟨"AttributeError",
    "'" ++ v.typeName ++ "' object has no attribute '" ++ property ++ "'"⟩

/-- What is thrown when something that has no items is gone through. -/
def notIterable (v : Value) : Thrown :=
  .fault ⟨"TypeError", "'" ++ v.typeName ++ "' object is not iterable"⟩

namespace Made

/-- The flow that was built; a plain value in its place throws when it is started. -/
def toFlow : Made → RFlow Value
  | flow c => c
  | value v => .throwing (noFlow v "program")

/-- The flow that was built, or the one that gives the plain value. -/
def asFlow : Made → RFlow Value
  | flow c => c
  | value v => .pure v

/-- Whether the answer of a function counts as true; a flow does. -/
def truthy : Made → Bool
  | flow _ => true
  | value v => v.truthy

/-- The answer of a function inside a longer text. -/
def formatted : Made → String
  | flow _ => "Computation"
  | value (.text s) => s
  | value (.failure f) => f.text
  | value (.fault f) => f.text
  | value v => v.shown

end Made

/-- The text of a value inside a longer text. -/
def Value.formatted (v : Value) : String := (Made.value v).formatted

/-- The failures that the answer of a function stands for. -/
def Value.toFailures : Value → Except Thrown (List Failure)
  | .failure f => .ok [f]
  | .list items => items.mapM toFailure
  | v => .error (notIterable v)

/-- The things that a value goes through when it is gone through. -/
def Value.items : Value → Except Thrown (List Value)
  | .list items => .ok items
  | .text s => .ok (s.toList.map fun c => .text (String.singleton c))
  | .map entries => .ok (entries.map fun e => .text e.1)
  | v => .error (notIterable v)

/-- The pairs of a configuration, written as a map or as a list of pairs. -/
def Value.toConfiguration : Value → Except Thrown (List (String × String))
  | .map entries => entries.mapM fun (k, v) => v.toText.map fun s => (k, s)
  | .list pairs => pairs.mapM fun
    | .list [k, v] => do
      let k ← k.toText
      let v ← v.toText
      Except.ok (k, v)
    | _ => .error badOperand
  | _ => .error badOperand

/-- The value that something thrown is when it is caught. -/
def Value.ofThrown : Thrown → Value
  | .fault f => .fault f
  | .failure f => .failure f

/-- Runs pieces of code one after the other and gathers their values. -/
def gather {α : Type 1} : List (Act World α) → Act World (List α)
  | [] => .ok []
  | a :: as => a.andThen fun x => (gather as).map fun xs => x :: xs

/-- Flows one after the other, grouped to the left or to the right. -/
def chained (toTheRight : Bool) : List (RFlow Value) → RFlow Value
  | [] => .pure .null
  | c :: cs =>
    if toTheRight then
      match (c :: cs).reverse with
      | [] => c
      | last :: before => before.foldl (fun rest c => c.andThen rest) last
    else cs.foldl (fun done c => done.andThen c) c

/-- Flows that stand in for each other, grouped to the left. -/
def piped : List (RFlow Value) → RFlow Value
  | [] => .pure .null
  | c :: cs => cs.foldl (fun done c => done.orElse c) c

/-- The settings of a run whose caller gives none. -/
def plainSettings : World → Settings Sinks × World := fun w =>
  let (channel, w) := w.openChannel []
  ({ sinks := { logging := false, breaksOn := none, channel, failures := .usual, heard := false } },
    w)

/-- The settings of a run. -/
def SettingsPlan.realise (plan : SettingsPlan) : World → Settings Sinks × World := fun w =>
  let (channel, w) := w.openChannel (if plan.stream then [.trace] else [])
  let sinks : Sinks :=
    { logging := plan.logging, breaksOn := plan.breaksOn, channel, failures := plan.failures,
      heard := true }
  let settings : Settings Sinks := { sinks, disposeOnCompletion := plan.dispose }
  ({ settings with
      wait := plan.wait.getD settings.wait
      interval := plan.interval.getD settings.interval }, w)

/-- Changes a field of a state. -/
def changeState (s : State) (field : StateField) (v : Value) : Except Thrown State :=
  match field with
  | .errors =>
    match v with
    | .list items => (items.mapM Value.toFailure).map fun failures => { s with failures }
    | _ => .error badOperand
  | .configuration => v.toConfiguration.map fun configuration => { s with configuration }
  | .context => v.toTexts.map fun scopes => { s with scopes }
  | .muted => .ok { s with muted := v.truthy }
  | .log => .error badOperand
  | .faulted => .error badOperand

/-- Changes several fields of a state, each to the value of an expression. -/
def changeFields (scope : Scope) : List (StateField × Expr) → State → Code State
  | [], s => .ok s
  | (field, e) :: rest, s =>
    (e.eval scope).andThen fun v =>
      (Code.of (changeState s field v)).andThen fun s => changeFields scope rest s

/-- The failure that a script fails with. -/
def failureOf (kind : FailureKind) : Value → Failure
  | .failure f => f
  | .fault f => Flow.recordOf (.fault f)
  | v => .ofMessage kind v.formatted

/-- The code of a call that gives the value of an expression, at once or when it is awaited. -/
def replying (scope : Scope) (code : Expr) (asynchronous : Bool) : Code (Reply World Value) :=
  if asynchronous then .ok (.awaitable (code.eval scope))
  else (code.eval scope).map Reply.value

/-- Throws when a value is not the session it should be. -/
def Value.toSession : Value → Except Thrown String
  | .session name => .ok name
  | _ => .error badOperand

/-- Throws when a value is not the element it should be. -/
def Value.toElement : Value → Except Thrown ElementHandle
  | .element e => .ok e
  | _ => .error badOperand

/-- Throws when a value is not the state it should be. -/
def Value.toState : Value → Except Thrown State
  | .state s => .ok s
  | _ => .error badOperand

/-- Evaluates an expression and goes on with a flow made from its value. -/
def withValue (scope : Scope) (e : Expr) (f : Value → RFlow Value) : Act World Made :=
  (e.eval scope).map fun v => .flow (f v)

/-- Evaluates an expression, takes something out of its value, and goes on from there. -/
def withPart {α : Type} (scope : Scope) (e : Expr) (part : Value → Except Thrown α)
    (f : α → Act World Made) : Act World Made :=
  (e.eval scope).andThen fun v => (Code.of (part v)).andThen f

/-- What a flow that is written as a list of steps does when it is over. -/
def closingCode (closing : Option Value) : Code Unit := fun w =>
  match closing with
  | some v => (.ok (), w.happen (.emit v))
  | none => (.ok (), w)

/-- Ends a program that asks its driver itself. -/
def endProgram (scope : Scope) (result : Expr) (fault : Option Expr) (current : State)
    (w : World) : Program host Value :=
  match fault with
  | none => Flow.endWithValue (result.eval scope w) current
  | some e =>
    match ((e.eval scope).andThen fun v => Code.of v.toFailures) w with
    | (.error thrown, w) => .raise thrown w
    | (.ok [], w) => .finish (.of .null current) w
    | (.ok (f :: fs), w) => .finish (.fault current f fs) w

/-- The scope with a variable, if it has a name. -/
def Scope.bindTo (scope : Scope) (var : Option String) (v : Value) : Scope :=
  match var with
  | some name => (name, v) :: scope
  | none => scope

/-- The values of a stopwatch. -/
def timed (r : Value × Duration) : Value := .list [r.1, .duration r.2]

/-- Finds what a script asks for. -/
def findBy (a : RSelector) : Find → RFlow Value
  | .all => a.findAll.retype Value.ofElements
  | .one => a.findOne.retype Value.element
  | .first => a.findFirst.retype Value.element
  | .firstOrNone => a.findFirstOrNone.retype (Value.ofOption Value.element)
  | .snapshot => a.snapshot.retype Value.ofSnapshots

/-- The condition of a selector step that a function checks. -/
def conditionOf (check : Value → Act World Made) : Condition host :=
  .custom fun found =>
    (check (Value.ofElements found)).andThen fun
      | .flow c => .ok (c.retype fun _ => ())
      | .value v => .throw (noFlow v "then")

mutual

/-- Builds the flow of a script. -/
def Script.make (scope : Scope) : Script → Act World Made
  | .expr e => (e.eval scope).map .value
  | .pure value => withValue scope value .pure
  | .fail error kind => withValue scope error fun v => .fail (failureOf kind v)
  | .failure errors =>
    withPart scope errors Value.toFailures fun
      | [] => .ok (.flow (.pure .null))
      | f :: fs => .ok (.flow (.failure f fs))
  | .line kind message =>
    withValue scope message fun v => (Flow.write kind v.formatted).retype Value.ofUnit
  | .bind c f =>
    (c.make scope).map fun c =>
      .flow (c.toFlow.bind fun v => (f.call scope v).map Made.toFlow)
  | .map c var f =>
    (c.make scope).map fun c => .flow (c.toFlow.map fun v => f.eval ((var, v) :: scope))
  | .andThen c next =>
    (c.make scope).andThen fun c =>
      (next.make scope).map fun next => .flow (c.toFlow.andThen next.toFlow)
  | .chain items toTheRight =>
    (Script.makeAll scope items).map fun cs => .flow (chained toTheRight cs)
  | .replicate c n toTheRight =>
    (c.make scope).map fun c =>
      .flow (chained toTheRight (List.replicate (max n 1).toNat c.toFlow))
  | .orElse c alternative =>
    (c.make scope).andThen fun c =>
      (alternative.make scope).map fun d => .flow (c.toFlow.orElse d.toFlow)
  | .orElseWith c f =>
    (c.make scope).map fun c =>
      .flow (c.toFlow.orElseWith fun fs =>
        (f.call scope (.list (fs.map .failure))).map Made.toFlow)
  | .pipe items => (Script.makeAll scope items).map fun cs => .flow (piped cs)
  | .mapFail c var f =>
    (c.make scope).map fun c =>
      .flow (c.toFlow.mapFail fun fs =>
        (f.eval ((var, .list (fs.map .failure)) :: scope)).andThen fun v =>
          Code.of v.toFailures)
  | .bimap c var onSuccess onFailure =>
    (c.make scope).map fun c =>
      .flow (c.toFlow.bimap (fun v => onSuccess.eval ((var, v) :: scope)) fun fs =>
        (onFailure.eval ((var, .list (fs.map .failure)) :: scope)).andThen fun v =>
          Code.of v.toFailures)
  | .steps steps result closing =>
    .ok (.flow (Flow.ofRecipe (.ok (.body fun w =>
      (DoStep.follow result steps scope w).alwaysThen (closingCode closing)))))
  | .plainCode result =>
    .ok (.flow (Flow.ofRecipe ((result.eval scope).map .value)))
  | .flowCode c =>
    .ok (.flow (Flow.ofRecipe ((c.make scope).map fun
      | .flow c => .flow c
      | .value v => .value v)))
  | .program steps result fault =>
    .ok (.flow fun env s w => ProgramStep.follow result fault env s steps scope s w)
  | .getState => .ok (.flow (Flow.getState.retype Value.state))
  | .putState state =>
    withPart scope state Value.toState fun s =>
      .ok (.flow ((Flow.putState (H := host) s).retype Value.ofUnit))
  | .liftState var f =>
    .ok (.flow (Flow.liftState fun s => f.eval ((var, .state s) :: scope)))
  | .modifyState var changes =>
    .ok (.flow ((Flow.modifyState (H := host) fun s =>
      changeFields ((var, .state s) :: scope) changes s).retype Value.ofUnit))
  | .lift code asynchronous => .ok (.flow (Flow.lift (replying scope code asynchronous)))
  | .tryCall code asynchronous label =>
    withValue scope label fun l =>
      Flow.tryCall (replying scope code asynchronous) fun _ => .ok l.formatted
  | .tryCallWith code asynchronous var label =>
    .ok (.flow (Flow.tryCall (replying scope code asynchronous) fun thrown =>
      (label.eval ((var, .ofThrown thrown) :: scope)).map Value.formatted))
  | .require value label =>
    (value.eval scope).andThen fun v =>
      withValue scope label fun l =>
        Flow.require (match v with | .null => none | v => some v) l.formatted
  | .ask => .ok (.flow Flow.ask)
  | .asks var f => .ok (.flow (Flow.asks fun env => f.eval ((var, env) :: scope)))
  | .local var f c =>
    (c.make scope).map fun c =>
      .flow (Flow.local (fun env => f.eval ((var, env) :: scope)) c.toFlow)
  | .initConfig configuration =>
    withPart scope configuration Value.toConfiguration fun pairs =>
      .ok (.flow ((Flow.initConfig pairs).retype Value.ofUnit))
  | .config key => withValue scope key fun k => (Flow.config k.formatted).retype Value.text
  | .initSettings plan => fun w =>
    let (settings, w) := plan.realise w
    (.ok (.flow ((Flow.initSettings (H := host) settings).retype Value.ofUnit)), w)
  | .defaultWait => .ok (.flow (Flow.defaultWait.retype Value.duration))
  | .defaultInterval => .ok (.flow (Flow.defaultInterval.retype Value.duration))
  | .context label c =>
    (label.eval scope).andThen fun l =>
      (c.make scope).map fun c => .flow (Flow.context l.formatted c.toFlow)
  | .mute c => (c.make scope).map fun c => .flow (Flow.mute c.toFlow)
  | .sequence items =>
    (Script.makeAll scope items).map fun cs => .flow ((Flow.sequence cs).retype Value.list)
  | .collect items =>
    (Script.makeAll scope items).map fun cs =>
      .flow ((Flow.collect cs).retype fun vs => .list (vs.map fun v => v.getD .null))
  | .forEach values f =>
    withPart scope values Value.items fun vs =>
      (gather (vs.map fun v => f.call scope v)).map fun cs =>
        .flow ((Flow.sequence (cs.map Made.toFlow)).retype Value.list)
  | .use resource var release asynchronous body =>
    withValue scope resource fun r =>
      Flow.use r
        (fun v =>
          (replying ((var, v) :: scope) release asynchronous).map (Reply.map fun _ => ()))
        fun v => (body.make ((var, v) :: scope)).map Made.toFlow
  | .session => .ok (.flow ((Flow.session (H := host)).retype Value.session))
  | .callSession label method arguments =>
    (label.eval scope).andThen fun l =>
      (Expr.evalAll scope arguments).map fun vs =>
        match NamedCommand.of? method vs with
        | some named =>
          .flow ((Flow.callSession (H := host) l.formatted named.command).retype named.answer)
        | none =>
          .flow (Flow.session.bind fun _ =>
            .ok (Flow.tryCall (.throw (noFlow (.session "") method)) fun _ => .ok l.formatted))
  | .withSession session c =>
    withPart scope session Value.toSession fun name =>
      (c.make scope).map fun c => .flow (Flow.withSession (H := host) name c.toFlow)
  | .stopwatch c =>
    (c.make scope).map fun c => .flow ((Flow.stopwatch c.toFlow).retype timed)
  | .pause interval => .ok (.flow ((Flow.pause interval).retype Value.ofUnit))
  | .waitUntil c continueIf pace label describe =>
    (c.make scope).andThen fun c =>
      withValue scope label fun l =>
        let watch : Flow.Watch host Value :=
          { continueIf := fun v => (continueIf.call scope v).map Made.truthy
            label := l.formatted
            describe :=
              match describe with
              | some describe => some fun v => (describe.call scope v).map Made.formatted
              | none => none }
        c.toFlow.waitUntil watch pace.interval pace.wait
  | .waitUntilSucceeds c pace label =>
    (c.make scope).andThen fun c =>
      withValue scope label fun l =>
        c.toFlow.waitUntilSucceeds pace.interval pace.wait l.formatted
  | .doWhile c continueIf maxRepeats =>
    (c.make scope).map fun c =>
      .flow ((c.toFlow.doWhile (fun v => (continueIf.call scope v).map Made.truthy)
        maxRepeats).retype fun v => v.getD .null)
  | .doWhileOrFail c continueIf maxAttempts interval message =>
    (c.make scope).andThen fun c =>
      withValue scope message fun m =>
        c.toFlow.doWhileOrFail (fun v => (continueIf.call scope v).map Made.truthy)
          maxAttempts interval m.formatted
  | .choose condition yes no =>
    (condition.eval scope).andThen fun v => if v.truthy then yes.make scope else no.make scope
  | .asFlow c => (c.make scope).map fun c => .flow c.asFlow
  | .find which selector => .ok (.flow (findBy (selector.make scope) which))
  | .findInside element selector =>
    withPart scope element Value.toElement fun e =>
      .ok (.flow (((selector.make scope).findInside e).retype Value.ofElements))
  | .snapshotElement element selector index =>
    withPart scope element Value.toElement fun e =>
      .ok (.flow (((selector.make scope).snapshotElement e index).retype Value.snapshot))
  | .assertThat c label =>
    (c.make scope).andThen fun c =>
      withValue scope label fun l =>
        (Assertion.assertThat (c.asFlow.retype Value.truthy) l.formatted).retype Value.ofUnit
  | .assertText selector expected =>
    withValue scope expected fun t =>
      (Assertion.elementHasText (selector.make scope) t.formatted).retype Value.ofUnit
  | .assertDisplayed selector =>
    .ok (.flow ((Assertion.elementIsDisplayed (selector.make scope)).retype Value.ofUnit))
  | .act name selector arguments pace =>
    (Expr.evalAll scope arguments).andThen fun vs =>
      let found :=
        match selector with
        | some selector =>
          elementAction? name (selector.make scope) vs pace.interval pace.wait
        | none => browserAction? name vs
      match found with
      | some c => .ok (.flow c)
      | none => .throw badOperand

/-- Builds the flows of several scripts, in order. -/
def Script.makeAll (scope : Scope) : List Script → Act World (List (RFlow Value))
  | [] => .ok []
  | c :: cs =>
    (c.make scope).andThen fun c =>
      (Script.makeAll scope cs).map fun cs => c.toFlow :: cs

/-- Calls a function. -/
def Callback.call (scope : Scope) : Callback → Value → Act World Made
  | .mk var body, v => body.make ((var, v) :: scope)

/-- Follows the steps of a flow that is written as a list of steps. -/
def DoStep.follow (result : Expr) : List DoStep → Scope → World → Body host Value
  | [], scope, w => .ended (result.eval scope w)
  | .run c var :: steps, scope, w =>
    match c.make scope w with
    | (.error e, w) => .threw e w
    | (.ok (.value v), w) => .strays v.shown w (.ok ())
    | (.ok (.flow c), w) =>
      .handsOut c w (.ok ()) fun v w => DoStep.follow result steps (scope.bindTo var v) w
  | .stray e :: _, scope, w =>
    match e.eval scope w with
    | (.error e, w) => .threw e w
    | (.ok v, w) => .strays v.shown w (.ok ())
  | .returnIf condition early :: steps, scope, w =>
    match condition.eval scope w with
    | (.error e, w) => .threw e w
    | (.ok v, w) =>
      if v.truthy then .ended (early.eval scope w) else DoStep.follow result steps scope w
  | .eval var e :: steps, scope, w =>
    match e.eval scope w with
    | (.error e, w) => .threw e w
    | (.ok v, w) => DoStep.follow result steps (scope.bindTo var v) w

/-- Follows the steps of a program that asks its driver itself. -/
def ProgramStep.follow (result : Expr) (fault : Option Expr) (env : Value) (start : State) :
    List ProgramStep → Scope → State → World → Program host Value
  | [], scope, current, w => endProgram scope result fault current w
  | .run c var other fromStart :: steps, scope, current, w =>
    match c.make scope w with
    | (.error e, w) => .raise e w
    | (.ok made, w) =>
      match (match other with | some e => e.eval scope | none => .ok env) w with
      | (.error e, w) => .raise e w
      | (.ok env', w) =>
        .run made.toFlow env' (if fromStart then start else current) w fun o w =>
          ProgramStep.follow result fault env start steps
            (scope.bindTo var (o.value?.getD .null)) o.state w
  | .sleep seconds :: steps, scope, current, w =>
    .sleep seconds w fun r w =>
      match r with
      | .error e => .raise e w
      | .ok _ => ProgramStep.follow result fault env start steps scope current w
  | .await code catching var :: steps, scope, current, w =>
    .await (code.eval scope) w fun r w =>
      match r with
      | .ok v =>
        ProgramStep.follow result fault env start steps (scope.bindTo var v) current w
      | .error e =>
        if catching then
          ProgramStep.follow result fault env start steps (scope.bindTo var (.ofThrown e))
            current w
        else .raise e w
  | .request e :: _, scope, _, w =>
    match e.eval scope w with
    | (.error e, w) => .raise e w
    | (.ok v, w) => .unsupported v.shown w
  | .eval e :: steps, scope, current, w =>
    match e.eval scope w with
    | (.error e, w) => .raise e w
    | (.ok _, w) => ProgramStep.follow result fault env start steps scope current w

/-- Builds a selector. -/
def SelectorPlan.make (scope : Scope) : SelectorPlan → RSelector
  | .criterion c => .ofCriterion c
  | .steps steps => SelectorStep.makeAll scope .identity steps

/-- Adds the steps of a selector to the ones built so far. -/
def SelectorStep.makeAll (scope : Scope) (built : RSelector) : List SelectorStep → RSelector
  | [] => built
  | step :: steps => SelectorStep.makeAll scope (step.make scope built) steps

/-- Adds a step to the ones built so far. -/
def SelectorStep.make (scope : Scope) (built : RSelector) : SelectorStep → RSelector
  | .lookUp strategy value => built ++ .of strategy value
  | .pick index => built.atIndex index
  | .atLeastOne => built.whenAtLeastOne
  | .single => built.whenSingle
  | .waitExists => built.waitUntilExists
  | .waitExistsFor pace => built.waitUntilExistsFor pace.interval pace.wait
  | .filter condition description =>
    built.filterBy (conditionOf fun v => condition.call scope v) description
  | .waitFor condition description pace =>
    built.waitFor (conditionOf fun v => condition.call scope v) description pace.interval pace.wait
  | .plus selector => built ++ selector.make scope

end

end Walkthrough.Rehearsal
