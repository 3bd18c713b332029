import Walkthrough.CommandLine.Target
import Walkthrough.Rehearsal.Build

/-!
# Catalogues of flows

The modules of a rehearsal and what they offer under each name: a flow, which is built when the
modules are loaded, or something that makes one whenever it is asked to, or neither.
`Catalogue.flowAt` finds the flow at a target.
-/

namespace Walkthrough.Rehearsal

universe u

/-- Names with what stands for them, by module. -/
abbrev Modules (α : Type u) : Type u := List (String × List (String × α))

/-- What a module offers, as it is written down. -/
inductive OfferPlan where
  | flow (script : Script)
  | maker (script : Script)
  | neither

/-- What a loaded module offers. -/
inductive Offer : Type 1 where
  | flow (made : Made)
  | maker (script : Script)
  | neither

/-- Loads something that a module offers. -/
def OfferPlan.load : OfferPlan → Act World Offer
  | flow script => (script.make []).map Offer.flow
  | maker script => .ok (Offer.maker script)
  | neither => .ok Offer.neither

/-- Modules that are loaded. -/
abbrev Catalogue : Type 1 := Modules Offer

/-- Loads modules, one after the other. -/
def Catalogue.load (modules : Modules OfferPlan) : Act World Catalogue :=
  gather (modules.map fun (module, offers) =>
    (gather (offers.map fun (name, offer) => offer.load.map fun o => (name, o))).map
      fun offers => (module, offers))

/-- What was found is a flow, or else it is no flow. -/
def Made.flowOr {ε : Type 1} (error : ε) : Made → Except ε (RFlow Value)
  | flow c => .ok c
  | value _ => .error error

/-- Why there is no flow at a target: the target is wrong, or making the flow threw something. -/
inductive NoFlow : Type 1 where
  | target (e : TargetError)
  | thrown (e : Thrown)

/-- The flow that an offer stands for. -/
def Offer.toFlow (target : Target) : Offer → World → Except NoFlow (RFlow Value) × World
  | flow made, w => (made.flowOr (.target (.noFlow target)), w)
  | maker script, w =>
    match script.make [] w with
    | (.ok made, w) => (made.flowOr (.target (.noFlow target)), w)
    | (.error e, w) => (.error (.thrown e), w)
  | neither, w => (.error (.target (.noFlow target)), w)

/-- What a catalogue offers at a target. -/
def Catalogue.offerAt (c : Catalogue) (target : Target) : Except TargetError Offer :=
  let known (module : String) : Bool := (c.lookup module).isSome
  match Target.missing? known target.module with
  | some e => .error e
  | none =>
    match ((c.lookup target.module).getD []).lookup target.name with
    | some offer => .ok offer
    | none => .error (.noName target)

/-- The flow at the target that a text stands for. -/
def Catalogue.flowAt (c : Catalogue) (text : String) (w : World) :
    Except NoFlow (RFlow Value) × World :=
  match Target.ofText? text with
  | .error e => (.error (.target e), w)
  | .ok target =>
    match c.offerAt target with
    | .error e => (.error (.target e), w)
    | .ok offer => offer.toFlow target w

end Walkthrough.Rehearsal
