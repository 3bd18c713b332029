import Walkthrough.Rehearsal.Value
import Walkthrough.Channel
import Walkthrough.Host

/-!
# Scripted subscribers of a channel

A channel whose subscribers do something when they hear an item: each writes down that it heard it,
and may then fail, cancel a subscription, or register another subscriber. Recorders keep what they
hear.
-/

namespace Walkthrough.Rehearsal

/-- What a subscriber does when it hears an item, once it has written it down. -/
inductive Reaction where
  | fail (text : String)
  | cancel (token : Nat)
  | subscribe (name : String)

/-- A subscriber: one known by name, or a recorder. -/
inductive Hearer where
  | named (name : String)
  | recorder (n : Nat)
  deriving DecidableEq, Repr

/-- A channel with its subscribers. -/
structure Audience where
  reactions : List (String × Reaction) := []
  channel : Channel Hearer := {}
  /-- The subscribers by token, in the order in which they subscribed. -/
  tokens : List String := []
  /-- What each recorder kept. -/
  recorded : List (List Value) := []
  /-- What was heard, the latest first. -/
  heard : List (String × Value) := []

namespace Audience

/-- Registers a named subscriber and makes a token for it. -/
def subscribe (a : Audience) (name : String) : Audience :=
  { a with channel := a.channel.subscribe (.named name), tokens := a.tokens ++ [name] }

/-- Uses a token to cancel a subscription. -/
def cancel (a : Audience) (token : Nat) : Audience :=
  match a.tokens[token]? with
  | some name => { a with channel := a.channel.cancel (.named name) }
  | none => a

/-- Registers a recorder. -/
def record (a : Audience) : Audience :=
  { a with
    channel := a.channel.subscribe (.recorder a.recorded.length)
    recorded := a.recorded ++ [[]] }

/-- Closes a recorder. -/
def close (a : Audience) (n : Nat) : Audience :=
  { a with channel := a.channel.cancel (.recorder n) }

/-- Delivers an item to a subscriber. -/
def deliver (item : Value) : Hearer → Act Audience Unit
  | .recorder n => fun a => (.ok (), { a with recorded := a.recorded.modify n (· ++ [item]) })
  | .named name => fun a =>
    let a := { a with heard := (name, item) :: a.heard }
    match a.reactions.lookup name with
    | none => (.ok (), a)
    | some (.fail text) => (.error (.fault ⟨"RuntimeError", text⟩), a)
    | some (.cancel token) => (.ok (), a.cancel token)
    | some (.subscribe other) => (.ok (), a.subscribe other)

/-- Publishes an item. -/
def publish (item : Value) : Act Audience Unit := fun a =>
  Channel.publish (m := Act Audience) a.channel (deliver item) a

end Audience

end Walkthrough.Rehearsal
