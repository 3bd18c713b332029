import Walkthrough.Rehearsal.World

/-!
# Registrations and their handles

Whoever subscribes to a channel is given a handle, and cancels the subscription with it. A channel
only knows its subscribers, not their handles: what is cancelled with a handle is the oldest
registration of the same subscriber. So who is registered is told here by what has been done to the
channel. A registration is live until its own handle has been used (`Channel.live`), and a `Ledger`
keeps next to the channel what has been done to it and what has been heard, also by subscribers who
subscribe or cancel while an item is delivered.

A handle is used freshly when its registration is live, or when its subscriber is not registered at
all. As long as all handles are used so, an item is delivered once for each live registration and to
nobody else; it is delivered in the order of the registrations when no handle was used while the
same subscriber had an older registration (`Channel.delivered_to_live`). A handle that is used again
takes another registration of its subscriber away (`Channel.delivered_to_live_twice`).
-/

namespace Walkthrough.Channel

/-! ## What is done to a channel -/

/-- What is done to a channel between two items. Handles count the subscriptions from zero. -/
inductive Change (S : Type) where
  | subscribe (subscriber : S)
  | cancel (handle : Nat)
  deriving DecidableEq, Repr

/-- A subscriber with the handle of the subscription. -/
structure Registration (S : Type) where
  handle : Nat
  subscriber : S
  deriving DecidableEq, Repr

variable {S Item : Type}

/-- The subscribers by handle. -/
def owners : List (Change S) → List S
  | [] => []
  | .subscribe s :: changes => s :: owners changes
  | .cancel _ :: changes => owners changes

/-- The registrations whose handles have not been used, in the order in which they were made. The
handle `next` is the first to be given out. -/
def liveFrom [DecidableEq S] (next : Nat) : List (Change S) → List (Registration S)
  | [] => []
  | .subscribe s :: changes =>
    if .cancel next ∈ changes then liveFrom (next + 1) changes
    else ⟨next, s⟩ :: liveFrom (next + 1) changes
  | .cancel _ :: changes => liveFrom next changes

/-- The registrations that are live after all that has been done to a channel. -/
def live [DecidableEq S] (changes : List (Change S)) : List (Registration S) := liveFrom 0 changes

/-! ## Live registrations -/

section

variable [DecidableEq S] {changes : List (Change S)} {next : Nat} {x : Registration S}

theorem liveFrom_append_subscribe (next : Nat) (changes : List (Change S)) (s : S) :
    liveFrom next (changes ++ [.subscribe s]) =
      liveFrom next changes ++ [⟨next + (owners changes).length, s⟩] := by
  induction changes generalizing next with
  | nil => rfl
  | cons c changes ih =>
    cases c with
    | subscribe t =>
      have hlength : next + 1 + (owners changes).length =
          next + (owners (.subscribe t :: changes)).length := by
        rw [owners, List.length_cons]
        omega
      -- subscribing uses no handle
      have hused : .cancel next ∈ changes ++ [.subscribe s] ↔ .cancel next ∈ changes := by simp
      simp only [List.cons_append, liveFrom, hused, ih, hlength]
      split
      · rfl
      · rfl
    | cancel n => exact ih next

theorem liveFrom_append_cancel (next : Nat) (changes : List (Change S)) (n : Nat) :
    liveFrom next (changes ++ [.cancel n]) = (liveFrom next changes).filter (·.handle ≠ n) := by
  induction changes generalizing next with
  | nil => rfl
  | cons c changes ih =>
    cases c with
    | subscribe t =>
      by_cases hused : .cancel next ∈ changes
      · have hused' : .cancel next ∈ changes ++ [.cancel n] := List.mem_append_left _ hused
        rw [List.cons_append, liveFrom, if_pos hused', liveFrom, if_pos hused]
        exact ih (next + 1)
      · rw [List.cons_append, liveFrom, liveFrom, if_neg hused, ih (next + 1)]
        by_cases hn : next = n
        · simp [hn]
        · simp [hused, hn]
    | cancel m => exact ih next

theorem le_handle_of_mem_liveFrom (h : x ∈ liveFrom next changes) : next ≤ x.handle := by
  induction changes generalizing next with
  | nil => cases h
  | cons c changes ih =>
    cases c with
    | subscribe s =>
      rw [liveFrom] at h
      split at h
      · exact Nat.le_of_succ_le (ih h)
      · rcases List.mem_cons.mp h with rfl | h
        · exact Nat.le_refl _
        · exact Nat.le_of_succ_le (ih h)
    | cancel n => exact ih h

/-- Older registrations have smaller handles. -/
theorem pairwise_liveFrom (next : Nat) (changes : List (Change S)) :
    (liveFrom next changes).Pairwise (·.handle < ·.handle) := by
  induction changes generalizing next with
  | nil => exact .nil
  | cons c changes ih =>
    cases c with
    | subscribe s =>
      rw [liveFrom]
      split
      · exact ih (next + 1)
      · exact .cons (fun x hx => le_handle_of_mem_liveFrom hx) (ih (next + 1))
    | cancel n => exact ih next

theorem owner_of_mem_liveFrom (h : x ∈ liveFrom next changes) :
    ∃ i, x.handle = next + i ∧ (owners changes)[i]? = some x.subscriber := by
  induction changes generalizing next with
  | nil => cases h
  | cons c changes ih =>
    cases c with
    | subscribe s =>
      have hlater : x ∈ liveFrom (next + 1) changes → ∃ i, x.handle = next + i ∧
          (owners (.subscribe s :: changes))[i]? = some x.subscriber := by
        intro hx
        obtain ⟨i, hi, howner⟩ := ih hx
        exact ⟨i + 1, by omega, howner⟩
      rw [liveFrom] at h
      split at h
      · exact hlater h
      · rcases List.mem_cons.mp h with rfl | h
        · exact ⟨0, rfl, rfl⟩
        · exact hlater h
    | cancel n => exact ih h

/-- A live registration is the one that was made with its handle. -/
theorem owner_of_mem_live (h : x ∈ live changes) :
    (owners changes)[x.handle]? = some x.subscriber := by
  obtain ⟨i, hi, howner⟩ := owner_of_mem_liveFrom h
  rw [hi, Nat.zero_add]
  exact howner

theorem live_append_subscribe (changes : List (Change S)) (s : S) :
    live (changes ++ [.subscribe s]) = live changes ++ [⟨(owners changes).length, s⟩] := by
  rw [live, liveFrom_append_subscribe, Nat.zero_add]
  rfl

theorem live_append_cancel (changes : List (Change S)) (n : Nat) :
    live (changes ++ [.cancel n]) = (live changes).filter (·.handle ≠ n) :=
  liveFrom_append_cancel 0 changes n

end

/-! ## Taking a subscriber away -/

section

variable {registrations : List (Registration S)} {x : Registration S}

/-- Registrations that all have other handles are left when a handle is used. -/
theorem filter_handle_eq_self {n : Nat} (h : ∀ y ∈ registrations, y.handle ≠ n) :
    registrations.filter (·.handle ≠ n) = registrations := by
  refine List.filter_eq_self.mpr fun y hy => ?_
  simpa using h y hy

variable [DecidableEq S]

/-- The oldest of all registrations is the first one that is found. -/
theorem erase_subscriber_head (hx : ∀ y ∈ registrations, x.handle < y.handle) :
    ((x :: registrations).map Registration.subscriber).erase x.subscriber =
      ((x :: registrations).filter (·.handle ≠ x.handle)).map Registration.subscriber := by
  have hothers : ∀ y ∈ registrations, y.handle ≠ x.handle := fun y hy => Nat.ne_of_gt (hx y hy)
  rw [List.map_cons, List.erase_cons_head, List.filter_cons_of_neg (by simp),
    filter_handle_eq_self hothers]

/-- The channel takes the oldest registration of a subscriber away, whichever was meant. Which one
it was only shows in the order. -/
theorem erase_subscriber_perm (hordered : registrations.Pairwise (·.handle < ·.handle))
    (hx : x ∈ registrations) :
    ((registrations.map Registration.subscriber).erase x.subscriber).Perm
      ((registrations.filter (·.handle ≠ x.handle)).map Registration.subscriber) := by
  induction registrations with
  | nil => cases hx
  | cons y registrations ih =>
    obtain ⟨hy, hordered⟩ := List.pairwise_cons.mp hordered
    rcases List.mem_cons.mp hx with rfl | hx
    · rw [erase_subscriber_head hy]
    · have hkept : y.handle ≠ x.handle := Nat.ne_of_lt (hy x hx)
      rw [List.map_cons, List.filter_cons_of_pos (by simpa using hkept), List.map_cons]
      by_cases hsame : y.subscriber = x.subscriber
      · -- the first of them goes, and the registration of `x` is one of those that stay
        have hmem : x.subscriber ∈ registrations.map Registration.subscriber :=
          List.mem_map_of_mem hx
        rw [hsame, List.erase_cons_head]
        exact (List.perm_cons_erase hmem).trans ((ih hordered hx).cons _)
      · rw [List.erase_cons_tail (by simpa using hsame)]
        exact (ih hordered hx).cons _

/-- When the oldest one was meant, the order is the same as well. -/
theorem erase_subscriber (hordered : registrations.Pairwise (·.handle < ·.handle))
    (hx : x ∈ registrations)
    (oldest : ∀ y ∈ registrations, y.subscriber = x.subscriber → x.handle ≤ y.handle) :
    (registrations.map Registration.subscriber).erase x.subscriber =
      (registrations.filter (·.handle ≠ x.handle)).map Registration.subscriber := by
  induction registrations with
  | nil => cases hx
  | cons y registrations ih =>
    obtain ⟨hy, hordered⟩ := List.pairwise_cons.mp hordered
    rcases List.mem_cons.mp hx with rfl | hx
    · exact erase_subscriber_head hy
    · have hkept : y.handle < x.handle := hy x hx
      have hother : y.subscriber ≠ x.subscriber := fun hsame =>
        absurd (oldest y List.mem_cons_self hsame) (Nat.not_le.mpr hkept)
      rw [List.map_cons, List.filter_cons_of_pos (by simpa using Nat.ne_of_lt hkept),
        List.map_cons, List.erase_cons_tail (by simpa using hother),
        ih hordered hx fun z hz => oldest z (List.mem_cons_of_mem _ hz)]

end

/-! ## How handles are used -/

/-- Something holds of each change and all that was done before it. -/
def Throughout (P : List (Change S) → Change S → Prop) (changes : List (Change S)) : Prop :=
  ∀ i (h : i < changes.length), P (changes.take i) changes[i]

instance (P : List (Change S) → Change S → Prop) [∀ before c, Decidable (P before c)]
    (changes : List (Change S)) : Decidable (Throughout P changes) :=
  inferInstanceAs (Decidable (∀ i (h : i < changes.length), P (changes.take i) changes[i]))

theorem throughout_append_singleton {P : List (Change S) → Change S → Prop}
    {changes : List (Change S)} {c : Change S} (h : Throughout P (changes ++ [c])) :
    Throughout P changes ∧ P changes c := by
  constructor
  · intro i hi
    have hlast := h i (by rw [List.length_append]; omega)
    rwa [List.take_append_of_le_length (Nat.le_of_lt hi), List.getElem_append_left hi] at hlast
  · have hlast := h changes.length (by simp)
    simpa using hlast

section

variable [DecidableEq S]

/-- A handle is used while its registration is live, or while its subscriber has none that is. -/
def Change.Fresh (before : List (Change S)) : Change S → Prop
  | .subscribe _ => True
  | .cancel n =>
    ∀ x ∈ live before, (owners before)[n]? = some x.subscriber → ∃ y ∈ live before, y.handle = n

/-- A handle is used while its subscriber has no older registration that is live. -/
def Change.InTurn (before : List (Change S)) : Change S → Prop
  | .subscribe _ => True
  | .cancel n => ∀ x ∈ live before, (owners before)[n]? = some x.subscriber → n ≤ x.handle

instance (before : List (Change S)) : (c : Change S) → Decidable (c.Fresh before)
  | .subscribe _ => inferInstanceAs (Decidable True)
  | .cancel n => inferInstanceAs (Decidable (∀ x ∈ live before,
      (owners before)[n]? = some x.subscriber → ∃ y ∈ live before, y.handle = n))

instance (before : List (Change S)) : (c : Change S) → Decidable (c.InTurn before)
  | .subscribe _ => inferInstanceAs (Decidable True)
  | .cancel n => inferInstanceAs (Decidable (∀ x ∈ live before,
      (owners before)[n]? = some x.subscriber → n ≤ x.handle))

end

/-- A handle that is used freshly is the one of a live registration, or its subscriber has none. -/
theorem Change.Fresh.cases [DecidableEq S] {before : List (Change S)} {n : Nat}
    (h : (Change.cancel n : Change S).Fresh before) :
    (∃ x ∈ live before, x.handle = n ∧ (owners before)[n]? = some x.subscriber) ∨
      (∀ x ∈ live before, x.handle ≠ n) ∧
        ∀ s, (owners before)[n]? = some s → s ∉ (live before).map Registration.subscriber := by
  by_cases hlive : ∃ x ∈ live before, x.handle = n
  · obtain ⟨x, hx, hn⟩ := hlive
    exact .inl ⟨x, hx, hn, hn ▸ owner_of_mem_live hx⟩
  · refine .inr ⟨fun x hx hn => hlive ⟨x, hx, hn⟩, fun s hs hmem => ?_⟩
    obtain ⟨x, hx, rfl⟩ := List.mem_map.mp hmem
    exact hlive (h x hx hs)

/-! ## Channels in use -/

/-- A channel with all that has been done to it, and all that has been heard on it and by whom. -/
structure Ledger (S Item : Type) where
  channel : Channel S := {}
  made : List (Change S) := []
  heard : List (Item × S) := []

/-- What is done with a channel. -/
inductive Use (S Item : Type) where
  | change (c : Change S)
  | publish (item : Item)

namespace Ledger

variable [DecidableEq S]

/-- Subscribes, or uses a handle. -/
def change (l : Ledger S Item) : Change S → Ledger S Item
  | .subscribe s =>
    { l with channel := l.channel.subscribe s, made := l.made ++ [.subscribe s] }
  | .cancel n =>
    { l with
      channel :=
        match (owners l.made)[n]? with
        | some s => l.channel.cancel s
        | none => l.channel
      made := l.made ++ [.cancel n] }

/-- A subscriber hears an item and may then change who is subscribed, according to all that has been
heard so far. -/
def deliver (reacts : List (Item × S) → List (Change S)) (item : Item) (l : Ledger S Item) (s : S) :
    Ledger S Item :=
  (reacts (l.heard ++ [(item, s)])).foldl change { l with heard := l.heard ++ [(item, s)] }

/-- Publishes an item on the channel. -/
def publish (reacts : List (Item × S) → List (Change S)) (item : Item) (l : Ledger S Item) :
    Ledger S Item :=
  (l.channel.publish (m := StateM (Ledger S Item)) fun s =>
    modify fun l => l.deliver reacts item s).run l |>.2

/-- Uses the channel in one way. -/
def use (reacts : List (Item × S) → List (Change S)) (l : Ledger S Item) :
    Use S Item → Ledger S Item
  | .change c => l.change c
  | .publish item => l.publish reacts item

/-- Uses a new channel in several ways, one after the other. -/
def run (reacts : List (Item × S) → List (Change S)) (uses : List (Use S Item)) : Ledger S Item :=
  uses.foldl (use reacts) {}

/-- The channel has the subscribers of the live registrations, as far as handles were used in a way
that it can follow. -/
structure Faithful (l : Ledger S Item) : Prop where
  perm : Throughout Change.Fresh l.made →
    l.channel.subscribers.Perm ((live l.made).map Registration.subscriber)
  ordered : Throughout Change.Fresh l.made →
    Throughout Change.InTurn l.made →
    l.channel.subscribers = (live l.made).map Registration.subscriber

variable {l : Ledger S Item}

theorem faithful_nil : Faithful ({} : Ledger S Item) := ⟨fun _ => .nil, fun _ _ => rfl⟩

theorem Faithful.subscribe (h : l.Faithful) (s : S) : (l.change (.subscribe s)).Faithful := by
  constructor
  · intro hfresh
    obtain ⟨hfresh, -⟩ := throughout_append_singleton hfresh
    show (l.channel.subscribers ++ [s]).Perm _
    rw [Ledger.change, live_append_subscribe, List.map_append]
    exact (h.perm hfresh).append_right _
  · intro hfresh hturn
    obtain ⟨hfresh, -⟩ := throughout_append_singleton hfresh
    obtain ⟨hturn, -⟩ := throughout_append_singleton hturn
    show l.channel.subscribers ++ [s] = _
    rw [Ledger.change, live_append_subscribe, List.map_append, h.ordered hfresh hturn]
    rfl

theorem subscribers_cancel {x : Registration S}
    (howner : (owners l.made)[x.handle]? = some x.subscriber) :
    (l.change (.cancel x.handle)).channel.subscribers =
      l.channel.subscribers.erase x.subscriber := by
  rw [Ledger.change, howner]
  rfl

/-- The handle of somebody who is not registered changes nothing. -/
theorem subscribers_cancel_of_not_mem {n : Nat}
    (h : ∀ s, (owners l.made)[n]? = some s → s ∉ l.channel.subscribers) :
    (l.change (.cancel n)).channel.subscribers = l.channel.subscribers := by
  rcases howner : (owners l.made)[n]? with _ | s
  · rw [Ledger.change, howner]
  · have hcancel : l.channel.cancel s = l.channel := cancel_of_not_mem (h s howner)
    rw [Ledger.change, howner]
    exact congrArg Channel.subscribers hcancel

/-- A handle that is used freshly takes its own registration away, or nothing at all. -/
theorem Faithful.cancel (h : l.Faithful) (n : Nat) : (l.change (.cancel n)).Faithful := by
  have hlive : live (l.change (.cancel n)).made = (live l.made).filter (·.handle ≠ n) :=
    live_append_cancel l.made n
  have hsorted : (live l.made).Pairwise (·.handle < ·.handle) := pairwise_liveFrom 0 l.made
  constructor
  · intro hfresh
    obtain ⟨hfresh, huse⟩ := throughout_append_singleton hfresh
    have hperm := h.perm hfresh
    rw [hlive]
    rcases huse.cases with ⟨x, hx, rfl, howner⟩ | ⟨hgone, habsent⟩
    · rw [subscribers_cancel howner]
      exact (hperm.erase x.subscriber).trans (erase_subscriber_perm hsorted hx)
    · rw [filter_handle_eq_self hgone, subscribers_cancel_of_not_mem fun s hs hmem =>
        habsent s hs (hperm.mem_iff.mp hmem)]
      exact hperm
  · intro hfresh hturn
    obtain ⟨hfresh, huse⟩ := throughout_append_singleton hfresh
    obtain ⟨hturn, hfirst⟩ := throughout_append_singleton hturn
    have heq := h.ordered hfresh hturn
    rw [hlive]
    rcases huse.cases with ⟨x, hx, rfl, howner⟩ | ⟨hgone, habsent⟩
    · rw [subscribers_cancel howner, heq]
      refine erase_subscriber hsorted hx fun y hy hsame => hfirst y hy ?_
      rw [hsame]
      exact howner
    · rw [filter_handle_eq_self hgone, subscribers_cancel_of_not_mem fun s hs hmem =>
        habsent s hs (heq ▸ hmem)]
      exact heq

theorem Faithful.change (h : l.Faithful) (c : Change S) : (l.change c).Faithful := by
  cases c with
  | subscribe s => exact h.subscribe s
  | cancel n => exact h.cancel n

theorem Faithful.changes (h : l.Faithful) (cs : List (Change S)) :
    (cs.foldl Ledger.change l).Faithful := by
  induction cs generalizing l with
  | nil => exact h
  | cons c cs ih => exact ih (h.change c)

variable {reacts : List (Item × S) → List (Change S)}

/-- Hearing something is no change to the channel. -/
theorem Faithful.deliver (h : l.Faithful) (item : Item) (s : S) :
    (l.deliver reacts item s).Faithful :=
  have hheard : Faithful { l with heard := l.heard ++ [(item, s)] } := ⟨h.perm, h.ordered⟩
  hheard.changes _

/-- Who hears an item is settled when it is published. -/
theorem publish_eq_foldl (item : Item) (l : Ledger S Item) :
    l.publish reacts item =
      l.channel.subscribers.foldl (fun l s => l.deliver reacts item s) l := by
  have hrun : ∀ (subscribers : List S) (l : Ledger S Item),
      ((subscribers.forM fun s => (modify fun l => l.deliver reacts item s :
        StateM (Ledger S Item) PUnit)).run l).2 =
        subscribers.foldl (fun l s => l.deliver reacts item s) l := by
    intro subscribers
    induction subscribers with
    | nil => exact fun l => rfl
    | cons s subscribers ih => exact fun l => ih _
  exact hrun _ l

theorem heard_changes (cs : List (Change S)) (l : Ledger S Item) :
    (cs.foldl Ledger.change l).heard = l.heard := by
  induction cs generalizing l with
  | nil => rfl
  | cons c cs ih =>
    rw [List.foldl_cons, ih]
    cases c <;> rfl

/-- What is heard of an item is the item once for each subscriber, whatever these do meanwhile. -/
theorem heard_publish (item : Item) (l : Ledger S Item) :
    (l.publish reacts item).heard =
      l.heard ++ l.channel.subscribers.map fun s => (item, s) := by
  rw [publish_eq_foldl]
  generalize l.channel.subscribers = subscribers
  induction subscribers generalizing l with
  | nil => simp
  | cons s subscribers ih =>
    rw [List.foldl_cons, ih, deliver, heard_changes, List.append_assoc]
    rfl

theorem Faithful.publish (h : l.Faithful) (item : Item) : (l.publish reacts item).Faithful := by
  rw [publish_eq_foldl]
  generalize l.channel.subscribers = subscribers
  induction subscribers generalizing l with
  | nil => exact h
  | cons s subscribers ih => exact ih (h.deliver item s)

theorem Faithful.uses (h : l.Faithful) (uses : List (Use S Item)) :
    (uses.foldl (Ledger.use reacts) l).Faithful := by
  induction uses generalizing l with
  | nil => exact h
  | cons u uses ih =>
    cases u with
    | change c => exact ih (h.change c)
    | publish item => exact ih (h.publish item)

end Ledger

/-! ## What is delivered -/

/-- While handles are used freshly, an item is delivered once for each live registration and to
nobody else, and while they are also used in turn, in the order of the registrations. -/
theorem delivered_to_live [DecidableEq S] (reacts : List (Item × S) → List (Change S))
    (uses : List (Use S Item)) (item : Item)
    (fresh : Throughout Change.Fresh (Ledger.run reacts uses).made) :
    let l := Ledger.run reacts uses
    ∃ told, (l.publish reacts item).heard = l.heard ++ told.map (fun s => (item, s)) ∧
      told.Perm ((live l.made).map Registration.subscriber) ∧
      (Throughout Change.InTurn l.made →
        told = (live l.made).map Registration.subscriber) := by
  intro l
  have hfaithful : l.Faithful := Ledger.faithful_nil.uses uses
  exact ⟨l.channel.subscribers, Ledger.heard_publish item l, hfaithful.perm fresh,
    hfaithful.ordered fresh⟩

open Rehearsal (Listener)

/-- A listener that was cancelled twice subscribes again, and the first time that something is
heard the other one is cancelled. That one has still heard the first item, and does not hear the
second. -/
theorem delivered_to_live_again :
    let reacts : List (Nat × Listener) → List (Change Listener) := fun heard =>
      if heard.length = 1 then [.cancel 1] else []
    let uses : List (Use Listener Nat) :=
      [.change (.subscribe .console), .change (.subscribe .trace), .change (.cancel 0),
        .change (.cancel 0), .change (.subscribe .console), .change (.subscribe .console),
        .publish 1]
    let l := Ledger.run reacts uses
    Throughout Change.Fresh l.made ∧ Throughout Change.InTurn l.made ∧
      live l.made = [⟨2, .console⟩, ⟨3, .console⟩] ∧
      l.heard = [(1, .trace), (1, .console), (1, .console)] ∧
      (l.publish reacts 2).heard = l.heard ++ [(2, .console), (2, .console)] := by
  intro reacts uses
  have hnext := delivered_to_live reacts uses 2
  -- the ledger is computed where a `decide` asks for it, and only there
  generalize hl : Ledger.run reacts uses = l at hnext ⊢
  have hfresh : Throughout Change.Fresh l.made := by
    rw [← hl]
    decide +kernel
  have hturn : Throughout Change.InTurn l.made := by
    rw [← hl]
    decide +kernel
  have hlive : live l.made = [⟨2, .console⟩, ⟨3, .console⟩] := by
    rw [← hl]
    decide +kernel
  have hfirst : l.heard = [(1, .trace), (1, .console), (1, .console)] := by
    rw [← hl]
    decide +kernel
  obtain ⟨told, hheard, -, hordered⟩ := hnext hfresh
  rw [hordered hturn, hlive] at hheard
  exact ⟨hfresh, hturn, hlive, hfirst, hheard⟩

/-- A listener that has subscribed twice uses its first handle twice. The second registration is
live because its own handle was never used, but nobody hears what is published. -/
theorem delivered_to_live_twice :
    let reacts : List (Nat × Listener) → List (Change Listener) := fun _ => []
    let uses : List (Use Listener Nat) :=
      [.change (.subscribe .console), .change (.subscribe .console), .change (.cancel 0),
        .change (.cancel 0)]
    let l := Ledger.run reacts uses
    live l.made = [⟨1, .console⟩] ∧ l.channel.count = 0 ∧ (l.publish reacts 1).heard = [] := by
  decide +kernel

end Walkthrough.Channel
