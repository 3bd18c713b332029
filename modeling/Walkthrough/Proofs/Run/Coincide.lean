import Walkthrough.Flow.Retry

/-!
# Code that does the same

Code coincides with code when, in worlds that look the same, both do the same and leave worlds that
look the same (`Act.Coincides`). How a world looks is given by a function `seen`, which may hide a
part of the world. Code that coincides with itself is blind to what is hidden (`Act.Blind`); where
nothing is hidden, all code is.
-/

namespace Walkthrough

universe u v

variable {World Seen : Type}

/-- The same was thrown, or two values were given that belong together, and the worlds look the
same. -/
inductive Coincide {α : Type u} {α' : Type v} (seen : World → Seen) (R : α → α' → Prop) :
    Except Thrown α × World → Except Thrown α' × World → Prop where
  | threw (e : Thrown) {w w' : World} (hw : seen w = seen w') :
      Coincide seen R (.error e, w) (.error e, w')
  | gave {a : α} {a' : α'} (h : R a a') {w w' : World} (hw : seen w = seen w') :
      Coincide seen R (.ok a, w) (.ok a', w')

namespace Coincide

variable {α : Type u} {α' : Type v} {seen : World → Seen} {R R' : α → α' → Prop}
  {x : Except Thrown α × World} {x' : Except Thrown α' × World}

/-- Code coincides with itself where nothing is hidden. -/
theorem refl (seen : World → Seen) (x : Except Thrown α × World) : Coincide seen Eq x x := by
  obtain ⟨e | a, w⟩ := x
  · exact .threw e rfl
  · exact .gave rfl rfl

/-- A weaker relation on values may take the place of the one that is given. -/
theorem imp (h : Coincide seen R x x') (hR : ∀ a a', R a a' → R' a a') :
    Coincide seen R' x x' := by
  cases h with
  | threw e hw => exact .threw e hw
  | gave h hw => exact .gave (hR _ _ h) hw

/-- What is seen afterwards is the same. -/
theorem seen_eq (h : Coincide seen R x x') : seen x.2 = seen x'.2 := by
  cases h with
  | threw e hw => exact hw
  | gave h hw => exact hw

/-- Equal values, or the same exception. -/
theorem fst_eq {x x' : Except Thrown α × World} (h : Coincide seen Eq x x') : x.1 = x'.1 := by
  cases h with
  | threw e hw => rfl
  | gave h hw => rw [h]

end Coincide

/-- In worlds that look the same, the code does the same and leaves worlds that look the same. -/
def Act.Coincides {α : Type u} {α' : Type v} (seen : World → Seen) (R : α → α' → Prop)
    (code : Act World α) (code' : Act World α') : Prop :=
  ∀ w w', seen w = seen w' → Coincide seen R (code w) (code' w')

/-- The code does not notice what is not seen of a world. -/
def Act.Blind {α : Type u} (seen : World → Seen) (code : Act World α) : Prop :=
  code.Coincides seen Eq code

/-- Giving a value looks at nothing. -/
theorem Act.blind_ok {α : Type u} {seen : World → Seen} (a : α) :
    (Act.ok a : Act World α).Blind seen := fun _ _ hw => .gave rfl hw

/-- Changing a value looks at nothing. -/
theorem Act.Blind.map {α : Type u} {β : Type v} {seen : World → Seen} {code : Act World α}
    (h : code.Blind seen) (f : α → β) : (code.map f).Blind seen := by
  intro w w' hw
  have hcode := h w w' hw
  unfold Act.map Act.andThen
  generalize code w = x at hcode ⊢
  generalize code w' = x' at hcode ⊢
  cases hcode with
  | threw e hv => exact .threw e hv
  | gave ha hv => exact .gave (congrArg f ha) hv

/-- The replies are the same, or code to be awaited that coincides. -/
inductive Reply.Coincides {β : Type} (seen : World → Seen) :
    Reply World β → Reply World β → Prop where
  | value (b : β) : Reply.Coincides seen (.value b) (.value b)
  | awaitable {code code' : Act World β} (h : code.Coincides seen Eq code') :
      Reply.Coincides seen (.awaitable code) (.awaitable code')

/-- The outside code does not notice what is not seen of a world, and neither does what it hands
back to be awaited. -/
def Act.BlindReply {β : Type} (seen : World → Seen) (code : Act World (Reply World β)) : Prop :=
  code.Coincides seen (Reply.Coincides seen) code

/-! ## Nothing is hidden -/

section

variable {seen : World → Seen}

/-- Where worlds that look the same are the same, code that does the same in each world does. -/
theorem Act.coincides_of_injective (hidden : Function.Injective seen) {α : Type u} {α' : Type v}
    {R : α → α' → Prop} {code : Act World α} {code' : Act World α'}
    (h : ∀ w, Coincide seen R (code w) (code' w)) : code.Coincides seen R code' := by
  intro w w' hw
  obtain rfl := hidden hw
  exact h w

/-- Where all of the world is seen, no code looks at what is hidden. -/
theorem Act.blind_of_injective (hidden : Function.Injective seen) {α : Type u}
    (code : Act World α) : code.Blind seen :=
  coincides_of_injective hidden fun w => .refl seen (code w)

end

/-! ## Waits -/

namespace Flow

variable {H : Host} {seen : H.World → Seen}

/-- What a wait watches for does not depend on what is not seen of a world. -/
structure Watch.Blind {α : Type} (seen : H.World → Seen) (watch : Watch H α) : Prop where
  continueIf : ∀ a, (watch.continueIf a).Blind seen
  describe : ∀ describe, watch.describe = some describe → ∀ a, (describe a).Blind seen

/-- The words of a timeout are made without looking at what is hidden. -/
theorem Watch.Blind.timeoutMessage {α : Type} {watch : Watch H α} (h : watch.Blind seen)
    (timeout : Rat) (last : α) : (Flow.timeoutMessage watch timeout last).Blind seen := by
  unfold Flow.timeoutMessage
  cases hdescribe : watch.describe with
  | none => exact Act.blind_ok _
  | some describe => exact (h.describe describe hdescribe last).map _

/-- Where all of the world is seen, every watch is blind. -/
theorem Watch.blind_of_injective (hidden : Function.Injective seen) {α : Type}
    (watch : Watch H α) : watch.Blind seen :=
  ⟨fun _ => Act.blind_of_injective hidden _, fun _ _ _ => Act.blind_of_injective hidden _⟩

/-- The watch of the library itself calls no outside code. -/
theorem blind_succeedsWatch {α : Type} (label : String) :
    (succeedsWatch label : Watch H (Except Failure α)).Blind seen where
  continueIf r := by
    cases r with
    | ok a => exact Act.blind_ok false
    | error f => exact Act.blind_ok true
  describe describe h r := by
    cases h
    cases r with
    | ok a => exact Act.blind_ok ""
    | error f => exact Act.blind_ok f.text

end Flow

end Walkthrough
