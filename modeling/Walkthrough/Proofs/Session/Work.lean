import Walkthrough.Session.Turn

/-!
# The laws of work

Work in steps obeys the laws of a monad. The first steps of some work say at once what becomes of it
(`currentPage_bind`, `ask_bind_congr`), and work that blocks at each call is run step by step
(`run_bind` and its companions).
-/

namespace Walkthrough

/-- Going on with what was given anyway changes nothing. -/
theorem Conversation.andThen_done {Call : Type → Type} {ρ : Type} (c : Conversation Call ρ) :
    c.andThen .done = c := by
  induction c with
  | done r => rfl
  | ask call next ih => exact congrArg _ (funext ih)
  | warn message next ih => exact congrArg _ ih

namespace Session.Work

variable {Call : Type → Type} {Handle α β : Type}

instance : LawfulMonad (Work Call Handle) := by
  refine LawfulMonad.mk' _ (fun work => ?_) (fun _ _ => rfl) (fun work f g => ?_)
  · funext s
    show (work s).andThen _ = work s
    conv => rhs; rw [← Conversation.andThen_done (work s)]
    congr 1
    funext p
    obtain ⟨result, s⟩ := p
    cases result <;> rfl
  · funext s
    show ((work s).andThen _).andThen _ = (work s).andThen _
    rw [Conversation.andThen_assoc]
    congr 1
    funext p
    obtain ⟨result, s⟩ := p
    cases result <;> rfl

/-- Giving a value is the `pure` of work, which is how the rules below know it. -/
@[simp] theorem give_eq_pure (a : α) : (give a : Work Call Handle α) = pure a := rfl

/-- The page is read off the session. -/
theorem currentPage_bind {s : Session Handle} {page : Handle} (h : s.page = some page)
    (f : Handle → Work Call Handle β) : (currentPage >>= f) s = f page s := by
  obtain ⟨config, driver, browser, context, held, dialogs⟩ := s
  cases h
  rfl

/-- Without a page nothing that needs one is done. -/
theorem currentPage_bind_none {s : Session Handle} (h : s.page = none)
    (f : Handle → Work Call Handle β) :
    (currentPage >>= f) s = .done (.error (Refusal.toFault .notStarted), s) := by
  obtain ⟨config, driver, browser, context, held, dialogs⟩ := s
  cases h
  rfl

/-- A call leaves the session as it is. -/
theorem ask_bind_congr {call : Call α} {f g : α → Work Call Handle β} {s : Session Handle}
    (h : ∀ a, f a s = g a s) : (ask call >>= f) s = (ask call >>= g) s := by
  show Conversation.ask call _ = Conversation.ask call _
  congr 1
  funext answer
  cases answer with
  | ok a => exact h a
  | error e => rfl

/-- Work that does the same from a session does so under `translating`, too. -/
theorem translating_congr {action : String} {work other : Work Call Handle α} {s : Session Handle}
    (h : work s = other s) : work.translating action s = other.translating action s := by
  show (work s).andThen _ = (other s).andThen _
  rw [h]

end Session.Work

/-! ## Running

The rules by which `simp` runs a method step by step, here and in the modules on closing, focus and
alerts. -/

namespace Session

open Work

universe u

variable {Handle α β : Type} {World : Type u} {E : Engine Handle World} {s : Session Handle}
  {w : World}

@[simp] theorem run_held : run E held s w = ((.ok s, s), w) := rfl

@[simp] theorem run_change (f : Session Handle → Session Handle) :
    run E (change f) s w = ((.ok (), f s), w) := rfl

@[simp] theorem run_refuse (r : Refusal) :
    run E (refuse r : BlockingWork Handle α) s w = ((.error r.toFault, s), w) := rfl

@[simp] theorem run_ask (call : EngineCall Handle β) :
    run E (ask call) s w = (((E.answer call w).1, s), (E.answer call w).2) := rfl

/-- Running goes on from the session and the world that the first piece of work left, and not at all
after a fault. -/
@[simp] theorem run_bind (work : BlockingWork Handle α) (f : α → BlockingWork Handle β) :
    run E (work >>= f) s w =
      match run E work s w with
      | ((.ok a, s), w) => run E (f a) s w
      | ((.error e, s), w) => ((.error e, s), w) := by
  refine (Conversation.block_andThen E (work s) _ w).trans ?_
  unfold run
  obtain ⟨⟨result, s⟩, w⟩ := (work s).block E w
  cases result <;> rfl

/-- Only a fault of the engine is translated; what the session held by then stays as it is. -/
@[simp] theorem run_translating (action : String) (work : BlockingWork Handle α) :
    run E (work.translating action) s w =
      match run E work s w with
      | ((.ok a, s), w) => ((.ok a, s), w)
      | ((.error e, s), w) =>
        if e.ofEngine then ((.error (Refusal.engineFailed action e.text).toFault, s), w)
        else ((.error e, s), w) := by
  refine (Conversation.block_andThen E (work s) _ w).trans ?_
  unfold run
  obtain ⟨⟨result, s⟩, w⟩ := (work s).block E w
  cases result with
  | ok a => rfl
  | error e => cases h : e.ofEngine <;> simp [h] <;> rfl

/-- The page that has the focus is read without a call. -/
theorem run_currentPage {page : Handle} (h : s.page = some page) :
    run E currentPage s w = ((.ok page, s), w) := by
  obtain ⟨config, driver, browser, context, held, dialogs⟩ := s
  cases h
  rfl

/-- A session that has not been started refuses, without a call. -/
theorem run_currentPage_none (h : s.page = none) :
    run E currentPage s w = ((.error (Refusal.toFault .notStarted), s), w) := by
  obtain ⟨config, driver, browser, context, held, dialogs⟩ := s
  cases h
  rfl

end Session

end Walkthrough
