import Mathlib.Data.List.Forall2

/-!
# Programs that ask the world

A program asks the world, goes on with the answer, and ends with a value or an exception;
the world has changed meanwhile.  `Returns x P` says that `x` always ends with a value that
has the property `P`; its rules follow the way programs are put together.
-/

namespace Dialogue

variable {W E α β : Type}

/-- A program over the worlds `W` with exceptions `E`. -/
def Talk (W E α : Type) : Type := W → Except E α × W

instance : Monad (Talk W E) where
  pure a := fun w => (.ok a, w)
  bind x f := fun w =>
    match x w with
    | (.ok a, w') => f a w'
    | (.error e, w') => (.error e, w')

/-- End with an exception. -/
def raise (e : E) : Talk W E α := fun w => (.error e, w)

/-- One round for each element. -/
def forEach (f : α → Talk W E β) : List α → Talk W E (List β)
  | [] => pure []
  | a :: as => do
      let b ← f a
      let bs ← forEach f as
      pure (b :: bs)

/-- Go on after a value, or handle the exception. -/
def onError (x : Talk W E α) (handle : E → Talk W E β) (k : α → Talk W E β) : Talk W E β :=
  fun w =>
    match x w with
    | (.ok a, w') => k a w'
    | (.error e, w') => handle e w'

/-- In every world the program ends with a value that has the property. -/
def Returns (x : Talk W E α) (P : α → Prop) : Prop := ∀ w, ∃ a w', x w = (.ok a, w') ∧ P a

section Rules

variable {x : Talk W E α} {f : α → Talk W E β} {P : α → Prop} {Q : β → Prop}

theorem Returns.pure {a : α} (h : P a) : Returns (Pure.pure a : Talk W E α) P :=
  fun w => ⟨a, w, rfl, h⟩

theorem Returns.bind (hx : Returns x P) (hf : ∀ a, P a → Returns (f a) Q) :
    Returns (x >>= f) Q := by
  intro w
  obtain ⟨a, w', hrun, ha⟩ := hx w
  obtain ⟨b, w'', hrun', hb⟩ := hf a ha w'
  refine ⟨b, w'', ?_, hb⟩
  show (match x w with
    | (.ok a, w') => f a w'
    | (.error e, w') => (.error e, w')) = _
  rw [hrun]
  exact hrun'

theorem Returns.mono {P' : α → Prop} (hx : Returns x P) (h : ∀ a, P a → P' a) :
    Returns x P' := by
  intro w
  obtain ⟨a, w', hrun, ha⟩ := hx w
  exact ⟨a, w', hrun, h a ha⟩

/-- **A loop** gives each element what its round gives. -/
theorem Returns.forEach {R : α → β → Prop} {as : List α} (h : ∀ a ∈ as, Returns (f a) (R a)) :
    Returns (forEach f as) (List.Forall₂ R as) := by
  induction as with
  | nil => exact Returns.pure .nil
  | cons a as ih =>
      refine Returns.bind (h a (by simp)) fun b hb => ?_
      refine Returns.bind (ih fun a' ha' => h a' (by simp [ha'])) fun bs hbs => ?_
      exact Returns.pure (.cons hb hbs)

theorem Returns.onError {handle : E → Talk W E β} (hx : Returns x P)
    (hf : ∀ a, P a → Returns (f a) Q) : Returns (onError x handle f) Q := by
  intro w
  obtain ⟨a, w', hrun, ha⟩ := hx w
  obtain ⟨b, w'', hrun', hb⟩ := hf a ha w'
  refine ⟨b, w'', ?_, hb⟩
  rw [Dialogue.onError, hrun]
  exact hrun'

end Rules

end Dialogue
