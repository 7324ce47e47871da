import Mathlib.Order.Basic
import RemoteVehicle.Dialogue

/-!
# Programs that take time

The worlds are ordered by what has happened: `w ≤ w'` says that `w` is in the past of `w'`.  A
program that asks a world that goes on meanwhile cannot say how the world is when it ends, only
how it was at some moment (`Meanwhile`) while it ran.

`Ends x w Q R` says how `x` ends that is started in `w`: not in the past, with a value as `Q` says
or an exception as `R` says.  Its rules follow the way programs are put together.  A moment of a
part is a moment of the whole (`Meanwhile.wider`), and `Ends.forEach` keeps what each round has
found out.
-/

namespace Dialogue

variable {W E α β : Type} [Preorder W]

/-! ## Moments -/

/-- At some moment between the two it was so. -/
def Meanwhile (P : W → Prop) (w w' : W) : Prop := ∃ v, w ≤ v ∧ v ≤ w' ∧ P v

theorem Meanwhile.wider {P : W → Prop} {u w w' u' : W} (h : Meanwhile P w w') (hu : u ≤ w)
    (hu' : w' ≤ u') : Meanwhile P u u' := by
  obtain ⟨v, hv, hv', hP⟩ := h
  exact ⟨v, hu.trans hv, hv'.trans hu', hP⟩

theorem Meanwhile.mono {P Q : W → Prop} {w w' : W} (h : Meanwhile P w w')
    (hPQ : ∀ v, P v → Q v) : Meanwhile Q w w' := by
  obtain ⟨v, hv, hv', hP⟩ := h
  exact ⟨v, hv, hv', hPQ v hP⟩

/-! ## How a program ends -/

/-- What is said of an end: of a value with `Q`, of an exception with `R`. -/
def EndsAs (Q : α → W → Prop) (R : E → W → Prop) : Except E α × W → Prop
  | (.ok a, w') => Q a w'
  | (.error e, w') => R e w'

/-- Started in `w`, the program ends later, and as `Q` and `R` say. -/
def Ends (x : Talk W E α) (w : W) (Q : α → W → Prop) (R : E → W → Prop) : Prop :=
  w ≤ (x w).2 ∧ EndsAs Q R (x w)

section Rules

variable {x : Talk W E α} {f : α → Talk W E β} {w : W} {P : α → W → Prop} {Q : β → W → Prop}
  {R : E → W → Prop}

theorem Ends.pure {Q : α → W → Prop} {a : α} (h : Q a w) :
    Ends (Pure.pure a : Talk W E α) w Q R := ⟨le_refl w, h⟩

theorem Ends.raise {e : E} (h : R e w) : Ends (raise e : Talk W E β) w Q R := ⟨le_refl w, h⟩

theorem Ends.mono {P' : α → W → Prop} {R' : E → W → Prop} (hx : Ends x w P R)
    (hP : ∀ a w', w ≤ w' → P a w' → P' a w') (hR : ∀ e w', w ≤ w' → R e w' → R' e w') :
    Ends x w P' R' := by
  obtain ⟨hle, hend⟩ := hx
  refine ⟨hle, ?_⟩
  rcases hrun : x w with ⟨e | a, w'⟩ <;> rw [hrun] at hle hend
  · exact hR e w' hle hend
  · exact hP a w' hle hend

/-- A program that raises nothing ends with a value. -/
theorem Ends.value (hx : Ends x w P fun (_ : E) _ => False) :
    ∃ a w', x w = (.ok a, w') ∧ w ≤ w' ∧ P a w' := by
  obtain ⟨hle, hend⟩ := hx
  rcases hrun : x w with ⟨e | a, w'⟩ <;> rw [hrun] at hle hend
  · exact absurd hend id
  · exact ⟨a, w', rfl, hle, hend⟩

/-- What holds of a program holds of a run of it that has ended with a value. -/
theorem Ends.ended (hx : Ends x w P R) {a : α} {w' : W} (h : x w = (.ok a, w')) :
    w ≤ w' ∧ P a w' := by
  obtain ⟨hle, hend⟩ := hx
  rw [h] at hle hend
  exact ⟨hle, hend⟩

/-- **Handling** what a part may end with. -/
theorem Ends.onError {handle : E → Talk W E β} {R' : E → W → Prop} (hx : Ends x w P R')
    (hf : ∀ a w', w ≤ w' → P a w' → Ends (f a) w' Q R)
    (hhandle : ∀ e w', w ≤ w' → R' e w' → Ends (handle e) w' Q R) :
    Ends (onError x handle f) w Q R := by
  obtain ⟨hle, hend⟩ := hx
  rcases hrun : x w with ⟨e | a, w'⟩ <;> rw [hrun] at hle hend
  · have hnext := hhandle e w' hle hend
    have hsame : Dialogue.onError x handle f w = handle e w' := by rw [Dialogue.onError, hrun]
    rw [Ends, hsame]
    exact ⟨hle.trans hnext.1, hnext.2⟩
  · have hnext := hf a w' hle hend
    have hsame : Dialogue.onError x handle f w = f a w' := by rw [Dialogue.onError, hrun]
    rw [Ends, hsame]
    exact ⟨hle.trans hnext.1, hnext.2⟩

/-- **One after the other**; an exception of the first part is one of the whole. -/
theorem Ends.bind (hx : Ends x w P R)
    (hf : ∀ a w', w ≤ w' → P a w' → Ends (f a) w' Q R) : Ends (x >>= f) w Q R := by
  have hsame : x >>= f = Dialogue.onError x Dialogue.raise f := by
    funext w
    show (match x w with
      | (.ok a, w') => f a w'
      | (.error e, w') => (.error e, w')) = _
    rw [Dialogue.onError]
    rcases x w with ⟨_ | _, _⟩ <;> rfl
  rw [hsame]
  exact hx.onError hf fun e w' _ he => Ends.raise he

/-- **A loop** keeps what each round has found out, if that stays so. -/
theorem Ends.forEach {S : α → β → W → Prop} {as : List α}
    (hf : ∀ a ∈ as, ∀ u, w ≤ u → Ends (f a) u (S a) R)
    (hstays : ∀ a b u u', u ≤ u' → S a b u → S a b u') :
    Ends (forEach f as) w (fun bs w' => List.Forall₂ (fun a b => S a b w') as bs) R := by
  induction as generalizing w with
  | nil => exact Ends.pure .nil
  | cons a as ih =>
      refine Ends.bind (hf a (by simp) w (le_refl w)) fun b u hu hb => ?_
      have htail := ih (w := u) fun a' ha' u' hu' => hf a' (by simp [ha']) u' (hu.trans hu')
      refine Ends.bind htail fun bs u' hu' hbs => ?_
      exact Ends.pure (.cons (hstays a b u u' hu' hb) hbs)

end Rules

end Dialogue
