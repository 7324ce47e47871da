import Mathlib.Tactic
import Mathlib.Order.Lattice
import Mathlib.Data.List.Chain

/-!
# Hysteresis

A level follows a measurement with hysteresis when it stays where it is as long as the
measurement allows: there is a level to which a measurement raises a lower level, and one to
which it lowers a higher level.  A step is the clamp of the level between the two.

A sequence of measurements is steady when none of them lowers the level further than another
raises it.  The levels along a steady sequence only rise or only fall (`levels_steady`).
-/

namespace Hysteresis

variable {D L : Type} [LinearOrder L]

/-- The levels to which a measurement raises and lowers. -/
structure Band (D L : Type) [LinearOrder L] where
  raise : D → L
  lower : D → L
  raise_le_lower : ∀ d, raise d ≤ lower d

variable (b : Band D L)

/-- The level after a measurement. -/
def Band.step (l : L) (d : D) : L := max (b.raise d) (min l (b.lower d))

/-- The levels along a sequence of measurements, the first one included. -/
def Band.levels (l : L) (ds : List D) : List L := ds.scanl b.step l

/-- No measurement lowers the level further than another raises it. -/
def Band.Steady (ds : List D) : Prop := ∀ d ∈ ds, ∀ e ∈ ds, b.raise d ≤ b.lower e

variable {b} {l : L} {d : D} {ds : List D}

/-! ## One step -/

theorem raise_le_step : b.raise d ≤ b.step l d := le_max_left _ _

theorem step_le_lower : b.step l d ≤ b.lower d := max_le (b.raise_le_lower d) (min_le_right _ _)

/-- A level that a measurement does not lower does not fall. -/
theorem step_of_le_lower (h : l ≤ b.lower d) : b.step l d = max (b.raise d) l := by
  rw [Band.step, min_eq_left h]

/-- A level that a measurement does not raise does not rise. -/
theorem step_of_raise_le (h : b.raise d ≤ l) : b.step l d = min l (b.lower d) :=
  max_eq_right (le_min h (b.raise_le_lower d))

/-- **A second measurement of the same changes nothing.** -/
theorem step_step : b.step (b.step l d) d = b.step l d := by
  rw [step_of_le_lower step_le_lower]
  exact max_eq_right raise_le_step

/-- A measurement that raises and lowers further leaves a level that is no lower. -/
theorem step_mono {e : D} (hraise : b.raise d ≤ b.raise e) (hlower : b.lower d ≤ b.lower e) :
    b.step l d ≤ b.step l e :=
  max_le_max hraise (min_le_min_left l hlower)

/-! ## Sequences -/

theorem levels_cons : b.levels l (d :: ds) = l :: b.levels (b.step l d) ds := List.scanl_cons

theorem levels_head (l : L) (ds : List D) : ∃ rest, b.levels l ds = l :: rest := by
  cases ds with
  | nil => exact ⟨[], List.scanl_nil⟩
  | cons d ds => exact ⟨_, levels_cons⟩

/-- What relates every level to the next one relates every two levels in their order. -/
theorem levels_pairwise (R : L → L → Prop) [IsTrans L R] {l m : L} (hstep : R l m)
    (h : (b.levels m ds).Pairwise R) : (l :: b.levels m ds).Pairwise R := by
  obtain ⟨rest, hrest⟩ := levels_head (b := b) m ds
  rw [hrest] at h ⊢
  refine List.pairwise_cons.mpr ⟨?_, h⟩
  intro x hx
  obtain rfl | hx := List.mem_cons.mp hx
  · exact hstep
  · exact Trans.trans hstep ((List.pairwise_cons.mp h).1 x hx)

theorem levels_rise (hsteady : b.Steady ds) (hl : ∀ d ∈ ds, l ≤ b.lower d) :
    (b.levels l ds).Pairwise (· ≤ ·) := by
  induction ds generalizing l with
  | nil =>
      rw [Band.levels, List.scanl_nil]
      exact List.pairwise_singleton _ _
  | cons d ds ih =>
      have hd : d ∈ d :: ds := List.mem_cons_self
      have hstep : b.step l d = max (b.raise d) l := step_of_le_lower (hl d hd)
      rw [levels_cons]
      refine levels_pairwise _ ?_ (ih ?_ ?_)
      · rw [hstep]
        exact le_max_right _ _
      · intro x hx y hy
        exact hsteady x (List.mem_cons_of_mem _ hx) y (List.mem_cons_of_mem _ hy)
      · intro e he
        have hmem := List.mem_cons_of_mem d he
        rw [hstep]
        exact max_le (hsteady d hd e hmem) (hl e hmem)

theorem levels_fall (hsteady : b.Steady ds) (hl : ∀ d ∈ ds, b.raise d ≤ l) :
    (b.levels l ds).Pairwise (· ≥ ·) := by
  induction ds generalizing l with
  | nil =>
      rw [Band.levels, List.scanl_nil]
      exact List.pairwise_singleton _ _
  | cons d ds ih =>
      have hd : d ∈ d :: ds := List.mem_cons_self
      have hstep : b.step l d = min l (b.lower d) := step_of_raise_le (hl d hd)
      rw [levels_cons]
      refine levels_pairwise _ ?_ (ih ?_ ?_)
      · rw [hstep]
        exact min_le_left _ _
      · intro x hx y hy
        exact hsteady x (List.mem_cons_of_mem _ hx) y (List.mem_cons_of_mem _ hy)
      · intro e he
        have hmem := List.mem_cons_of_mem d he
        rw [hstep]
        exact le_min (hl e hmem) (hsteady e hmem d hd)

/-- **Along a steady sequence the level only rises or only falls.**  If no measurement lowers
    the first level, it rises; otherwise the one that does is as high as any raises it. -/
theorem levels_steady (hsteady : b.Steady ds) :
    (b.levels l ds).Pairwise (· ≤ ·) ∨ (b.levels l ds).Pairwise (· ≥ ·) := by
  by_cases hl : ∀ d ∈ ds, l ≤ b.lower d
  · exact .inl (levels_rise hsteady hl)
  · push Not at hl
    obtain ⟨e, he, hlow⟩ := hl
    exact .inr (levels_fall hsteady fun d hd => (hsteady d hd e he).trans hlow.le)

/-- **The same measurement over and over** leaves the level of the first step. -/
theorem levels_const (n : Nat) :
    b.levels (b.step l d) (List.replicate n d) = List.replicate (n + 1) (b.step l d) := by
  induction n with
  | zero => exact List.scanl_nil
  | succ n ih => rw [List.replicate_succ, levels_cons, step_step, ih, ← List.replicate_succ]

end Hysteresis
