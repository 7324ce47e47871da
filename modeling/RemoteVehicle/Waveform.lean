import Mathlib.Tactic

/-!
# Waveforms — levels over time

A program drives pins: each of its actions writes some of them and then waits.  A `Driver` says
what an action writes and how long it waits; `wave` lists the pins at every instant of a
program, `total` is the time the program takes and `final` what it leaves on the pins.

Waits that write nothing hold the pins (`wave_waits`), so a wait may be split into slices without
a change of the wave.  `pulse high low` is the wave of one pulse: high first, then low.
-/

namespace Waveform

variable {P A : Type}

/-- What actions do to the pins, and how long they wait. -/
structure Driver (P A : Type) where
  write : P → A → P
  wait : A → Nat

namespace Driver

variable (d : Driver P A)

/-- The pins after a program. -/
def final (p : P) (as : List A) : P := as.foldl d.write p

/-- The time a program takes. -/
def total (as : List A) : Nat := (as.map d.wait).sum

/-- The pins at every instant of a program. -/
def wave : P → List A → List P
  | _, [] => []
  | p, a :: as => List.replicate (d.wait a) (d.write p a) ++ wave (d.write p a) as

theorem wave_cons (p : P) (a : A) (as : List A) :
    d.wave p (a :: as) = List.replicate (d.wait a) (d.write p a) ++ d.wave (d.write p a) as := rfl

theorem final_cons (p : P) (a : A) (as : List A) :
    d.final p (a :: as) = d.final (d.write p a) as := rfl

theorem final_append (p : P) (as bs : List A) :
    d.final p (as ++ bs) = d.final (d.final p as) bs := List.foldl_append

theorem wave_append (p : P) (as bs : List A) :
    d.wave p (as ++ bs) = d.wave p as ++ d.wave (d.final p as) bs := by
  induction as generalizing p with
  | nil => rfl
  | cons a as ih => rw [List.cons_append, wave_cons, wave_cons, ih, final_cons, List.append_assoc]

/-- The wave is as long as the program takes. -/
theorem length_wave (p : P) (as : List A) : (d.wave p as).length = d.total as := by
  induction as generalizing p with
  | nil => rfl
  | cons a as ih =>
      rw [wave_cons, List.length_append, List.length_replicate, ih]
      rfl

/-- An action that writes at once. -/
theorem wave_write {a : A} (h : d.wait a = 0) (p : P) (as : List A) :
    d.wave p (a :: as) = d.wave (d.write p a) as := by
  rw [wave_cons, h]
  rfl

/-- **Waits hold the pins** for as long as they add up to. -/
theorem wave_waits (w : Nat → A) (hwait : ∀ us, d.wait (w us) = us)
    (hwrite : ∀ p us, d.write p (w us) = p) (waits : List Nat) (p : P) :
    d.wave p (waits.map w) = List.replicate waits.sum p ∧ d.final p (waits.map w) = p := by
  induction waits with
  | nil => exact ⟨rfl, rfl⟩
  | cons us waits ih =>
      obtain ⟨hwave, hfinal⟩ := ih
      constructor
      · rw [List.map_cons, wave_cons, hwait, hwrite, hwave, List.replicate_append_replicate,
          List.sum_cons]
      · rw [List.map_cons, final_cons, hwrite, hfinal]

end Driver

/-! ## Pulses -/

/-- High for a time, then low for a time. -/
def pulse (high low : Nat) : List Bool := List.replicate high true ++ List.replicate low false

theorem length_pulse (high low : Nat) : (pulse high low).length = high + low := by
  rw [pulse, List.length_append, List.length_replicate, List.length_replicate]

/-- A pin that is raised only when there is a time to be high. -/
theorem replicate_pos (n : Nat) : List.replicate n (decide (0 < n)) = List.replicate n true := by
  cases n with
  | zero => rfl
  | succ n => rw [decide_eq_true (Nat.succ_pos n)]

end Waveform
