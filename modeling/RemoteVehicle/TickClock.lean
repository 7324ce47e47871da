import RemoteVehicle.Runs
import Mathlib.Tactic

/-!
# A tick counter that wraps

Firmware measures time with a 32-bit counter and subtracts time stamps as unsigned
numbers.  `stamp t` is what the counter shows at time `t`; as long as less than 2^32 ticks
lie between two times, the difference of their stamps is the time between them
(`le_sub_stamp_iff`), whatever wrapped in between.

`Clocked` is the assumption on a list of events that this needs: time does not go back,
and the whole list takes less than 2^32 ticks.
-/

namespace TickClock

open Runs

/-- The counter at time `t`. -/
def stamp (t : Nat) : UInt32 := UInt32.ofNat t

/-- The time between two stamps. -/
theorem toNat_sub_stamp {t now : Nat} (hle : t ≤ now) (hlt : now - t < 2 ^ 32) :
    (stamp now - stamp t).toNat = now - t := by
  obtain ⟨d, rfl⟩ := Nat.exists_eq_add_of_le hle
  have hsub : stamp (t + d) - stamp t = UInt32.ofNat d := by
    simp only [stamp, UInt32.ofNat_add]
    grind
  rw [hsub, Nat.add_sub_cancel_left]
  rw [Nat.add_sub_cancel_left] at hlt
  exact UInt32.toNat_ofNat_of_lt' hlt

/-- **A time-out test on stamps is a time-out test on times.** -/
theorem le_sub_stamp_iff {t now : Nat} {k : UInt32} (hle : t ≤ now) (hlt : now - t < 2 ^ 32) :
    k ≤ stamp now - stamp t ↔ k.toNat ≤ now - t := by
  rw [UInt32.le_iff_toNat_le, toNat_sub_stamp hle hlt]

section Clocked

variable {E : Type} (time : E → Nat)

/-- Time does not go back, and less than 2^32 ticks pass after `start`. -/
def Clocked (start : Nat) (es : List E) : Prop :=
  AllSteps (fun _ e => time e) (fun t e => t ≤ time e ∧ time e < start + 2 ^ 32) start es

instance (start : Nat) (es : List E) : Decidable (Clocked time start es) :=
  inferInstanceAs (Decidable (AllSteps _ _ _ _))

/-- A component that notes the time of the last event meets the clock condition step by
    step. -/
theorem allSteps_clocked {S : Type} {step : S → E → S} (clock : S → Nat)
    (hstep : ∀ s e, clock (step s e) = time e) {start : Nat} {s : S} (hs : clock s = start)
    {es : List E} (h : Clocked time start es) :
    AllSteps step (fun s e => clock s ≤ time e ∧ time e < start + 2 ^ 32) s es := by
  have hmap : AllSteps step (fun s e => clock s ≤ time e ∧ time e < start + 2 ^ 32) s es ↔
      AllSteps (fun _ e => time e) (fun t e => t ≤ time e ∧ time e < start + 2 ^ 32)
        (clock s) es :=
    allSteps_map clock (fun t e => t ≤ time e ∧ time e < start + 2 ^ 32) hstep
  rw [hmap, hs]
  exact h

end Clocked

end TickClock
