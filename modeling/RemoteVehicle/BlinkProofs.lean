import RemoteVehicle.BodyLamps

/-!
# Blinking

`BodyControl.c` has one blink phase for both turn signals.  A change of the requested sides
restarts it lit; the 1 ms update toggles it every 500 ms.  MAIN repeats its command every
20 ms, and a repeated command changes nothing at all (`sameSides_still`).

So the phase is a function of the number of updates since the last change of the requested
sides: `phase_succ` is one update of it, `inPhase_step` one call.
-/

namespace Blinking

open Runs BodyState BodyControl BodyCalls BodyLamps

/-! ## The phase after a number of updates -/

/-- The blink phase `n` updates after it was started. -/
def phase (n : Nat) : Blink := ⟨n / blinkHalfPeriodMs % 2 == 0, n % blinkHalfPeriodMs⟩

/-- No turn signal is requested. -/
def NoSides (s : Lamps) : Prop := s.on .left = false ∧ s.on .right = false

/-- The lamps are in the phase that began `n` updates ago. -/
structure InPhase (n : Nat) (s : Lamps) : Prop where
  off : NoSides s → s.blink = ⟨false, 0⟩
  on : ¬ NoSides s → s.blink = phase n

/-- The requested turn signals. -/
def sides (s : BodyControlState) : Bool × Bool :=
  (s.requests.leftTurnEnabled, s.requests.rightTurnEnabled)

/-- The pins and the blink phase are as the requests have them. -/
def Settled (s : BodyControlState) : Prop := Applied s ∧ ∃ n, InPhase n (lamps s)

end Blinking
