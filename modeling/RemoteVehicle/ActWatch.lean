import RemoteVehicle.ActSpec

/-!
# Watching a run of ACT — what the safety statements talk about

Statements about runs speak of things that are no variable of the firmware: the last
accepted command and its age, what they were at the latest `ActCan_Update100us`, and how
many PWM cycles have driven the motor since.  `Watch` keeps them beside the machine; it is
a specification in the sense of `Runs.withSpec` and never influences the machine.
-/

namespace ActWatch

open Runs CanFrame ActMotor ActState ActUdsDiag ActCan ActLoop ActSpec HeldCommand

/-- What the watch is told. -/
inductive WatchOp where
  | accept (c : ActCommand)
  | tick
  | driven
deriving DecidableEq, Repr

/-- The watch: command held now, command held at the latest tick, and the number of
    `MotorControl_Update` executions with a turning motor since the last acceptance. -/
structure Watch where
  held : Held ActCommand
  atTick : Held ActCommand
  driven : Nat
deriving DecidableEq, Repr

/-- Before anything happened. -/
def Watch.empty : Watch := ⟨Held.empty, Held.empty, 0⟩

def Watch.step (w : Watch) : WatchOp → Watch
  | .accept c => { w with held := w.held.step (.accept c), driven := 0 }
  | .tick => { w with held := w.held.step .tick, atTick := w.held.step .tick }
  | .driven => { w with driven := w.driven + 1 }

/-- What a call tells the watch. -/
def callOps (s : Act) : BootCall ⊕ LoopCall → List WatchOp
  | .inr .canUpdate100us => [.tick]
  | .inr .motorUpdate => if s.motor.motorState = .stop then [] else [.driven]
  | _ => []

/-- What an event tells the watch. -/
def watchOps (s : ActMachine) : ActEvent → List WatchOp
  | .rxIsr m => (accepted m).toList.map .accept
  | .call _ => callOps s.act (callAt s.pc)

/-- Machine and watch after one event. -/
def watchStep : ActMachine × Watch → ActEvent → ActMachine × Watch :=
  withSpec actStep Watch.step watchOps

/-- Machine and watch after a list of events from reset. -/
def watchRun (r : ActReset) (es : List ActEvent) : ActMachine × Watch :=
  run watchStep (actReset r, Watch.empty) es

/-! ## Orders to stop -/

/-- A command that orders the motor to stop. -/
def OrdersStop (c : ActCommand) : Prop :=
  c.safetyOverrideRaw = actCanSafetyForceStop ∨
    c.controlModeRaw ≠ actCanControlRemoteDrive ∨ c.brakeRaw = actCanBrakeOn

instance (c : ActCommand) : Decidable (OrdersStop c) := by
  unfold OrdersStop; infer_instance

/-- The time-out has expired, or the last accepted command orders a stop. -/
def StopOrdered (h : Held ActCommand) : Prop :=
  match h.inForce actCanCmdTimeout100usTicks with
  | none => True
  | some c => OrdersStop c

instance (h : Held ActCommand) : Decidable (StopOrdered h) := by
  unfold StopOrdered; split <;> infer_instance

/-- The decode of a command that orders a stop is stopped. -/
theorem actDecode_of_ordersStop {c : ActCommand} (h : OrdersStop c) :
    (actDecode c).motorState = .stop := by
  rw [actDecode]
  by_cases hs : c.safetyOverrideRaw = actCanSafetyForceStop
  · rw [if_pos hs]; rfl
  · rw [if_neg hs]
    by_cases hm : c.controlModeRaw ≠ actCanControlRemoteDrive
    · rw [if_pos hm]; rfl
    · rw [if_neg hm]
      rcases h with h | h | h
      · exact absurd h hs
      · exact absurd h hm
      · show driveState c = .stop
        rw [driveState, if_pos h]

/-! ## The boot phase -/

/-- Before the main loop. -/
def InBoot : ActPc → Prop
  | .boot _ => True
  | .pulseHigh (.boot _) => True
  | .pulseLow (.boot _) _ => True
  | .pulseEncoder (.boot _) _ => True
  | _ => False

/-- The boot phase is left for good: it can only be continued from within. -/
theorem inBoot_of_next {s : ActMachine} (h : InBoot (nextPc s)) : InBoot s.pc := by
  -- only boot calls, and the pulses they make, lead to a boot call
  rcases hs : s.pc with c | i | _ | _ | _ | _ | _ | _ | k | ⟨k, us⟩ | ⟨k, us⟩
  · trivial
  · simp only [nextPc, hs] at h
    split at h <;> exact h.elim
  · simp only [nextPc, hs] at h
    exact h.elim
  · simp only [nextPc, hs] at h
    exact h.elim
  · simp only [nextPc, hs] at h
    exact h.elim
  · simp only [nextPc, hs] at h
    exact h.elim
  · simp only [nextPc, hs] at h
    exact h.elim
  · simp only [nextPc, hs] at h
    split at h <;> exact h.elim
  · cases k with
    | boot n => trivial
    | loop =>
        simp only [nextPc, hs] at h
        exact h.elim
  · cases k with
    | boot n => trivial
    | loop =>
        simp only [nextPc, hs] at h
        split at h <;> exact h.elim
  · cases k with
    | boot n => trivial
    | loop =>
        simp only [nextPc, hs] at h
        exact h.elim

/-! ## Positions and calls -/

theorem callAt_boot {pc : ActPc} {c : BootCall} (h : callAt pc = .inl c) :
    pc = .boot c := by
  cases pc with
  | boot d => exact congrArg ActPc.boot (Sum.inl.inj h)
  | _ => exact absurd h (by simp [callAt])

theorem callAt_canUpdate {pc : ActPc} (h : callAt pc = .inr .canUpdate100us) :
    ∃ i, pc = .canUpdate i := by
  cases pc with
  | canUpdate i => exact ⟨i, rfl⟩
  | pulseLow k us =>
      simp only [callAt] at h
      split at h <;> exact absurd h (by simp)
  | _ => exact absurd h (by simp [callAt])

theorem callAt_udsUpdate {pc : ActPc} (h : callAt pc = .inr .udsUpdate1ms) :
    pc = .udsUpdate := by
  cases pc with
  | udsUpdate => rfl
  | pulseLow k us =>
      simp only [callAt] at h
      split at h <;> exact absurd h (by simp)
  | _ => exact absurd h (by simp [callAt])

/-- Only the diagnostics call comes right before the motor update of the loop. -/
theorem nextPc_motorUpdate {s : ActMachine} (h : nextPc s = .motorUpdate) :
    s.pc = .udsUpdate := by
  rcases hs : s.pc with c | i | _ | _ | _ | _ | _ | _ | k | ⟨k, us⟩ | ⟨k, us⟩
  · simp only [nextPc, hs] at h
    cases c <;> exact absurd h (by simp [afterBoot])
  · simp only [nextPc, hs] at h
    split at h <;> exact absurd h (by simp)
  · rfl
  · simp only [nextPc, hs] at h
    exact absurd h (by simp)
  · simp only [nextPc, hs] at h
    exact absurd h (by simp)
  · simp only [nextPc, hs] at h
    exact absurd h (by simp)
  · simp only [nextPc, hs] at h
    exact absurd h (by simp)
  · simp only [nextPc, hs] at h
    split at h <;> exact absurd h (by simp)
  · simp only [nextPc, hs] at h
    exact absurd h (by simp)
  · simp only [nextPc, hs] at h
    split at h
    · exact absurd h (by simp)
    · rcases k with (_ | n) | _ <;> exact absurd h (by simp [afterPulse])
  · simp only [nextPc, hs] at h
    exact absurd h (by simp)

/-- A call that is no CAN update moves at most the driven count of the watch. -/
theorem callOps_quiet (s : Act) (w : Watch) {c : LoopCall} (h : c ≠ .canUpdate100us) :
    ∃ d, run Watch.step w (callOps s (.inr c)) = { w with driven := d } := by
  cases c with
  | canUpdate100us => exact absurd rfl h
  | motorUpdate =>
      simp only [callOps]
      split
      · exact ⟨w.driven, rfl⟩
      · exact ⟨w.driven + 1, rfl⟩
  | _ => exact ⟨w.driven, rfl⟩

end ActWatch
