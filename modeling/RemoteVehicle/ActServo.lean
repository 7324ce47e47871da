import Mathlib.Tactic

/-!
# ACT steering servo — `Servo.c`

The steering key fixes the target pulse; one `Steering_Update` puts one 20 ms servo
period on the pin.  `PulseUs` carries the range that `Servo_LimitPulseUs` enforces, so the
low phase `20000 - pulse` never wraps.
-/

namespace ActServo

/-- `SteeringState`. -/
inductive SteeringState where
  | left
  | middle
  | right
deriving DecidableEq, Repr

/-- `SteeringKey`. -/
inductive SteeringKey where
  | null
  | left
  | right
deriving DecidableEq, Repr

/-- A pulse between `SERVO_MIN_US` and `SERVO_MAX_US`. -/
structure PulseUs where
  val : Nat
  min_le : 900 ≤ val
  le_max : val ≤ 1500
deriving DecidableEq, Repr

/-- `Servo_LimitPulseUs`. -/
def servoLimitPulseUs (pulseUs : Nat) : PulseUs :=
  if h₁ : pulseUs < 900 then ⟨900, by decide, by decide⟩
  else if h₂ : 1500 < pulseUs then ⟨1500, by decide, by decide⟩
  else ⟨pulseUs, Nat.not_lt.mp h₁, Nat.not_lt.mp h₂⟩

/-- `STEERING_LEFT_US`. -/
def steeringLeftUs : Nat := 900

/-- `STEERING_MIDDLE_US`. -/
def steeringMiddleUs : Nat := 1200

/-- `STEERING_RIGHT_US`. -/
def steeringRightUs : Nat := 1500

/-- `Servo_AbsDiffUs`. -/
def servoAbsDiffUs (a b : Nat) : Nat := if b < a then a - b else b - a

/-- `Steering_StateToPulseUs`. -/
def steeringStateToPulseUs : SteeringState → PulseUs
  | .left => servoLimitPulseUs steeringLeftUs
  | .right => servoLimitPulseUs steeringRightUs
  | .middle => servoLimitPulseUs steeringMiddleUs

/-- The static variables of `Servo.c`. -/
structure Steering where
  steeringState : SteeringState
  steeringKey : SteeringKey
  currentPulseUs : PulseUs
deriving DecidableEq, Repr

/-- `Steering_UpdateStateFromPulse`: the nearest of the three positions. -/
def steeringUpdateStateFromPulse (s : Steering) : Steering :=
  let leftDiff := servoAbsDiffUs s.currentPulseUs.val steeringLeftUs
  let middleDiff := servoAbsDiffUs s.currentPulseUs.val steeringMiddleUs
  let rightDiff := servoAbsDiffUs s.currentPulseUs.val steeringRightUs
  { s with
    steeringState :=
      if leftDiff ≤ middleDiff ∧ leftDiff ≤ rightDiff then .left
      else if rightDiff ≤ middleDiff ∧ rightDiff ≤ leftDiff then .right
      else .middle }

/-- `Steering_SetTargetPulseImmediate`. -/
def steeringSetTargetPulseImmediate (targetPulseUs : Nat) (s : Steering) : Steering :=
  steeringUpdateStateFromPulse { s with currentPulseUs := servoLimitPulseUs targetPulseUs }

/-- The target pulse of a key. -/
def steeringKeyTargetUs : SteeringKey → Nat
  | .left => steeringLeftUs
  | .right => steeringRightUs
  | .null => steeringMiddleUs

/-- `Steering_UpdatePulseByKey`. -/
def steeringUpdatePulseByKey (s : Steering) : Steering :=
  steeringSetTargetPulseImmediate (steeringKeyTargetUs s.steeringKey) s

/-- `Steering_Init`; it does not depend on the state before. -/
def steeringInit : Steering where
  steeringState := .middle
  steeringKey := .null
  currentPulseUs := servoLimitPulseUs steeringMiddleUs

/-- `Steering_SetState`: releases the key. -/
def steeringSetState (state : SteeringState) (_ : Steering) : Steering where
  steeringKey := .null
  steeringState := state
  currentPulseUs := steeringStateToPulseUs state

/-- `Steering_SetKey`. -/
def steeringSetKey (key : SteeringKey) (s : Steering) : Steering :=
  steeringSetTargetPulseImmediate (steeringKeyTargetUs key) { s with steeringKey := key }

/-- `Steering_Center`. -/
def steeringCenter (s : Steering) : Steering := steeringSetState .middle s

/-- `SERVO_PERIOD_US`. -/
def servoPeriodUs : Nat := 20000

/-- The low phase of `Servo_SendOnePulse`. -/
def servoLowTimeUs (highTimeUs : PulseUs) : Nat := servoPeriodUs - highTimeUs.val

/-- A low phase takes more than 18 ms and less than 20 ms. -/
theorem servoLowTimeUs_bounds (p : PulseUs) :
    18500 ≤ servoLowTimeUs p ∧ servoLowTimeUs p ≤ 19100 := by
  have h₁ := p.min_le
  have h₂ := p.le_max
  simp only [servoLowTimeUs, servoPeriodUs]
  omega

@[simp] theorem steeringUpdatePulseByKey_steeringKey (s : Steering) :
    (steeringUpdatePulseByKey s).steeringKey = s.steeringKey := rfl

@[simp] theorem steeringSetKey_steeringKey (key : SteeringKey) (s : Steering) :
    (steeringSetKey key s).steeringKey = key := rfl

@[simp] theorem steeringCenter_steeringKey (s : Steering) :
    (steeringCenter s).steeringKey = .null := rfl

end ActServo
