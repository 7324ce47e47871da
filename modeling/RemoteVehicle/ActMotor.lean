import Mathlib.Tactic

/-!
# ACT motor driver — `Motor.c`

Two motors behind one shield, driven by a software PWM.  The setters only write the
commanded state and the duties; `MotorControl_Update` puts one 1000 us cycle on the pins.
A cycle is modelled as the list of pin writes and waits it makes, in order, so that the
encoder polls inside the waits and the waveform can both be read off it.

`DutyPercent` carries the bound that `Motor_LimitDutyPercent` establishes: a duty above
100 percent cannot be stored.
-/

namespace ActMotor

/-- `MotorState`. -/
inductive MotorState where
  | stop
  | forward
  | reverse
deriving DecidableEq, Repr

/-- A duty of at most 100 percent. -/
structure DutyPercent where
  val : UInt32
  le_hundred : val ≤ 100
deriving DecidableEq, Repr

/-- `Motor_LimitDutyPercent`. -/
def motorLimitDutyPercent (dutyPercent : UInt32) : DutyPercent :=
  if h : 100 < dutyPercent then ⟨100, by decide⟩
  else ⟨dutyPercent, UInt32.not_lt.mp h⟩

/-- Limiting a stored duty again changes nothing. -/
@[simp] theorem motorLimitDutyPercent_val (d : DutyPercent) :
    motorLimitDutyPercent d.val = d := by
  have h : ¬ 100 < d.val := UInt32.not_lt.mpr d.le_hundred
  rw [motorLimitDutyPercent, dif_neg h]

/-- `MOTOR_DEFAULT_DUTY_PERCENT`. -/
def motorDefaultDutyPercent : UInt32 := 90

/-! ## Pins -/

/-- Levels of the shield pins; `true` is high. -/
structure MotorPins where
  pwmA : Bool
  pwmB : Bool
  brakeA : Bool
  brakeB : Bool
  dirA : Bool
  dirB : Bool
deriving DecidableEq, Repr

/-- What a PWM cycle does: pin writes and waits. -/
inductive MotorAction where
  | setPwmLowBoth
  | setPwmHighA
  | setPwmHighB
  | setPwmLowA
  | setPwmLowB
  | setBrakeOnBoth
  | setBrakeOffBoth
  | setDirectionForwardBoth
  | setDirectionReverseBoth
  | delayUs (us : Nat)
deriving DecidableEq, Repr

/-- Motor A turns forward on a high direction pin, motor B on a low one
    (`MOTOR_A_FORWARD_DIR_HIGH`, `MOTOR_B_FORWARD_DIR_HIGH`). -/
def MotorPins.write (p : MotorPins) : MotorAction → MotorPins
  | .setPwmLowBoth => { p with pwmA := false, pwmB := false }
  | .setPwmHighA => { p with pwmA := true }
  | .setPwmHighB => { p with pwmB := true }
  | .setPwmLowA => { p with pwmA := false }
  | .setPwmLowB => { p with pwmB := false }
  | .setBrakeOnBoth => { p with brakeA := true, brakeB := true }
  | .setBrakeOffBoth => { p with brakeA := false, brakeB := false }
  | .setDirectionForwardBoth => { p with dirA := true, dirB := false }
  | .setDirectionReverseBoth => { p with dirA := false, dirB := true }
  | .delayUs _ => p

/-! ## Commanded state -/

/-- The static variables of `Motor.c` and the pins it drives. -/
structure Motor where
  motorState : MotorState
  dutyPercent : DutyPercent
  leftDutyPercent : DutyPercent
  rightDutyPercent : DutyPercent
  pins : MotorPins
deriving DecidableEq, Repr

/-- `MotorControl_SetState`; its range check always passes. -/
def motorControlSetState (state : MotorState) (m : Motor) : Motor :=
  { m with motorState := state }

/-- `MotorControl_Forward`. -/
def motorControlForward (m : Motor) : Motor := motorControlSetState .forward m

/-- `MotorControl_Reverse`. -/
def motorControlReverse (m : Motor) : Motor := motorControlSetState .reverse m

/-- `MotorControl_Stop`: brake pins on. -/
def motorControlStop (m : Motor) : Motor :=
  { motorControlSetState .stop m with
    pins := (m.pins.write .setPwmLowBoth).write .setBrakeOnBoth }

/-- `MotorControl_Brake`: the same as a stop. -/
def motorControlBrake (m : Motor) : Motor :=
  { motorControlSetState .stop m with
    pins := (m.pins.write .setPwmLowBoth).write .setBrakeOnBoth }

/-- `MotorControl_Coast`: stopped with the brakes released. -/
def motorControlCoast (m : Motor) : Motor :=
  { motorControlSetState .stop m with
    pins := (m.pins.write .setPwmLowBoth).write .setBrakeOffBoth }

/-- `MotorControl_SetDutyPercent`. -/
def motorControlSetDutyPercent (dutyPercent : UInt32) (m : Motor) : Motor :=
  { m with
    dutyPercent := motorLimitDutyPercent dutyPercent
    leftDutyPercent := motorLimitDutyPercent dutyPercent
    rightDutyPercent := motorLimitDutyPercent dutyPercent }

/-- `MotorControl_SetWheelDutyPercent`: the general duty follows only when both wheels
    get the same one. -/
def motorControlSetWheelDutyPercent (leftDutyPercent rightDutyPercent : UInt32)
    (m : Motor) : Motor :=
  let left := motorLimitDutyPercent leftDutyPercent
  let right := motorLimitDutyPercent rightDutyPercent
  { m with
    leftDutyPercent := left
    rightDutyPercent := right
    dutyPercent := if left = right then left else m.dutyPercent }

/-- `MotorControl_Init`; the direction pins keep their level. -/
def motorControlInit (m : Motor) : Motor :=
  motorControlStop
    { m with
      motorState := .stop
      dutyPercent := motorLimitDutyPercent motorDefaultDutyPercent
      leftDutyPercent := motorLimitDutyPercent motorDefaultDutyPercent
      rightDutyPercent := motorLimitDutyPercent motorDefaultDutyPercent }

/-! ## One PWM cycle -/

/-- `MOTOR_PWM_PERIOD_US`. -/
def motorPwmPeriodUs : Nat := 1000

/-- `(MOTOR_PWM_PERIOD_US * duty) / 100U`; no overflow, the duty is limited. -/
def highTimeUs (duty : UInt32) : Nat :=
  motorPwmPeriodUs * (motorLimitDutyPercent duty).val.toNat / 100

/-- `if (us > 0U) act;`. -/
def ifPositive (us : Nat) (act : MotorAction) : List MotorAction :=
  if 0 < us then [act] else []

/-- `if (highTimeUs < MOTOR_PWM_PERIOD_US) delayUs(MOTOR_PWM_PERIOD_US - highTimeUs);`. -/
def restOfPeriod (highTimeUs : Nat) : List MotorAction :=
  if highTimeUs < motorPwmPeriodUs then [.delayUs (motorPwmPeriodUs - highTimeUs)] else []

/-- The waits of a cycle after the pins went high, by which channel stays high longer. -/
def channelWaits (highTimeAUs highTimeBUs : Nat) : List (List MotorAction) :=
  if highTimeAUs = highTimeBUs then
    [ifPositive highTimeAUs (.delayUs highTimeAUs), [.setPwmLowBoth],
     restOfPeriod highTimeAUs]
  else if highTimeAUs < highTimeBUs then
    [ifPositive highTimeAUs (.delayUs highTimeAUs), [.setPwmLowA],
     [.delayUs (highTimeBUs - highTimeAUs)], [.setPwmLowB], restOfPeriod highTimeBUs]
  else
    [ifPositive highTimeBUs (.delayUs highTimeBUs), [.setPwmLowB],
     [.delayUs (highTimeAUs - highTimeBUs)], [.setPwmLowA], restOfPeriod highTimeAUs]

/-- `Motor_SendPwmOneCycleChannels`. -/
def motorSendPwmOneCycleChannels (dutyA dutyB : UInt32) : List MotorAction :=
  let highTimeAUs := highTimeUs dutyA
  let highTimeBUs := highTimeUs dutyB
  .setPwmLowBoth ::
    (ifPositive highTimeAUs .setPwmHighA ++ ifPositive highTimeBUs .setPwmHighB ++
      (channelWaits highTimeAUs highTimeBUs).flatten)

/-- `Motor_SendPwmOneCycleWheels`: channel B is the left wheel
    (`MOTOR_LEFT_IS_CHANNEL_A` is 0). -/
def motorSendPwmOneCycleWheels (leftDutyPercent rightDutyPercent : UInt32) :
    List MotorAction :=
  motorSendPwmOneCycleChannels rightDutyPercent leftDutyPercent

/-- `MotorControl_Update`. -/
def motorControlUpdate (m : Motor) : List MotorAction :=
  match m.motorState with
  | .forward =>
      .setBrakeOffBoth :: .setDirectionForwardBoth ::
        motorSendPwmOneCycleWheels m.leftDutyPercent.val m.rightDutyPercent.val
  | .reverse =>
      .setBrakeOffBoth :: .setDirectionReverseBoth ::
        motorSendPwmOneCycleWheels m.leftDutyPercent.val m.rightDutyPercent.val
  | .stop => [.setPwmLowBoth, .setBrakeOnBoth, .delayUs motorPwmPeriodUs]

/-! ## What the setters leave alone -/

@[simp] theorem motorControlSetDutyPercent_motorState (d : UInt32) (m : Motor) :
    (motorControlSetDutyPercent d m).motorState = m.motorState := rfl

@[simp] theorem motorControlSetWheelDutyPercent_motorState (l r : UInt32) (m : Motor) :
    (motorControlSetWheelDutyPercent l r m).motorState = m.motorState := rfl

@[simp] theorem motorControlForward_motorState (m : Motor) :
    (motorControlForward m).motorState = .forward := rfl

@[simp] theorem motorControlReverse_motorState (m : Motor) :
    (motorControlReverse m).motorState = .reverse := rfl

@[simp] theorem motorControlStop_motorState (m : Motor) :
    (motorControlStop m).motorState = .stop := rfl

@[simp] theorem motorControlBrake_motorState (m : Motor) :
    (motorControlBrake m).motorState = .stop := rfl

@[simp] theorem motorControlCoast_motorState (m : Motor) :
    (motorControlCoast m).motorState = .stop := rfl

end ActMotor
