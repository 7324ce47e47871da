import RemoteVehicle.ActMotor
import RemoteVehicle.ActServo
import RemoteVehicle.ActSensors
import RemoteVehicle.Waveform

/-!
# ACT waveforms — the waits of `Motor.c` and `Servo.c`

The programs that drive the pins of ACT, with every wait cut into the poll steps that `delayUs`
makes of it.  Waits are taken to be exact, and the statements between them to take no time.

The duties come from the setters, called in any order with any 32-bit values; `Requested`
remembers what they were called with.
-/

namespace ActWaveform

open ActMotor ActServo ActSensors Waveform

/-! ## Waits -/

/-- `delayUs`, the same in both files: the waits before the encoder polls. -/
def delayUs (us : Nat) : List Nat :=
  if encoderPollStepUs ≤ us then encoderPollStepUs :: delayUs (us - encoderPollStepUs)
  else if 0 < us then [us]
  else []
termination_by us
decreasing_by
  have hstep : encoderPollStepUs = 50 := rfl
  omega

/-- An action of `Motor.c` with its waits. -/
def sliced : MotorAction → List MotorAction
  | .delayUs us => (delayUs us).map .delayUs
  | a => [a]

/-- A program of `Motor.c` with its waits. -/
def slices (as : List MotorAction) : List MotorAction := as.flatMap sliced

/-- The pins of the motor shield, and the waits. -/
def motorDriver : Driver MotorPins MotorAction where
  write := MotorPins.write
  wait := fun
    | .delayUs us => us
    | _ => 0

/-! ## Setters -/

/-- The calls that set what `MotorControl_Update` puts on the pins. -/
inductive MotorSetter where
  | init
  | setState (state : MotorState)
  | forward
  | reverse
  | stop
  | brake
  | coast
  | setDutyPercent (dutyPercent : UInt32)
  | setWheelDutyPercent (leftDutyPercent rightDutyPercent : UInt32)
deriving DecidableEq, Repr

def applySetter (m : Motor) : MotorSetter → Motor
  | .init => motorControlInit m
  | .setState state => motorControlSetState state m
  | .forward => motorControlForward m
  | .reverse => motorControlReverse m
  | .stop => motorControlStop m
  | .brake => motorControlBrake m
  | .coast => motorControlCoast m
  | .setDutyPercent d => motorControlSetDutyPercent d m
  | .setWheelDutyPercent l r => motorControlSetWheelDutyPercent l r m

/-- The duties asked for last. -/
structure Requested where
  left : UInt32
  right : UInt32
deriving DecidableEq, Repr

def request (q : Requested) : MotorSetter → Requested
  | .init => ⟨motorDefaultDutyPercent, motorDefaultDutyPercent⟩
  | .setDutyPercent d => ⟨d, d⟩
  | .setWheelDutyPercent l r => ⟨l, r⟩
  | _ => q

/-! ## Servo pulse -/

/-- What a servo pulse does. -/
inductive ServoAction where
  | setPinHigh
  | setPinLow
  | delayUs (us : Nat)
  | motor (a : MotorAction)
  | encoderUpdate1ms
deriving DecidableEq, Repr

/-- The servo pin beside those of the motor shield. -/
structure ActPins where
  servo : Bool
  motor : MotorPins
deriving DecidableEq, Repr

def servoDriver : Driver ActPins ServoAction where
  write p
    | .setPinHigh => { p with servo := true }
    | .setPinLow => { p with servo := false }
    | .motor a => { p with motor := p.motor.write a }
    | .delayUs _ => p
    | .encoderUpdate1ms => p
  wait
    | .delayUs us => us
    | .motor a => motorDriver.wait a
    | _ => 0

/-- `delayUs` of the servo driver. -/
def servoDelay (us : Nat) : List ServoAction := (delayUs us).map .delayUs

/-- One turn of the loop of `delayLowUsWithMotorUpdate`. -/
def lowMillisecond (m : Motor) : List ServoAction :=
  (slices (motorControlUpdate m)).map .motor ++ [.encoderUpdate1ms]

/-- `delayLowUsWithMotorUpdate`; the updates change pins only, not the motor they drive. -/
def delayLowUsWithMotorUpdate (m : Motor) (us : Nat) : List ServoAction :=
  if 1000 ≤ us then lowMillisecond m ++ delayLowUsWithMotorUpdate m (us - 1000)
  else if 0 < us then servoDelay us
  else []
termination_by us

/-- `Servo_SendOnePulse`. -/
def servoSendOnePulse (m : Motor) (highTimeUs : UInt32) : List ServoAction :=
  let high := servoLimitPulseUs highTimeUs.toNat
  .setPinHigh :: servoDelay high.val ++
    .setPinLow :: delayLowUsWithMotorUpdate m (servoLowTimeUs high)

end ActWaveform
