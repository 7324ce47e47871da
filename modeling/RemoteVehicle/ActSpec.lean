import RemoteVehicle.ActLoop
import RemoteVehicle.HeldCommand

/-!
# ACT specification — what the actuator ECU is for

The abstract view of ACT: commands are accepted from the bus, time advances in 100 us
ticks, and the outputs are a function of the last accepted command and its age.

* `accepted` is the command a frame carries if it passes every check of the receive
  interrupt, `none` otherwise.
* `ActOutput` is what the outside sees: motor state, wheel duties, steering key and the
  three reported values.
* `actDecode` is the meaning of a command: a forced stop before a mode inhibit before
  brake, accelerator and gear.

`HeldCommand.Held` with limit 2000 is then the whole specification.
-/

namespace ActSpec

open CanFrame ActMotor ActServo ActState ActUdsDiag ActCan ActLoop HeldCommand

/-! ## Accepted commands -/

/-- The command a frame delivers: identifier 0x100, CAN FD, six bytes, all valid. -/
def accepted (m : CanMessage) : Option ActCommand :=
  if m.messageId = actCanCmdId ∧ actCanIsCanFdFrameMode m.frameMode = true ∧
      m.dataLengthCode = actCanDlcIfx ∧
      actCanIsValidCommand (commandOfBytes (rxByte m)) = true then
    some (commandOfBytes (rxByte m))
  else none

/-- A well-formed diagnostic request: identifier 0x700, CAN FD, eight bytes. -/
def IsDiagRequest (m : CanMessage) : Prop :=
  m.messageId = udsDiagReqCanId ∧ actCanIsCanFdFrameMode m.frameMode = true ∧
    m.dataLengthCode = 8

instance (m : CanMessage) : Decidable (IsDiagRequest m) := by
  unfold IsDiagRequest; infer_instance

/-- Sample traffic.  Accelerate in gear D, steering left, remote drive. -/
def driveLeftFrame : CanMessage := fdMessage actCanCmdId actCanDlcIfx [1, 1, 0, 3, 1, 0]

/-- The same with the brake on. -/
def brakeFrame : CanMessage := fdMessage actCanCmdId actCanDlcIfx [1, 1, 1, 3, 1, 0]

/-- The same with a forced stop. -/
def forceStopFrame : CanMessage := fdMessage actCanCmdId actCanDlcIfx [1, 1, 0, 3, 1, 1]

/-- The drive command in a classic CAN frame. -/
def classicFrame : CanMessage := { driveLeftFrame with frameMode := .standard }

/-- Request for the extended session. -/
def sessionFrame : CanMessage := fdMessage udsDiagReqCanId 8 [0x02, 0x10, 0x03]

/-- Request to start the motor test. -/
def motorTestFrame : CanMessage :=
  fdMessage udsDiagReqCanId 8 [0x04, 0x31, 0x01, 0x01, 0x00]

/-! ## Outputs -/

/-- The observable outputs of ACT. -/
structure ActOutput where
  motorState : MotorState
  leftDutyPercent : DutyPercent
  rightDutyPercent : DutyPercent
  steeringKey : SteeringKey
  gearState : UInt8
  controlMode : UInt8
  safetyOverride : UInt8
deriving DecidableEq, Repr

/-- The outputs of a state. -/
def actOutput (s : Act) : ActOutput where
  motorState := s.motor.motorState
  leftDutyPercent := s.motor.leftDutyPercent
  rightDutyPercent := s.motor.rightDutyPercent
  steeringKey := s.steering.steeringKey
  gearState := s.can.currentGearState
  controlMode := s.can.currentControlMode
  safetyOverride := s.can.currentSafetyOverride

/-- A duty literal of the source. -/
def duty (d : UInt32) : DutyPercent := motorLimitDutyPercent d

/-- The safe state: stopped, centred, standby, forced stop. -/
def actSafe : ActOutput where
  motorState := .stop
  leftDutyPercent := duty 90
  rightDutyPercent := duty 90
  steeringKey := .null
  gearState := actCanGearP
  controlMode := actCanControlStandby
  safetyOverride := actCanSafetyForceStop

/-- The inhibit state of a mode: stopped and centred, reporting that mode. -/
def actInhibit (controlMode : UInt8) : ActOutput where
  motorState := .stop
  leftDutyPercent := duty 90
  rightDutyPercent := duty 90
  steeringKey := .null
  gearState := actCanGearP
  controlMode := controlMode
  safetyOverride := actCanSafetyNormal

/-- Brake beats accelerator-off beats gear. -/
def driveState (c : ActCommand) : MotorState :=
  if c.brakeRaw = actCanBrakeOn then .stop
  else if c.accelRaw = actCanAccelOff then .stop
  else if c.gearRaw = actCanGearD then .forward
  else if c.gearRaw = actCanGearR then .reverse
  else .stop

/-- Steering selects the key and the duty of the left and right wheel. -/
def steerState (c : ActCommand) : SteeringKey × DutyPercent × DutyPercent :=
  if c.steeringRaw = actCanSteeringLeft then (.left, duty 30, duty 100)
  else if c.steeringRaw = actCanSteeringRight then (.right, duty 100, duty 30)
  else (.null, duty 90, duty 90)

/-- The meaning of a command in remote drive. -/
def actDrive (c : ActCommand) : ActOutput where
  motorState := driveState c
  leftDutyPercent := (steerState c).2.1
  rightDutyPercent := (steerState c).2.2
  steeringKey := (steerState c).1
  gearState := c.gearRaw
  controlMode := c.controlModeRaw
  safetyOverride := c.safetyOverrideRaw

/-- **The meaning of a command.** -/
def actDecode (c : ActCommand) : ActOutput :=
  if c.safetyOverrideRaw = actCanSafetyForceStop then actSafe
  else if c.controlModeRaw ≠ actCanControlRemoteDrive then actInhibit c.controlModeRaw
  else actDrive c

/-- The command orders the motor to turn. -/
def Drives (c : ActCommand) : Prop := (actDecode c).motorState ≠ .stop

instance (c : ActCommand) : Decidable (Drives c) := by unfold Drives; infer_instance

/-- The specified outputs for what is held. -/
def actSpecOutput (h : Held ActCommand) : ActOutput :=
  h.output actCanCmdTimeout100usTicks actSafe actDecode

/-! ## Free interleavings

Frames and calls of the main loop in any order, not only in the order of the loop. -/

/-- A received frame, or a call of the main loop. -/
inductive ControlEvent where
  | rxIsr (m : CanMessage)
  | call (inp : ActInputs) (c : LoopCall)

def controlStep (s : Act) : ControlEvent → Act
  | .rxIsr m => actCanRxIsrHandler m s
  | .call inp c => loopCall inp c s

/-- What an event is for the specification: an accepted frame is an acceptance, a call of
    `ActCan_Update100us` is a tick, and nothing else matters. -/
def controlOps : ControlEvent → List (Op ActCommand)
  | .rxIsr m => (accepted m).toList.map .accept
  | .call _ .canUpdate100us => [.tick]
  | .call _ _ => []

/-- The command held after a list of events. -/
def heldAfter (es : List ControlEvent) : Held ActCommand :=
  Runs.run Held.step Held.empty (es.flatMap controlOps)

/-- The event leaves no diagnostic routine running. -/
def NoRoutine (s : Act) (e : ControlEvent) : Prop :=
  (controlStep s e).uds.routineState = .none

/-! ## The latch inside ACT -/

/-- Time-out counter, updated flag, mailbox and outputs form a latch. -/
def actLatch (s : Act) : Latch ActCommand ActOutput where
  counter := s.can.cmdTimeoutTick100us
  fresh := s.can.rxUpdated
  box := s.can.rx
  out := actOutput s

end ActSpec
