import RemoteVehicle.CanFrame
import RemoteVehicle.ActMotor
import RemoteVehicle.ActServo
import RemoteVehicle.ActSensors

/-!
# ACT firmware state — the static variables of all its modules

One record per source file and one for the whole ECU.  Fields carry the names of the
globals without the `g_` prefix.  Bytes that C casts to an enumeration without a check
(`(ActGearState)gearRaw` and its like) stay bytes.

The hardware enters through `ActInputs`, one record per call of the main loop: the levels
the encoder pin shows to successive polls, the conversion result that is ready, and
whether the transmit buffers are still busy.  What leaves the ECU is appended to `sent`,
each message with the number of the transmit buffer it was put into.
-/

namespace ActState

open CanFrame ActMotor ActServo ActSensors

/-! ## CAN command path -/

/-- The six raw bytes of a 0x100 command (`g_rxAccelRaw` to `g_rxSafetyOverrideRaw`). -/
structure ActCommand where
  accelRaw : UInt8
  steeringRaw : UInt8
  brakeRaw : UInt8
  gearRaw : UInt8
  controlModeRaw : UInt8
  safetyOverrideRaw : UInt8
deriving DecidableEq, Repr

/-- The static variables of `ActCan.c`. -/
structure ActCanState where
  rx : ActCommand
  rxUpdated : Bool
  rxCount : UInt32
  invalidCount : UInt32
  timeoutCount : UInt32
  currentAccelRaw : UInt8
  currentBrakeRaw : UInt8
  currentGearState : UInt8
  currentControlMode : UInt8
  currentSafetyOverride : UInt8
  cmdTimeoutTick100us : Nat
  safeStateEnteredByTimeout : Bool
deriving DecidableEq, Repr

/-! ## Diagnostics -/

/-- `UdsRoutineState`. -/
inductive UdsRoutineState where
  | none
  | motorTest
  | servoTest
deriving DecidableEq, Repr

/-- The static variables of `UdsDiag.c`; `g_routineResult` only feeds a debug value. -/
structure UdsDiag where
  diagSession : UInt8
  dtcC100Status : UInt8
  dtcC101Status : UInt8
  dtcEncoderNoSignalTimerMs : Nat
  dtcSteeringMismatchTimerMs : Nat
  dtcMonitorPeriodTimerMs : Nat
  dtcC100ConsecutiveFailCount : Nat
  dtcC101ConsecutiveFailCount : Nat
  routineState : UdsRoutineState
  routineTimerMs : Nat
  routineStep : Nat
  savedMotorDuty : DutyPercent
  reqPending : Bool
  reqData : Vector UInt8 8
  udsTxBufferIndex : Nat
deriving DecidableEq, Repr

/-! ## The ECU -/

/-- Everything the ACT main loop reads and writes. -/
structure Act where
  motor : Motor
  steering : Steering
  encoder : Encoder
  pot : PotAdc
  can : ActCanState
  uds : UdsDiag
  txBufferIndex : Nat
  canStatusTxTimerMs : Nat
  steeringUpdateTimerMs : Nat
  sent : List (Nat × CanMessage)
deriving DecidableEq, Repr

/-- What the hardware shows to one call: encoder level per poll, conversion result, and
    the outcome of each message the call may try to send. -/
structure ActInputs where
  encoderA : Nat → Bool
  potResult : Option (Fin 4096)
  responseTxBusy : Bool
  routineTxBusy : Bool
  statusTxBusy : Bool

/-- `IfxCan_Can_sendMessage`: a busy buffer takes nothing. -/
def sendMessage (busy : Bool) (buffer : Nat) (m : CanMessage) (s : Act) : Act :=
  if busy then s else { s with sent := s.sent ++ [(buffer, m)] }

end ActState
