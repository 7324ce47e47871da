import RemoteVehicle.ActUdsDiag

/-!
# ACT command reception — `ActCan.c`

The receive interrupt checks a frame and puts an accepted command into a mailbox;
`ActCan_Update100us` counts the time-out, enters the safe state when it has expired and
otherwise applies what is new in the mailbox.  The last section sends the status message
of `CanComm.c`.
-/

namespace ActCan

open CanFrame ActMotor ActServo ActSensors ActState ActUdsDiag

/-! ## Constants -/

/-- `ACT_CAN_CMD_ID`, `ACT_CAN_DLC_IFX`. -/
def actCanCmdId : Nat := 0x100
def actCanDlcIfx : Nat := 6

/-- `ACT_CAN_ACCEL_*`, `ACT_CAN_BRAKE_*`. -/
def actCanAccelOff : UInt8 := 0
def actCanBrakeOff : UInt8 := 0
def actCanBrakeOn : UInt8 := 1

/-- `ACT_CAN_STEERING_*`. -/
def actCanSteeringNull : UInt8 := 0
def actCanSteeringLeft : UInt8 := 1
def actCanSteeringRight : UInt8 := 2

/-- `ACT_CAN_GEAR_*`. -/
def actCanGearP : UInt8 := 0
def actCanGearR : UInt8 := 1
def actCanGearN : UInt8 := 2
def actCanGearD : UInt8 := 3

/-- `ACT_CAN_CONTROL_*`. -/
def actCanControlStandby : UInt8 := 0
def actCanControlRemoteDrive : UInt8 := 1
def actCanControlDiagnostic : UInt8 := 2

/-- `ACT_CAN_SAFETY_*`. -/
def actCanSafetyNormal : UInt8 := 0
def actCanSafetyForceStop : UInt8 := 1

/-- `ACT_CAN_CMD_TIMEOUT_100US_TICKS`. -/
def actCanCmdTimeout100usTicks : Nat := 2000

/-- `ACT_DRIVE_BASE_DUTY_PERCENT`, `ACT_TURN_INNER_DUTY_PERCENT`,
    `ACT_TURN_OUTER_DUTY_PERCENT`. -/
def actDriveBaseDutyPercent : UInt32 := 90
def actTurnInnerDutyPercent : UInt32 := 30
def actTurnOuterDutyPercent : UInt32 := 100

/-! ## Field checks -/

/-- `ActCan_IsValidBool`. -/
def actCanIsValidBool (value : UInt8) : Bool := value == 0 || value == 1

/-- `ActCan_IsValidSteering`. -/
def actCanIsValidSteering (value : UInt8) : Bool :=
  value == actCanSteeringNull || value == actCanSteeringLeft || value == actCanSteeringRight

/-- `ActCan_IsValidGear`. -/
def actCanIsValidGear (value : UInt8) : Bool :=
  value == actCanGearP || value == actCanGearR || value == actCanGearN || value == actCanGearD

/-- `ActCan_IsValidControlMode`. -/
def actCanIsValidControlMode (value : UInt8) : Bool :=
  value == actCanControlStandby || value == actCanControlRemoteDrive ||
    value == actCanControlDiagnostic

/-- `ActCan_IsValidSafetyOverride`. -/
def actCanIsValidSafetyOverride (value : UInt8) : Bool :=
  value == actCanSafetyNormal || value == actCanSafetyForceStop

/-- The six field checks of the receive interrupt. -/
def actCanIsValidCommand (c : ActCommand) : Bool :=
  actCanIsValidBool c.accelRaw && actCanIsValidSteering c.steeringRaw &&
    actCanIsValidBool c.brakeRaw && actCanIsValidGear c.gearRaw &&
    actCanIsValidControlMode c.controlModeRaw &&
    actCanIsValidSafetyOverride c.safetyOverrideRaw

/-- `ActCan_IsCanFdFrameMode`. -/
def actCanIsCanFdFrameMode (m : FrameMode) : Bool := m == .fdLong || m == .fdLongAndFast

/-! ## Applying a command -/

/-- `ActCan_ApplySteering`. -/
def actCanApplySteering (steeringRaw : UInt8) (s : Act) : Act :=
  if steeringRaw = actCanSteeringLeft then
    { s with
      steering := steeringSetKey .left s.steering
      motor := motorControlSetWheelDutyPercent actTurnInnerDutyPercent
        actTurnOuterDutyPercent s.motor }
  else if steeringRaw = actCanSteeringRight then
    { s with
      steering := steeringSetKey .right s.steering
      motor := motorControlSetWheelDutyPercent actTurnOuterDutyPercent
        actTurnInnerDutyPercent s.motor }
  else
    { s with
      steering := steeringSetKey .null s.steering
      motor := motorControlSetDutyPercent actDriveBaseDutyPercent s.motor }

/-- `ActCan_ApplyDrive`: brake before accelerator before gear. -/
def actCanApplyDrive (accelRaw brakeRaw gearRaw : UInt8) (s : Act) : Act :=
  let s := { s with can := { s.can with
    currentAccelRaw := accelRaw
    currentBrakeRaw := brakeRaw
    currentGearState := gearRaw } }
  if brakeRaw = actCanBrakeOn then { s with motor := motorControlBrake s.motor }
  else if accelRaw = actCanAccelOff then { s with motor := motorControlCoast s.motor }
  else if gearRaw = actCanGearD then { s with motor := motorControlForward s.motor }
  else if gearRaw = actCanGearR then { s with motor := motorControlReverse s.motor }
  else { s with motor := motorControlCoast s.motor }

/-- `ActCan_EnterSafeState`. -/
def actCanEnterSafeState (s : Act) : Act :=
  { s with
    can := { s.can with
      currentAccelRaw := actCanAccelOff
      currentBrakeRaw := actCanBrakeOn
      currentGearState := actCanGearP
      currentControlMode := actCanControlStandby
      currentSafetyOverride := actCanSafetyForceStop }
    motor := motorControlSetDutyPercent actDriveBaseDutyPercent (motorControlBrake s.motor)
    steering := steeringCenter s.steering }

/-- `ActCan_EnterModeInhibitState`. -/
def actCanEnterModeInhibitState (controlModeRaw : UInt8) (s : Act) : Act :=
  { s with
    can := { s.can with
      currentAccelRaw := actCanAccelOff
      currentBrakeRaw := actCanBrakeOff
      currentGearState := actCanGearP
      currentControlMode := controlModeRaw
      currentSafetyOverride := actCanSafetyNormal }
    motor := motorControlSetDutyPercent actDriveBaseDutyPercent (motorControlBrake s.motor)
    steering := steeringCenter s.steering }

/-! ## Receive interrupt -/

/-- The command bytes of a frame. -/
def commandOfBytes (b : Vector UInt8 8) : ActCommand where
  accelRaw := byteAt b 0
  steeringRaw := byteAt b 1
  brakeRaw := byteAt b 2
  gearRaw := byteAt b 3
  controlModeRaw := byteAt b 4
  safetyOverrideRaw := byteAt b 5

/-- A frame that fails a check is counted and dropped. -/
def countInvalid (s : Act) : Act :=
  { s with can := { s.can with invalidCount := s.can.invalidCount + 1 } }

/-- A valid command: restart the time-out and fill the mailbox. -/
def storeCommand (c : ActCommand) (s : Act) : Act :=
  { s with can := { s.can with
      cmdTimeoutTick100us := 0
      safeStateEnteredByTimeout := false
      rx := c
      rxUpdated := true
      rxCount := s.can.rxCount + 1 } }

/-- `ActCan_RxIsrHandler`. -/
def actCanRxIsrHandler (m : CanMessage) (s : Act) : Act :=
  let b := rxByte m
  if m.messageId = udsDiagReqCanId then
    if actCanIsCanFdFrameMode m.frameMode = true ∧ m.dataLengthCode = 8 then
      { s with uds := udsDiagOnCanRequest b s.uds }
    else countInvalid s
  else if m.messageId ≠ actCanCmdId ∨ actCanIsCanFdFrameMode m.frameMode = false ∨
      m.dataLengthCode ≠ actCanDlcIfx then
    countInvalid s
  else if actCanIsValidCommand (commandOfBytes b) then storeCommand (commandOfBytes b) s
  else countInvalid s

/-! ## The 100 us update -/

/-- Count the time-out, saturating. -/
def countTimeout (s : Act) : Act :=
  if s.can.cmdTimeoutTick100us < actCanCmdTimeout100usTicks then
    { s with can := { s.can with cmdTimeoutTick100us := s.can.cmdTimeoutTick100us + 1 } }
  else s

/-- The first expired update after a command is counted as a time-out. -/
def latchTimeout (s : Act) : Act :=
  if s.can.safeStateEnteredByTimeout = false then
    { s with can := { s.can with
        timeoutCount := s.can.timeoutCount + 1
        safeStateEnteredByTimeout := true } }
  else s

/-- What `ActCan_Update100us` does with the six bytes it has copied. -/
def applyCommand (c : ActCommand) (s : Act) : Act :=
  let s := { s with can := { s.can with
    currentControlMode := c.controlModeRaw
    currentSafetyOverride := c.safetyOverrideRaw } }
  if c.safetyOverrideRaw = actCanSafetyForceStop then actCanEnterSafeState s
  else if c.controlModeRaw ≠ actCanControlRemoteDrive then
    actCanEnterModeInhibitState c.controlModeRaw s
  else actCanApplyDrive c.accelRaw c.brakeRaw c.gearRaw (actCanApplySteering c.steeringRaw s)

/-- `ActCan_Update100us`. -/
def actCanUpdate100us (s : Act) : Act :=
  let s := countTimeout s
  if actCanCmdTimeout100usTicks ≤ s.can.cmdTimeoutTick100us then
    actCanEnterSafeState (latchTimeout s)
  else if s.can.rxUpdated then
    let c := s.can.rx
    applyCommand c { s with can := { s.can with rxUpdated := false } }
  else s

/-! ## Initialisation -/

/-- The globals after `ActCan_Init`; they do not depend on the state before. -/
def actCanInitCan : ActCanState where
  rx := ⟨actCanAccelOff, actCanSteeringNull, actCanBrakeOff, actCanGearP,
    actCanControlStandby, actCanSafetyNormal⟩
  rxUpdated := false
  rxCount := 0
  invalidCount := 0
  timeoutCount := 0
  currentAccelRaw := actCanAccelOff
  currentBrakeRaw := actCanBrakeOff
  currentGearState := actCanGearP
  currentControlMode := actCanControlStandby
  currentSafetyOverride := actCanSafetyNormal
  cmdTimeoutTick100us := actCanCmdTimeout100usTicks
  safeStateEnteredByTimeout := false

/-- `ActCan_Init`. -/
def actCanInit (s : Act) : Act :=
  { s with
    can := actCanInitCan
    motor := motorControlCoast (motorControlSetDutyPercent actDriveBaseDutyPercent s.motor)
    steering := steeringCenter s.steering }

/-! ## Status message — `CanComm.c` -/

/-- `ACT_STATUS_CAN_ID`, `ACT_STATUS_CAN_DLC_IFX`, `CAN_TX_BUFFER_COUNT`. -/
def actStatusCanId : Nat := 0x200
def actStatusCanDlcIfx : Nat := 5
def canTxBufferCount : Nat := 2

/-- `CanComm_LimitGearState`. -/
def canCommLimitGearState (gearState : UInt8) : UInt8 :=
  if gearState = 0 ∨ gearState = 1 ∨ gearState = 2 ∨ gearState = 3 then gearState else 0

/-- `CanComm_LimitSteeringState`; 1 is the centre. -/
def canCommLimitSteeringState (steeringState : UInt8) : UInt8 :=
  if steeringState = 0 ∨ steeringState = 1 ∨ steeringState = 2 then steeringState else 1

/-- `CanComm_SendActStatus`. -/
def canCommSendActStatus (busy : Bool) (speedKmhX100 : Nat)
    (gearState steeringState steeringAngleDeg : UInt8) (s : Act) : Act :=
  let speed16 := if 65535 < speedKmhX100 then 65535 else speedKmhX100
  let txByte := [UInt8.ofNat speed16, UInt8.ofNat (speed16 / 256),
    canCommLimitGearState gearState, canCommLimitSteeringState steeringState,
    steeringAngleDeg]
  if busy then s
  else
    let s := sendMessage false s.txBufferIndex
      (fdMessage actStatusCanId actStatusCanDlcIfx txByte) s
    { s with txBufferIndex :=
        if canTxBufferCount ≤ s.txBufferIndex + 1 then 0 else s.txBufferIndex + 1 }

/-- `STEERING_CENTER_LOW_DEG`, `STEERING_CENTER_HIGH_DEG`. -/
def steeringCenterLowDeg : UInt8 := 80
def steeringCenterHighDeg : UInt8 := 100

/-- `App_GetCurrentSteeringStateForCan`. -/
def appGetCurrentSteeringStateForCan (steeringAngleDeg : UInt8) : UInt8 :=
  if steeringAngleDeg < steeringCenterLowDeg then 0
  else if steeringCenterHighDeg < steeringAngleDeg then 2
  else 1

/-- `App_ConvertPulsePerSecondToKmhX100`. -/
def appConvertPulsePerSecondToKmhX100 (pulsePerSecond : UInt32) : Nat :=
  clampRound (speedKmh pulsePerSecond * 100)

/-- `CAN_STATUS_TX_PERIOD_MS`. -/
def canStatusTxPeriodMs : Nat := 50

/-- `App_SendStatusIfNeeded`. -/
def appSendStatusIfNeeded (busy : Bool) (s : Act) : Act :=
  let timer := s.canStatusTxTimerMs + 1
  if timer < canStatusTxPeriodMs then { s with canStatusTxTimerMs := timer }
  else
    canCommSendActStatus busy (appConvertPulsePerSecondToKmhX100 s.encoder.pulsePerSecond)
      s.can.currentGearState (appGetCurrentSteeringStateForCan s.pot.potAngleDeg)
      s.pot.potAngleDeg { s with canStatusTxTimerMs := 0 }

end ActCan
