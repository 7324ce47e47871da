import RemoteVehicle.ActState

/-!
# ACT diagnostics — `UdsDiag.c`

Requests are stored by the receive interrupt and served from the main loop, one per
`UdsDiag_Update1ms`.  A routine, once started, is a state machine that the same call
advances by one millisecond; it writes the motor and the steering key after the CAN
command path has written them.
-/

namespace ActUdsDiag

open CanFrame ActMotor ActServo ActSensors ActState

/-! ## Constants -/

/-- `SID_*`. -/
def sidDiagnosticSessionControl : UInt8 := 0x10
def sidReadDataByIdentifier : UInt8 := 0x22
def sidReadDtcInformation : UInt8 := 0x19
def sidClearDiagnosticInformation : UInt8 := 0x14
def sidRoutineControl : UInt8 := 0x31
def sidNegativeResponse : UInt8 := 0x7F
def posRespOffset : UInt8 := 0x40

/-- `NRC_*`. -/
def nrcServiceNotSupported : UInt8 := 0x11
def nrcSubfunctionNotSupported : UInt8 := 0x12
def nrcIncorrectMessageLength : UInt8 := 0x13
def nrcBusyRepeatRequest : UInt8 := 0x21
def nrcConditionsNotCorrect : UInt8 := 0x22
def nrcRequestOutOfRange : UInt8 := 0x31

/-- `SESSION_DEFAULT`, `SESSION_EXTENDED`. -/
def sessionDefault : UInt8 := 0x01
def sessionExtended : UInt8 := 0x03

/-- `DTC_STATUS_CURRENT_BIT`, `DTC_STATUS_HISTORY_BIT` and the mask of both. -/
def dtcStatusCurrentBit : UInt8 := 0x01
def dtcStatusHistoryBit : UInt8 := 0x08
def dtcStatusAvailabilityMask : UInt8 := dtcStatusCurrentBit ||| dtcStatusHistoryBit

def dtcReportSubfunction : UInt8 := 0x0A
def dtcEncoderNoSignal : Nat := 0xC10000
def dtcSteeringMismatch : Nat := 0xC10100

def dtcMonitorPeriodMs : Nat := 3000
def dtcConfirmFailCount : Nat := 3
def dtcEncoderNoSignalMs : Nat := 2000
def dtcSteeringMismatchMs : Nat := 1000

def routineMotorTest : Nat := 0x0100
def routineServoTest : Nat := 0x0101
def routineResultOk : UInt8 := 0x00

/-- `UDS_DIAG_REQ_CAN_ID`, `UDS_DIAG_RES_CAN_ID`. -/
def udsDiagReqCanId : Nat := 0x700
def udsDiagResCanId : Nat := 0x708

/-- `UDS_TX_BUFFER_0`, `UDS_TX_BUFFER_1`. -/
def udsTxBuffer0 : Nat := 2
def udsTxBuffer1 : Nat := 3

def udsSingleFrameMaxPayload : Nat := 11

/-! ## Measured values -/

/-- Wheel speed in km/h for a pulse rate, read as exact arithmetic: 990 pulses a turn, a
    wheel of 0.065 m. -/
def speedKmh (pulsePerSecond : UInt32) : ℚ :=
  (pulsePerSecond.toNat : ℚ) / 990 * (31415926 / 10000000 * (65 / 1000)) * (36 / 10)

/-- Clamp to `0..65535` and round half up, as both speed conversions do. -/
def clampRound (x : ℚ) : Nat :=
  let x := if x < 0 then 0 else x
  let x := if 65535 < x then 65535 else x
  (x + 1 / 2).floor.toNat

/-- `UdsDiag_GetSpeedKmhX100`. -/
def udsDiagGetSpeedKmhX100 (e : Encoder) : Nat :=
  clampRound (speedKmh e.pulsePerSecond * 100 * 100)

/-- `UdsDiag_GetSteeringAngleDeg`. -/
def udsDiagGetSteeringAngleDeg (p : PotAdc) : Int :=
  let angle := if p.potSignedAngleDeg < -45 then -45 else p.potSignedAngleDeg
  if 45 < angle then 45 else angle

/-- `UdsDiag_GetCommandTargetAngleDeg`. -/
def udsDiagGetCommandTargetAngleDeg (s : Steering) : Int :=
  match s.steeringKey with
  | .left => -35
  | .right => 35
  | .null => 0

/-! ## Responses -/

/-- `UdsDiag_SendSingleFrame`; the buffers alternate only when a message went out. -/
def udsDiagSendSingleFrame (busy : Bool) (udsPayload : List UInt8) (s : Act) : Act :=
  let udsLen := udsPayload.length
  if udsLen = 0 ∨ udsSingleFrameMaxPayload < udsLen then s
  else if busy then s
  else
    let dlc := if udsLen ≤ 7 then 8 else ifxCanDataLengthCode12
    let txByte := (UInt8.ofNat udsLen &&& 0x0F) :: udsPayload
    let s := sendMessage false s.uds.udsTxBufferIndex (fdMessage udsDiagResCanId dlc txByte) s
    { s with uds := { s.uds with
        udsTxBufferIndex :=
          if s.uds.udsTxBufferIndex = udsTxBuffer0 then udsTxBuffer1 else udsTxBuffer0 } }

/-- `UdsDiag_SendNegativeResponse`. -/
def udsDiagSendNegativeResponse (busy : Bool) (sid nrc : UInt8) (s : Act) : Act :=
  udsDiagSendSingleFrame busy [sidNegativeResponse, sid, nrc] s

/-! ## Service handlers

`uds` is the request without its length byte, so `uds.length` is the `len` argument. -/

/-- `UdsDiag_HandleSessionControl`. -/
def udsDiagHandleSessionControl (busy : Bool) (uds : List UInt8) (s : Act) : Act :=
  if uds.length ≠ 2 then
    udsDiagSendNegativeResponse busy sidDiagnosticSessionControl nrcIncorrectMessageLength s
  else
    let sub := uds.getD 1 0 &&& 0x7F
    if sub ≠ sessionDefault ∧ sub ≠ sessionExtended then
      udsDiagSendNegativeResponse busy sidDiagnosticSessionControl
        nrcSubfunctionNotSupported s
    else
      udsDiagSendSingleFrame busy
        [sidDiagnosticSessionControl + posRespOffset, sub, 0x27, 0x10, 0x03, 0xE8]
        { s with uds := { s.uds with diagSession := sub } }

/-- The two bytes after the first, high byte first. -/
def word16 (hi lo : UInt8) : Nat := hi.toNat * 256 + lo.toNat

/-- `UdsDiag_HandleReadDID`. -/
def udsDiagHandleReadDID (busy : Bool) (uds : List UInt8) (s : Act) : Act :=
  if uds.length ≠ 3 then
    udsDiagSendNegativeResponse busy sidReadDataByIdentifier nrcIncorrectMessageLength s
  else
    let did := word16 (uds.getD 1 0) (uds.getD 2 0)
    if did = 0xF190 then
      -- "ACT1"
      udsDiagSendSingleFrame busy
        [sidReadDataByIdentifier + posRespOffset, 0xF1, 0x90, 0x41, 0x43, 0x54, 0x31] s
    else if did = 0x0100 then
      let speed := udsDiagGetSpeedKmhX100 s.encoder
      udsDiagSendSingleFrame busy
        [sidReadDataByIdentifier + posRespOffset, 0x01, 0x00,
          UInt8.ofNat (speed / 256), UInt8.ofNat speed] s
    else if did = 0x0101 then
      let angleRaw := (udsDiagGetSteeringAngleDeg s.pot % 65536).toNat
      udsDiagSendSingleFrame busy
        [sidReadDataByIdentifier + posRespOffset, 0x01, 0x01,
          UInt8.ofNat (angleRaw / 256), UInt8.ofNat angleRaw] s
    else
      udsDiagSendNegativeResponse busy sidReadDataByIdentifier nrcRequestOutOfRange s

/-- `UdsDiag_AppendDtc`. -/
def udsDiagAppendDtc (payload : List UInt8) (dtc : Nat) (status : UInt8) : List UInt8 :=
  payload ++ [UInt8.ofNat (dtc / 65536), UInt8.ofNat (dtc / 256), UInt8.ofNat dtc, status]

/-- `UdsDiag_HandleReadDTC`. -/
def udsDiagHandleReadDTC (busy : Bool) (uds : List UInt8) (s : Act) : Act :=
  if uds.length ≠ 2 then
    udsDiagSendNegativeResponse busy sidReadDtcInformation nrcIncorrectMessageLength s
  else if uds.getD 1 0 ≠ dtcReportSubfunction then
    udsDiagSendNegativeResponse busy sidReadDtcInformation nrcSubfunctionNotSupported s
  else
    let payload :=
      [sidReadDtcInformation + posRespOffset, dtcReportSubfunction, dtcStatusAvailabilityMask]
    let payload := udsDiagAppendDtc payload dtcEncoderNoSignal s.uds.dtcC100Status
    let payload := udsDiagAppendDtc payload dtcSteeringMismatch s.uds.dtcC101Status
    udsDiagSendSingleFrame busy payload s

/-- `UdsDiag_HandleClearDTC`. -/
def udsDiagHandleClearDTC (busy : Bool) (uds : List UInt8) (s : Act) : Act :=
  if uds.length ≠ 4 then
    udsDiagSendNegativeResponse busy sidClearDiagnosticInformation
      nrcIncorrectMessageLength s
  else if uds.getD 1 0 ≠ 0xFF ∨ uds.getD 2 0 ≠ 0xFF ∨ uds.getD 3 0 ≠ 0xFF then
    udsDiagSendNegativeResponse busy sidClearDiagnosticInformation nrcRequestOutOfRange s
  else
    udsDiagSendSingleFrame busy [sidClearDiagnosticInformation + posRespOffset]
      { s with uds := { s.uds with
          dtcC100Status := s.uds.dtcC100Status &&& ~~~ dtcStatusHistoryBit
          dtcC101Status := s.uds.dtcC101Status &&& ~~~ dtcStatusHistoryBit
          dtcC100ConsecutiveFailCount := 0
          dtcC101ConsecutiveFailCount := 0 } }

/-! ## Routines -/

/-- `UdsDiag_StartMotorRoutine`. -/
def udsDiagStartMotorRoutine (s : Act) : Act :=
  { s with
    uds := { s.uds with
      routineState := .motorTest
      routineTimerMs := 0
      routineStep := 0
      savedMotorDuty := s.motor.dutyPercent }
    encoder := encoderResetCount s.encoder
    motor := motorControlSetDutyPercent 30 s.motor }

/-- `UdsDiag_StartServoRoutine`. -/
def udsDiagStartServoRoutine (s : Act) : Act :=
  { s with
    uds := { s.uds with
      routineState := .servoTest
      routineTimerMs := 0
      routineStep := 0 }
    steering := steeringSetKey .left s.steering }

/-- `UdsDiag_HandleRoutineControl`: a routine starts only in the extended session and
    while no other routine runs. -/
def udsDiagHandleRoutineControl (busy : Bool) (uds : List UInt8) (s : Act) : Act :=
  if uds.length ≠ 4 then
    udsDiagSendNegativeResponse busy sidRoutineControl nrcIncorrectMessageLength s
  else if uds.getD 1 0 ≠ 0x01 then
    udsDiagSendNegativeResponse busy sidRoutineControl nrcSubfunctionNotSupported s
  else if s.uds.diagSession ≠ sessionExtended then
    udsDiagSendNegativeResponse busy sidRoutineControl nrcConditionsNotCorrect s
  else if s.uds.routineState ≠ .none then
    udsDiagSendNegativeResponse busy sidRoutineControl nrcBusyRepeatRequest s
  else
    let rid := word16 (uds.getD 2 0) (uds.getD 3 0)
    if rid = routineMotorTest then udsDiagStartMotorRoutine s
    else if rid = routineServoTest then udsDiagStartServoRoutine s
    else udsDiagSendNegativeResponse busy sidRoutineControl nrcRequestOutOfRange s

/-- `UdsDiag_SendRoutineResult`. -/
def udsDiagSendRoutineResult (busy : Bool) (rid : Nat) (result : UInt8) (s : Act) : Act :=
  udsDiagSendSingleFrame busy
    [sidRoutineControl + posRespOffset, 0x01, UInt8.ofNat (rid / 256), UInt8.ofNat rid,
      result] s

/-- The routine is over. -/
def udsDiagEndRoutine (s : Act) : Act :=
  { s with uds := { s.uds with routineState := .none, routineTimerMs := 0, routineStep := 0 } }

/-- `UdsDiag_UpdateMotorRoutine1ms`: forward at 30 percent for one second. -/
def udsDiagUpdateMotorRoutine1ms (busy : Bool) (s : Act) : Act :=
  let s := { s with uds := { s.uds with routineTimerMs := s.uds.routineTimerMs + 1 } }
  let s := { s with motor := motorControlForward (motorControlSetDutyPercent 30 s.motor) }
  if 1000 ≤ s.uds.routineTimerMs then
    let s := { s with
      motor := motorControlSetDutyPercent s.uds.savedMotorDuty.val (motorControlStop s.motor) }
    udsDiagEndRoutine (udsDiagSendRoutineResult busy routineMotorTest routineResultOk s)
  else s

/-- The key a step of the servo routine holds. -/
def servoRoutineKey (routineStep : Nat) : SteeringKey :=
  if routineStep = 0 then .left else if routineStep = 1 then .null else .right

/-- `UdsDiag_UpdateServoRoutine1ms`: left, centre and right for 800 ms each. -/
def udsDiagUpdateServoRoutine1ms (busy : Bool) (s : Act) : Act :=
  let s := { s with uds := { s.uds with routineTimerMs := s.uds.routineTimerMs + 1 } }
  let s := { s with steering := steeringSetKey (servoRoutineKey s.uds.routineStep) s.steering }
  if s.uds.routineTimerMs < 800 then s
  else
    let s := { s with uds := { s.uds with
      routineTimerMs := 0, routineStep := s.uds.routineStep + 1 } }
    if 3 ≤ s.uds.routineStep then
      let s := { s with steering := steeringSetKey .null s.steering }
      udsDiagEndRoutine (udsDiagSendRoutineResult busy routineServoTest routineResultOk s)
    else s

/-- `UdsDiag_UpdateRoutine1ms`. -/
def udsDiagUpdateRoutine1ms (busy : Bool) (s : Act) : Act :=
  match s.uds.routineState with
  | .motorTest => udsDiagUpdateMotorRoutine1ms busy s
  | .servoTest => udsDiagUpdateServoRoutine1ms busy s
  | .none => s

/-! ## Request parser -/

/-- `UdsDiag_ProcessRequest`: single frames of one to seven bytes only. -/
def udsDiagProcessRequest (busy : Bool) (data : Vector UInt8 8) (s : Act) : Act :=
  if byteAt data 0 &&& 0xF0 ≠ 0 then s
  else
    let len := (byteAt data 0 &&& 0x0F).toNat
    if len = 0 ∨ 7 < len then s
    else
      let uds := (data.toList.drop 1).take len
      let sid := uds.getD 0 0
      if sid = sidDiagnosticSessionControl then udsDiagHandleSessionControl busy uds s
      else if sid = sidReadDataByIdentifier then udsDiagHandleReadDID busy uds s
      else if sid = sidReadDtcInformation then udsDiagHandleReadDTC busy uds s
      else if sid = sidClearDiagnosticInformation then udsDiagHandleClearDTC busy uds s
      else if sid = sidRoutineControl then udsDiagHandleRoutineControl busy uds s
      else udsDiagSendNegativeResponse busy sid nrcServiceNotSupported s

/-! ## Trouble code monitor -/

/-- `UdsDiag_UpdateOneDtcStatus` on a status and its fail counter. -/
def udsDiagUpdateOneDtcStatus (status : UInt8) (consecutiveFailCount : Nat)
    (faultActive : Bool) : UInt8 × Nat :=
  if faultActive then
    let status := status ||| dtcStatusCurrentBit
    let count := if consecutiveFailCount < dtcConfirmFailCount
      then consecutiveFailCount + 1 else consecutiveFailCount
    (if dtcConfirmFailCount ≤ count then status ||| dtcStatusHistoryBit else status, count)
  else
    (status &&& ~~~ dtcStatusCurrentBit, 0)

/-- A fault timer: saturating while the condition holds, zero otherwise. -/
def faultTimer (limit : Nat) (condition : Bool) (timer : Nat) : Nat :=
  if condition then (if timer < limit then timer + 1 else timer) else 0

/-- `UdsDiag_UpdateDtcMonitor1ms`. -/
def udsDiagUpdateDtcMonitor1ms (s : Act) : Act :=
  let noSignal := decide (s.motor.motorState = .forward ∨ s.motor.motorState = .reverse) &&
    decide (s.encoder.pulsePerSecond = 0)
  let encoderTimer := faultTimer dtcEncoderNoSignalMs noSignal s.uds.dtcEncoderNoSignalTimerMs
  let diff := (udsDiagGetCommandTargetAngleDeg s.steering
    - udsDiagGetSteeringAngleDeg s.pot).natAbs
  let steeringTimer :=
    faultTimer dtcSteeringMismatchMs (decide (10 < diff)) s.uds.dtcSteeringMismatchTimerMs
  let period := s.uds.dtcMonitorPeriodTimerMs + 1
  let uds := { s.uds with
    dtcEncoderNoSignalTimerMs := encoderTimer
    dtcSteeringMismatchTimerMs := steeringTimer
    dtcMonitorPeriodTimerMs := period }
  if dtcMonitorPeriodMs ≤ period then
    let c100 := udsDiagUpdateOneDtcStatus uds.dtcC100Status uds.dtcC100ConsecutiveFailCount
      (decide (dtcEncoderNoSignalMs ≤ encoderTimer))
    let c101 := udsDiagUpdateOneDtcStatus uds.dtcC101Status uds.dtcC101ConsecutiveFailCount
      (decide (dtcSteeringMismatchMs ≤ steeringTimer))
    { s with uds := { uds with
        dtcMonitorPeriodTimerMs := 0
        dtcC100Status := c100.1
        dtcC100ConsecutiveFailCount := c100.2
        dtcC101Status := c101.1
        dtcC101ConsecutiveFailCount := c101.2 } }
  else
    { s with uds := uds }

/-! ## Public functions -/

/-- `UdsDiag_Init`; `g_savedMotorDuty` keeps its value. -/
def udsDiagInit (u : UdsDiag) : UdsDiag where
  diagSession := sessionDefault
  dtcC100Status := 0
  dtcC101Status := 0
  dtcEncoderNoSignalTimerMs := 0
  dtcSteeringMismatchTimerMs := 0
  dtcMonitorPeriodTimerMs := 0
  dtcC100ConsecutiveFailCount := 0
  dtcC101ConsecutiveFailCount := 0
  routineState := .none
  routineTimerMs := 0
  routineStep := 0
  savedMotorDuty := u.savedMotorDuty
  reqPending := false
  reqData := Vector.replicate 8 0
  udsTxBufferIndex := udsTxBuffer0

/-- `UdsDiag_OnCanRequest`. -/
def udsDiagOnCanRequest (data : Vector UInt8 8) (u : UdsDiag) : UdsDiag :=
  { u with reqData := data, reqPending := true }

/-- The request part of `UdsDiag_Update1ms`. -/
def udsDiagServeRequest (busy : Bool) (s : Act) : Act :=
  if s.uds.reqPending then
    udsDiagProcessRequest busy s.uds.reqData { s with uds := { s.uds with reqPending := false } }
  else s

/-- `UdsDiag_Update1ms`. -/
def udsDiagUpdate1ms (inp : ActInputs) (s : Act) : Act :=
  udsDiagUpdateDtcMonitor1ms
    (udsDiagUpdateRoutine1ms inp.routineTxBusy (udsDiagServeRequest inp.responseTxBusy s))

end ActUdsDiag
