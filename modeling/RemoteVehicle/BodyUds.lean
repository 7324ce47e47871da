import RemoteVehicle.BodyControl

/-!
# BODY diagnostics — the UDS part of `BodyCan.c`

Requests arrive as CanTp single frames and are served from the 1 ms update.  A routine
runs to its end inside the handler: the buzzer and the LED test block for half a second
and for a second, the ultrasonic test for as long as the echo takes.
-/

namespace BodyUds

open CanFrame BodyState

/-! ## Constants -/

/-- `BODY_UDS_SID_*`. -/
def udsSidSessionControl : UInt8 := 0x10
def udsSidReadDid : UInt8 := 0x22
def udsSidReadDtc : UInt8 := 0x19
def udsSidClearDtc : UInt8 := 0x14
def udsSidRoutineControl : UInt8 := 0x31
def udsPositiveResponseOffset : UInt8 := 0x40

/-- `BODY_UDS_NRC_*`. -/
def udsNrcServiceNotSupported : UInt8 := 0x11
def udsNrcSubfunctionUnsupported : UInt8 := 0x12
def udsNrcIncorrectLength : UInt8 := 0x13
def udsNrcRequestOutOfRange : UInt8 := 0x31

/-- `BODY_UDS_SESSION_*`. -/
def udsSessionDefault : UInt8 := 0x01
def udsSessionExtended : UInt8 := 0x03

/-- `BODY_UDS_DTC_STATUS_AVAILABILITY_MASK`, `BODY_UDS_READ_DTC_ALL_SUBFUNCTION`. -/
def udsDtcStatusAvailabilityMask : UInt8 := 0x01
def udsReadDtcAllSubfunction : UInt8 := 0x0A

/-- `BODY_UDS_DID_*`. -/
def udsDidEcuId : Nat := 0xF190
def udsDidUltrasonicDistance : Nat := 0x0201
def udsDidTurnSignalStatus : Nat := 0x0202
def udsDidCollisionSwitch : Nat := 0x0203
def udsDidCollisionWarning : Nat := 0x0204

/-- `BODY_UDS_ROUTINE_*`, `BODY_UDS_RID_*`. -/
def udsRoutineStart : UInt8 := 0x01
def udsRoutineResultOk : UInt8 := 0x00
def udsRoutineResultTimeout : UInt8 := 0x01
def udsRidBuzzerTest : Nat := 0x0200
def udsRidLedAllTest : Nat := 0x0201
def udsRidUltrasonicTest : Nat := 0x0202

/-- `BODY_CAN_UDS_REQ_ID`, `BODY_CAN_UDS_RESP_ID`, `BODY_UDS_SF_MAX_PAYLOAD_BYTES`. -/
def bodyCanUdsReqId : Nat := 0x710
def bodyCanUdsRespId : Nat := 0x718
def udsSfMaxPayloadBytes : Nat := 7

/-- `BODY_CAN_OFF`, `BODY_CAN_ON`, `BODY_CAN_TX_BUFFER_COUNT`. -/
def bodyCanOff : UInt8 := 0
def bodyCanOn : UInt8 := 1
def bodyCanTxBufferCount : Nat := 2

/-! ## Sending -/

/-- `BodyCan_SendRawFrame`: whether the message went out.  Frames are CAN FD without bit
    rate switching; a busy buffer takes nothing and stays selected. -/
def sendRawFrame (busy : Bool) (messageId dataLengthCode : Nat) (txByte : List UInt8)
    (s : Body) : Bool × Body :=
  if busy then (false, s)
  else
    let m := { fdMessage messageId dataLengthCode txByte with frameMode := .fdLong }
    (true, { s with
      sent := s.sent ++ [(s.can.txBufferIndex, m)]
      can := { s.can with txBufferIndex :=
        if bodyCanTxBufferCount ≤ s.can.txBufferIndex + 1 then 0
        else s.can.txBufferIndex + 1 } })

/-- A frame that fails a check is counted and dropped. -/
def countInvalid (s : Body) : Body :=
  { s with can := { s.can with invalidCount := s.can.invalidCount + 1 } }

/-- `BodyCan_SendUdsPayload`. -/
def sendUdsPayload (busy : Bool) (payload : List UInt8) (s : Body) : Body :=
  if payload.length = 0 ∨ udsSfMaxPayloadBytes < payload.length then countInvalid s
  else
    (sendRawFrame busy bodyCanUdsRespId 8
      ((UInt8.ofNat payload.length &&& 0x0F) :: payload) s).2

/-- `BodyCan_SendUdsNegativeResponse`. -/
def sendUdsNegativeResponse (busy : Bool) (requestSid nrc : UInt8) (s : Body) : Body :=
  sendUdsPayload busy [0x7F, requestSid, nrc] s

/-! ## Service handlers

`payload` is the request without its length byte, so `payload.length` is the
`payloadLength` argument. -/

/-- `BodyCan_HandleUdsSessionControl`. -/
def handleUdsSessionControl (busy : Bool) (payload : List UInt8) (s : Body) : Body :=
  if payload.length ≠ 2 then
    sendUdsNegativeResponse busy udsSidSessionControl udsNrcIncorrectLength s
  else
    let requestedSession := payload.getD 1 0 &&& 0x7F
    if requestedSession ≠ udsSessionDefault ∧ requestedSession ≠ udsSessionExtended then
      sendUdsNegativeResponse busy udsSidSessionControl udsNrcSubfunctionUnsupported s
    else
      sendUdsPayload busy [udsSidSessionControl + udsPositiveResponseOffset, requestedSession,
        0x0B, 0xB8, 0x03, 0xE8]
        { s with can := { s.can with udsSession := requestedSession } }

/-- `BodyCan_HandleUdsReadDid`; the distance is measured for the request. -/
def handleUdsReadDid (inp : BodyInputs) (payload : List UInt8) (s : Body) : Body :=
  let busy := inp.udsTxBusy
  if payload.length ≠ 3 then
    sendUdsNegativeResponse busy udsSidReadDid udsNrcIncorrectLength s
  else
    let did := (payload.getD 1 0).toNat * 256 + (payload.getD 2 0).toNat
    let head := [udsSidReadDid + udsPositiveResponseOffset, payload.getD 1 0, payload.getD 2 0]
    if did = udsDidEcuId then
      -- "BDY1"
      sendUdsPayload busy (head ++ [0x42, 0x44, 0x59, 0x31]) s
    else if did = udsDidUltrasonicDistance then
      let r := BodyControl.runUltrasonicDiagnosticRoutine inp.requestEcho s.control
      sendUdsPayload busy (head ++ [UInt8.ofNat (r.1.2 / 256), UInt8.ofNat r.1.2])
        { s with control := r.2 }
    else if did = udsDidTurnSignalStatus then
      sendUdsPayload busy (head ++ [s.can.current.turnSignalRaw]) s
    else if did = udsDidCollisionSwitch then
      sendUdsPayload busy (head ++ [if s.control.button.stablePressed then 1 else 0]) s
    else if did = udsDidCollisionWarning then
      sendUdsPayload busy
        (head ++ [if s.can.current.collisionWarningRaw = bodyCanOn then 1 else 0]) s
    else sendUdsNegativeResponse busy udsSidReadDid udsNrcRequestOutOfRange s

/-- `BodyCan_HandleUdsReadDtc`. -/
def handleUdsReadDtc (busy : Bool) (payload : List UInt8) (s : Body) : Body :=
  if payload.length ≠ 2 then
    sendUdsNegativeResponse busy udsSidReadDtc udsNrcIncorrectLength s
  else if payload.getD 1 0 ≠ udsReadDtcAllSubfunction then
    sendUdsNegativeResponse busy udsSidReadDtc udsNrcSubfunctionUnsupported s
  else
    sendUdsPayload busy [udsSidReadDtc + udsPositiveResponseOffset, udsReadDtcAllSubfunction,
      udsDtcStatusAvailabilityMask, 0xC2, 0x01, 0x00, s.control.dtc.status] s

/-- `BodyCan_HandleUdsClearDtc`. -/
def handleUdsClearDtc (busy : Bool) (payload : List UInt8) (s : Body) : Body :=
  if payload.length ≠ 4 then
    sendUdsNegativeResponse busy udsSidClearDtc udsNrcIncorrectLength s
  else if payload.getD 1 0 ≠ 0xFF ∨ payload.getD 2 0 ≠ 0xFF ∨ payload.getD 3 0 ≠ 0xFF then
    sendUdsNegativeResponse busy udsSidClearDtc udsNrcRequestOutOfRange s
  else
    sendUdsPayload busy [udsSidClearDtc + udsPositiveResponseOffset]
      { s with control := BodyControl.clearDtcHistory s.control }

/-- `BodyCan_HandleUdsRoutineControl`; the session is not looked at. -/
def handleUdsRoutineControl (inp : BodyInputs) (payload : List UInt8) (s : Body) : Body :=
  let busy := inp.udsTxBusy
  if payload.length ≠ 4 then
    sendUdsNegativeResponse busy udsSidRoutineControl udsNrcIncorrectLength s
  else if payload.getD 1 0 &&& 0x7F ≠ udsRoutineStart then
    sendUdsNegativeResponse busy udsSidRoutineControl udsNrcSubfunctionUnsupported s
  else
    let routineId := (payload.getD 2 0).toNat * 256 + (payload.getD 3 0).toNat
    let head := [udsSidRoutineControl + udsPositiveResponseOffset, udsRoutineStart,
      payload.getD 2 0, payload.getD 3 0]
    if routineId = udsRidBuzzerTest then
      sendUdsPayload busy (head ++ [udsRoutineResultOk])
        { s with control := BodyControl.runBuzzerDiagnosticRoutine s.control }
    else if routineId = udsRidLedAllTest then
      sendUdsPayload busy (head ++ [udsRoutineResultOk])
        { s with control := BodyControl.runLedDiagnosticRoutine s.control }
    else if routineId = udsRidUltrasonicTest then
      let r := BodyControl.runUltrasonicDiagnosticRoutine inp.requestEcho s.control
      sendUdsPayload busy
        (head ++ [if r.1.1 then udsRoutineResultOk else udsRoutineResultTimeout])
        { s with control := r.2 }
    else sendUdsNegativeResponse busy udsSidRoutineControl udsNrcRequestOutOfRange s

/-- `BodyCan_HandleUdsRequest`: single frames of one to seven bytes only. -/
def handleUdsRequest (inp : BodyInputs) (rxByte : Vector UInt8 8) (s : Body) : Body :=
  if byteAt rxByte 0 &&& 0xF0 ≠ 0 then countInvalid s
  else
    let payloadLength := (byteAt rxByte 0 &&& 0x0F).toNat
    if payloadLength = 0 ∨ udsSfMaxPayloadBytes < payloadLength then countInvalid s
    else
      let payload := (rxByte.toList.drop 1).take payloadLength
      let sid := payload.getD 0 0
      if sid = udsSidSessionControl then handleUdsSessionControl inp.udsTxBusy payload s
      else if sid = udsSidReadDid then handleUdsReadDid inp payload s
      else if sid = udsSidReadDtc then handleUdsReadDtc inp.udsTxBusy payload s
      else if sid = udsSidClearDtc then handleUdsClearDtc inp.udsTxBusy payload s
      else if sid = udsSidRoutineControl then handleUdsRoutineControl inp payload s
      else sendUdsNegativeResponse inp.udsTxBusy sid udsNrcServiceNotSupported s

/-- `BodyCan_ProcessUdsRequestIfNeeded`. -/
def processUdsRequestIfNeeded (inp : BodyInputs) (s : Body) : Body :=
  if s.can.udsRequestUpdated then
    handleUdsRequest inp s.can.udsRequestByte
      { s with can := { s.can with udsRequestUpdated := false } }
  else s

end BodyUds
