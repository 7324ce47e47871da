import RemoteVehicle.MainSpec
import RemoteVehicle.ReadLog

/-!
# MAIN receive parsers as readers

The parsers of `com.c`, `dcm.c`, `doip.c` and `cantp.c` once more, this time with every
access to the received buffer written out in the order of the source.  A parser is given
the length and the state and returns a `Reader` of the new state; `*_eval` says that it
computes the function of the model.

Copying to a transmit buffer is a read too.  The request that `Out.uds` keeps for the record
is none; it is handed in.
-/

namespace MainReads

open ReadLog ReadLog.Reader ByteWords MainState MainTransmit MainDcm MainCom MainRouting MainDoip
open MainSpec

/-- A parser of received bytes. -/
abbrev Parse := Nat → Main → Reader UInt8 Main

/-! ## `com.c` -/

/-- `UDP_Ctr_ProcessRx`. -/
def udpCtrReads : Parse := fun _length s => do
  let accel ← cell 1
  let brake ← cell 2
  let steer ← cell 3
  let gear ← cell 4
  let turnSignal ← cell 5
  let horn ← cell 6
  let ignition ← cell 7
  let headLight ← cell 8
  let rxUdpCtr : UdpCtr := ⟨accel, brake, steer, gear, turnSignal, horn, ignition, headLight⟩
  let s := { s with com := { s.com with
    rxUdpCtr := rxUdpCtr
    curMode := ignitionMode ignition s.com.curMode } }
  let s := setLastUdpRxTime (getSystemTimeMs s) s
  pure (dcmCallbackPcRecovered (comSetSafetyOverride pcDefault s))

/-- `SomeIp_SendResponse`. -/
def someIpSendResponseReads (buzzerState : UInt8) (s : Main) : Reader UInt8 Main := do
  let requestId ← shift 8 (block 4)
  let tx := [highByte someipServiceId, lowByte someipServiceId,
    highByte someipMethodId, lowByte someipMethodId, 0, 0, 0, 10] ++
    requestId ++ [0x01, 0x01, 0x80, 0x00, 1, buzzerState]
  pure (pduRRouteTx pdurTxUdpSomeip (ofList tx) tx.length s)

/-- `SomeIp_ProcessRx`. -/
def someIpReads : Parse := fun length s =>
  if length < 18 then pure s
  else do
    let b0 ← cell 0
    let b1 ← cell 1
    let serviceId := word16 b0 b1
    let b2 ← cell 2
    let b3 ← cell 3
    let methodId := word16 b2 b3
    if serviceId ≠ someipServiceId then pure s
    else if methodId ≠ someipMethodId then pure s
    else do
      let _vehicleId ← cell 16
      let buzzerState ← cell 17
      let s := swcBuzzerControlIndication buzzerState s
      someIpSendResponseReads s.com.collisionWarn s

/-- `CAN_Stat_processRx`. -/
def canStatReads : Parse := fun _length s => do
  let speedl ← cell 0
  let speedh ← cell 1
  let gear ← cell 2
  let steer ← cell 3
  let steeringAngle ← cell 4
  let s := { s with com := { s.com with
    rxCanStat := ⟨speedl, speedh, gear, steer, steeringAngle⟩ } }
  pure (dcmCallbackActRecovered (setLastActRxTime (getSystemTimeMs s) s))

/-- `CAN_Body_processRx`. -/
def canBodyReads : Parse := fun _length s => do
  let aliveCnt ← cell 0
  let s := { s with com := { s.com with bodyAliveCnt := aliveCnt } }
  pure (dcmCallbackBodyRecovered (setLastBodyRxTime (getSystemTimeMs s) s))

/-! ## `dcm.c` -/

/-- Service 0x10. -/
def udsSessionControlReads (sid : UInt8) : Parse := fun reqLength s =>
  if reqLength ≠ 2 then pure (sendNegativeResponse sid 0x13 s)
  else do
    let subFunc ← cell 1
    if subFunc = 0x01 ∨ subFunc = 0x03 then
      pure (respond [0x50, subFunc, 0x0b, 0xb8, 0x0b, 0xb8] (setDiagSession subFunc s))
    else pure (sendNegativeResponse sid 0x12 s)

/-- Service 0x22. -/
def udsReadDataReads (sid : UInt8) : Parse := fun reqLength s =>
  if reqLength ≠ 3 then pure (sendNegativeResponse sid 0x13 s)
  else do
    let b1 ← cell 1
    let b2 ← cell 2
    let did := word16 b1 b2
    match didData did s.dcm with
    | some data => pure (respond ([0x62, highByte did, lowByte did] ++ data) s)
    | none => pure (sendNegativeResponse sid 0x31 s)

/-- Service 0x19: the mask of sub-function 0x02 is read for both lengths. -/
def udsReadDtcReads (sid : UInt8) : Parse := fun reqLength s =>
  if reqLength ≠ 2 ∧ reqLength ≠ 3 then pure (sendNegativeResponse sid 0x13 s)
  else do
    let subFunc ← cell 1
    if subFunc = 0x0A then
      pure (respond ([0x59, 0x0A, 0xFF] ++ dtcRecords (dtcTable s.dcm)) s)
    else if subFunc = 0x02 then do
      let statusMask ← cell 2
      pure (respond ([0x59, 0x02, 0xFF] ++
        dtcRecords ((dtcTable s.dcm).filter fun p => p.2 &&& statusMask != 0)) s)
    else pure (sendNegativeResponse sid 0x12 s)

/-- Service 0x14. -/
def udsClearDtcReads (sid : UInt8) : Parse := fun reqLength s =>
  if reqLength ≠ 4 then pure (sendNegativeResponse sid 0x13 s)
  else do
    let b1 ← cell 1
    let b2 ← cell 2
    let b3 ← cell 3
    let groupOfDTC := packWord b3 b2 b1 0
    if groupOfDTC = 0xFFFFFF then pure (respond [0x54] (dcmClearAllDtc s))
    else pure (sendNegativeResponse sid 0x31 s)

/-- `Uds_ProcessRx`. -/
def udsReads (request : List UInt8) : Parse := fun reqLength s =>
  let s := s.emit (.uds request)
  if reqLength = 0 then pure s
  else do
    let sid ← cell 0
    if sid = 0x10 then udsSessionControlReads sid reqLength s
    else if sid = 0x22 then udsReadDataReads sid reqLength s
    else if sid = 0x19 then udsReadDtcReads sid reqLength s
    else if sid = 0x14 then udsClearDtcReads sid reqLength s
    else pure (sendNegativeResponse sid 0x11 s)

/-! ## `cantp.c` and `doip.c` -/

/-- `CanTp_Transmit`. -/
def canTpTransmitReads (canId : Nat) : Parse := fun udsLength s =>
  if udsLength = 0 ∨ 7 < udsLength then pure s
  else do
    let udsData ← block udsLength
    let canPayload := (UInt8.ofNat udsLength &&& 0x0F) :: udsData ++
      List.replicate (7 - udsLength) 0
    pure (canIfTransmit canId (ofList canPayload) 8 s)

/-- `DoIP_ProcessTx`. -/
def doIPProcessTxReads (sourceAddr : UInt16) : Parse := fun udsLength s =>
  let totalTcpLength := (8 + (4 + udsLength)) % 65536
  if 1024 < totalTcpLength then pure s
  else do
    let udsData ← block udsLength
    let txBuf := doIPTxHeader sourceAddr udsLength ++ udsData
    pure (soAdIfTransmit 13400 (ofList txBuf) totalTcpLength s)

/-- `CanTp_RxIndication`. -/
def canTpReads (canId : Nat) : Parse := fun length s =>
  if length < 1 then pure s
  else do
    let pciByte ← cell 0
    let frameType := (pciByte &&& 0xF0) >>> 4
    let udsLength := (pciByte &&& 0x0F).toNat
    if frameType = 0x00 then
      if length - 1 < udsLength then pure s
      else if canId = 0x708 then shift 1 (doIPProcessTxReads 0x0010 udsLength s)
      else if canId = 0x718 then shift 1 (doIPProcessTxReads 0x0020 udsLength s)
      else pure s
    else pure s

/-- `DoIP_ProcessRoutingActivation`. -/
def doIPProcessRoutingActivationReads (port : Nat) : Parse := fun length s =>
  if length < 15 then pure s
  else do
    let b8 ← cell 8
    let b9 ← cell 9
    let testerSA := word16 b8 b9
    let _activationType ← cell 10
    if testerSA = testerSourceAddress then
      pure (doIPSendRoutingActivationResponse port testerSA 0x10 (callbackDiagRoutingActivated s))
    else
      pure (soAdCloseSocket port (doIPSendRoutingActivationResponse port testerSA 0x00 s))

/-- The routing of an acknowledged message. -/
def routeDiagnosticReads (request : List UInt8) (targetAddr : UInt16) : Parse :=
  fun udsLength s =>
    if targetAddr = 0x0001 then udsReads request udsLength s
    else if targetAddr = 0x0010 then canTpTransmitReads 0x700 udsLength s
    else if targetAddr = 0x0020 then canTpTransmitReads 0x710 udsLength s
    else pure s

/-- The branch of `DoIP_ProcessRx` for payload type 0x8001. -/
def doIPProcessDiagnosticReads (request : List UInt8) (port : Nat) : Parse := fun length s =>
  if length < 12 then pure s
  else do
    let b8 ← cell 8
    let b9 ← cell 9
    let sourceAddr := word16 b8 b9
    let b10 ← cell 10
    let b11 ← cell 11
    let targetAddr := word16 b10 b11
    if doIPIsRegisteredSA port sourceAddr = false then
      pure (soAdCloseSocket port (doIPSendDiagNack port targetAddr sourceAddr 0x02 s))
    else if doIPIsKnownTA targetAddr = false then
      pure (doIPSendDiagNack port targetAddr sourceAddr 0x03 s)
    else
      let s := doIPSendDiagAck port targetAddr sourceAddr 0x00 s
      shift 12 (routeDiagnosticReads request targetAddr (length - 12) s)

/-- `DoIP_ProcessRx`. -/
def doIPReads (request : List UInt8) : Parse := fun length s =>
  if length < 8 then pure s
  else do
    let b2 ← cell 2
    let b3 ← cell 3
    let payloadType := word16 b2 b3
    let b4 ← cell 4
    let b5 ← cell 5
    let b6 ← cell 6
    let b7 ← cell 7
    let expectedPayloadLength := packWord b7 b6 b5 b4
    if expectedPayloadLength ≠ UInt32.ofNat (length - 8) then
      pure (soAdCloseSocket doipPort (doIPSendGenericNack doipPort 0x04 s))
    else if payloadType = 0x8001 then doIPProcessDiagnosticReads request doipPort length s
    else if payloadType = 0x0005 then doIPProcessRoutingActivationReads doipPort length s
    else pure (doIPSendGenericNack doipPort 0x01 s)

/-! ## The readers compute the model -/

section Eval

variable (payload : Payload) (length : Nat) (s : Main)

theorem udpCtrReads_eval :
    eval payload (udpCtrReads length s) = udpCtrProcessRx payload length s := rfl

theorem canStatReads_eval :
    eval payload (canStatReads length s) = canStatProcessRx payload length s := rfl

theorem canBodyReads_eval :
    eval payload (canBodyReads length s) = canBodyProcessRx payload length s := rfl

theorem someIpSendResponseReads_eval (buzzerState : UInt8) :
    eval payload (someIpSendResponseReads buzzerState s) =
      someIpSendResponse payload buzzerState s := rfl

theorem someIpReads_eval :
    eval payload (someIpReads length s) = someIpProcessRx payload length s := by
  rw [someIpReads, someIpProcessRx]
  by_cases hlen : length < 18
  · have hno : ¬ IsBuzzerRequest payload length := fun h => absurd h.1 (by omega)
    rw [if_pos hlen, if_neg hno, eval_pure]
  · rw [if_neg hlen]
    by_cases hservice : word16 (payload 0) (payload 1) = someipServiceId
    · by_cases hmethod : word16 (payload 2) (payload 3) = someipMethodId
      · rw [if_pos ⟨by omega, hservice, hmethod⟩]
        simp [hservice, hmethod, someIpSendResponseReads_eval]
      · have hno : ¬ IsBuzzerRequest payload length := fun h => hmethod h.2.2
        rw [if_neg hno]
        simp [hservice, hmethod]
    · have hno : ¬ IsBuzzerRequest payload length := fun h => hservice h.2.1
      rw [if_neg hno]
      simp [hservice]

theorem udsSessionControlReads_eval :
    eval payload (udsSessionControlReads (payload 0) length s) =
      udsSessionControl payload length s := by
  simp only [udsSessionControlReads, udsSessionControl, eval_ite, eval_cell_bind, eval_pure]

theorem udsReadDataReads_eval :
    eval payload (udsReadDataReads (payload 0) length s) = udsReadData payload length s := by
  simp only [udsReadDataReads, udsReadData, eval_ite, eval_cell_bind, eval_pure]
  rcases didData (word16 (payload 1) (payload 2)) s.dcm with _ | data <;> rfl

theorem udsReadDtcReads_eval :
    eval payload (udsReadDtcReads (payload 0) length s) = udsReadDtc payload length s := by
  simp only [udsReadDtcReads, udsReadDtc, eval_ite, eval_cell_bind, eval_pure]

theorem udsClearDtcReads_eval :
    eval payload (udsClearDtcReads (payload 0) length s) = udsClearDtc payload length s := by
  simp only [udsClearDtcReads, udsClearDtc, eval_ite, eval_cell_bind, eval_pure]

theorem udsReads_eval :
    eval payload (udsReads (bytesOf payload length) length s) =
      udsProcessRx payload length s := by
  simp only [udsReads, udsProcessRx, eval_ite, eval_cell_bind, eval_pure,
    udsSessionControlReads_eval, udsReadDataReads_eval, udsReadDtcReads_eval,
    udsClearDtcReads_eval]

theorem canTpTransmitReads_eval (canId : Nat) :
    eval payload (canTpTransmitReads canId length s) = canTpTransmit canId payload length s := by
  simp only [canTpTransmitReads, canTpTransmit, eval_ite, eval_bind, eval_block, eval_pure]
  rfl

theorem doIPProcessTxReads_eval (sourceAddr : UInt16) :
    eval payload (doIPProcessTxReads sourceAddr length s) =
      doIPProcessTx sourceAddr payload length s := by
  simp only [doIPProcessTxReads, doIPProcessTx, eval_ite, eval_bind, eval_block, eval_pure]
  rfl

theorem canTpReads_eval (canId : Nat) :
    eval payload (canTpReads canId length s) = canTpRxIndication canId payload length s := by
  simp only [canTpReads, canTpRxIndication, eval_ite, eval_cell_bind, eval_pure, eval_shift,
    doIPProcessTxReads_eval]
  rfl

theorem doIPProcessRoutingActivationReads_eval (port : Nat) :
    eval payload (doIPProcessRoutingActivationReads port length s) =
      doIPProcessRoutingActivation port payload length s := by
  simp only [doIPProcessRoutingActivationReads, doIPProcessRoutingActivation, eval_ite,
    eval_cell_bind, eval_pure]
  rfl

theorem routeDiagnosticReads_eval (targetAddr : UInt16) :
    eval payload (routeDiagnosticReads (bytesOf payload length) targetAddr length s) =
      routeDiagnostic targetAddr payload length s := by
  simp only [routeDiagnosticReads, routeDiagnostic, eval_ite, eval_pure, udsReads_eval,
    canTpTransmitReads_eval]
  rfl

/-- The request inside a diagnostic message. -/
def requestOf : List UInt8 := bytesOf (offset payload 12) (length - 12)

theorem doIPProcessDiagnosticReads_eval (port : Nat) :
    eval payload (doIPProcessDiagnosticReads (requestOf payload length) port length s) =
      doIPProcessDiagnostic port payload length s := by
  have hroute : ∀ ta s, eval (fun i => payload (12 + i)) (routeDiagnosticReads
      (requestOf payload length) ta (length - 12) s) =
        routeDiagnostic ta (offset payload 12) (length - 12) s := fun ta s =>
    routeDiagnosticReads_eval (offset payload 12) (length - 12) s ta
  simp only [doIPProcessDiagnosticReads, doIPProcessDiagnostic, eval_ite, eval_cell_bind,
    eval_pure, eval_shift, hroute]
  rfl

theorem doIPReads_eval :
    eval payload (doIPReads (requestOf payload length) length s) =
      doIPProcessRx payload length s := by
  simp only [doIPReads, doIPProcessRx, doIPDispatch, eval_ite, eval_cell_bind, eval_pure,
    doIPProcessDiagnosticReads_eval, doIPProcessRoutingActivationReads_eval]
  rfl

end Eval

end MainReads
