import RemoteVehicle.MainDcm

/-!
# MAIN communication — `com.c` and `swc.c`

`com.c` keeps the last control packet, the mode, the safety override and the buzzer
state, builds the periodic frames from them and watches the three partners for time-outs.
`swc.c` switches the mode when a diagnostic session begins or ends.
-/

namespace MainCom

open ByteWords CanFrame MainState MainTransmit MainDcm

/-! ## Constants -/

/-- `MODE_*`. -/
def modeDefault : UInt8 := 0
def modeRemote : UInt8 := 1
def modeDiag : UInt8 := 2

/-- `PC_DEFAULT`, `PC_TIMEOUT_BREAK`, `PC_TIMEOUT_LIGHT`. -/
def pcDefault : UInt8 := 0
def pcTimeoutBreak : UInt8 := 1
def pcTimeoutLight : UInt8 := 3

/-- `IGNITIONOFF`, `IGNITIONON`. -/
def ignitionOff : UInt8 := 0
def ignitionOn : UInt8 := 1

/-- `UDP_TIMEOUT_THRESHOLD_MS`, `ACT_TIMEOUT_THRESHOLD_MS`, `BODY_TIMEOUT_THRESHOLD_MS`. -/
def udpTimeoutThresholdMs : UInt32 := 500
def actTimeoutThresholdMs : UInt32 := 500
def bodyTimeoutThresholdMs : UInt32 := 500

/-- `SOMEIP_SERVICE_ID`, `SOMEIP_METHOD_ID`. -/
def someipServiceId : UInt16 := 0x2001
def someipMethodId : UInt16 := 0x0001

/-! ## Setters -/

/-- `COM_Set_CurMode`. -/
def comSetCurMode (curMode : UInt8) (s : Main) : Main :=
  { s with com := { s.com with curMode := curMode } }

/-- `COM_Set_Safety_Override`. -/
def comSetSafetyOverride (safetyOverride : UInt8) (s : Main) : Main :=
  { s with com := { s.com with safetyOverride := safetyOverride } }

/-- `COM_Set_Turn_Signal`. -/
def comSetTurnSignal (turnSignal : UInt8) (s : Main) : Main :=
  { s with com := { s.com with rxUdpCtr := { s.com.rxUdpCtr with turnSignal := turnSignal } } }

/-- `COM_Set_Collision_Warn`. -/
def comSetCollisionWarn (collisionWarn : UInt8) (s : Main) : Main :=
  { s with com := { s.com with collisionWarn := collisionWarn } }

/-- Assignments to the time stamps. -/
def setLastUdpRxTime (t : UInt32) (s : Main) : Main :=
  { s with com := { s.com with times := { s.com.times with lastUdpRxTime := t } } }
def setLastActRxTime (t : UInt32) (s : Main) : Main :=
  { s with com := { s.com with times := { s.com.times with lastActRxTime := t } } }
def setLastBodyRxTime (t : UInt32) (s : Main) : Main :=
  { s with com := { s.com with times := { s.com.times with lastBodyRxTime := t } } }
def setLastTime20ms (t : UInt32) (s : Main) : Main :=
  { s with com := { s.com with times := { s.com.times with lastTime20ms := t } } }
def setLastTime50ms (t : UInt32) (s : Main) : Main :=
  { s with com := { s.com with times := { s.com.times with lastTime50ms := t } } }

/-! ## `swc.c` -/

/-- `Callback_Diag_RoutingActivated`. -/
def callbackDiagRoutingActivated (s : Main) : Main :=
  if s.com.curMode = modeRemote then comSetCurMode modeDiag s else s

/-- `Callback_Diag_RoutingDeactivated`. -/
def callbackDiagRoutingDeactivated (s : Main) : Main :=
  if s.com.curMode = modeDiag then comSetCurMode modeRemote s else s

/-- `Callback_COM_PcTimeout`. -/
def callbackComPcTimeout (s : Main) : Main :=
  comSetTurnSignal pcTimeoutLight (comSetSafetyOverride pcTimeoutBreak s)

/-- `SWC_BuzzerControlIndication`. -/
def swcBuzzerControlIndication (msg : UInt8) (s : Main) : Main := comSetCollisionWarn msg s

/-! ## Reception -/

/-- The control fields of a packet. -/
def udpCtrOfPayload (payload : Payload) : UdpCtr where
  accel := payload 1
  brake := payload 2
  steer := payload 3
  gear := payload 4
  turnSignal := payload 5
  horn := payload 6
  ignition := payload 7
  headLight := payload 8

/-- The mode after a packet with this ignition byte. -/
def ignitionMode (ignition curMode : UInt8) : UInt8 :=
  if ignition = ignitionOn then modeRemote
  else if ignition = ignitionOff then modeDefault
  else curMode

/-- `UDP_Ctr_ProcessRx`; the length is not looked at. -/
def udpCtrProcessRx (payload : Payload) (_length : Nat) (s : Main) : Main :=
  let rxUdpCtr := udpCtrOfPayload payload
  let s := { s with com := { s.com with
    rxUdpCtr := rxUdpCtr
    curMode := ignitionMode rxUdpCtr.ignition s.com.curMode } }
  let s := setLastUdpRxTime (getSystemTimeMs s) s
  dcmCallbackPcRecovered (comSetSafetyOverride pcDefault s)

/-- `SomeIp_SendResponse`. -/
def someIpSendResponse (rxPacket : Payload) (buzzerState : UInt8) (s : Main) : Main :=
  let tx := [highByte someipServiceId, lowByte someipServiceId,
    highByte someipMethodId, lowByte someipMethodId, 0, 0, 0, 10] ++
    bytesOf (offset rxPacket 8) 4 ++ [0x01, 0x01, 0x80, 0x00, 1, buzzerState]
  pduRRouteTx pdurTxUdpSomeip (ofList tx) tx.length s

/-- A buzzer request. -/
def IsBuzzerRequest (payload : Payload) (length : Nat) : Prop :=
  18 ≤ length ∧ word16 (payload 0) (payload 1) = someipServiceId ∧
    word16 (payload 2) (payload 3) = someipMethodId

instance (payload : Payload) (length : Nat) : Decidable (IsBuzzerRequest payload length) := by
  unfold IsBuzzerRequest; infer_instance

/-- `SomeIp_ProcessRx`. -/
def someIpProcessRx (payload : Payload) (length : Nat) (s : Main) : Main :=
  if IsBuzzerRequest payload length then
    let s := swcBuzzerControlIndication (payload 17) s
    someIpSendResponse payload s.com.collisionWarn s
  else s

/-- `CAN_Stat_processRx`. -/
def canStatProcessRx (payload : Payload) (_length : Nat) (s : Main) : Main :=
  let s := { s with com := { s.com with
    rxCanStat := { speedl := payload 0, speedh := payload 1, gear := payload 2,
                   steer := payload 3, steeringAngle := payload 4 } } }
  dcmCallbackActRecovered (setLastActRxTime (getSystemTimeMs s) s)

/-- `CAN_Body_processRx`. -/
def canBodyProcessRx (payload : Payload) (_length : Nat) (s : Main) : Main :=
  let s := { s with com := { s.com with bodyAliveCnt := payload 0 } }
  dcmCallbackBodyRecovered (setLastBodyRxTime (getSystemTimeMs s) s)

/-! ## Transmission -/

/-- `COM_TxBuf_CtrAct_CAN`. -/
def ctrActBytes (c : Com) : List UInt8 :=
  [c.rxUdpCtr.accel, c.rxUdpCtr.steer, c.rxUdpCtr.brake, c.rxUdpCtr.gear, c.curMode,
   c.safetyOverride]

/-- `COM_TxBuf_CtrBody_CAN`. -/
def ctrBodyBytes (c : Com) : List UInt8 :=
  [c.rxUdpCtr.headLight, c.rxUdpCtr.turnSignal, c.rxUdpCtr.brake, c.rxUdpCtr.horn,
   c.collisionWarn, c.curMode]

/-- `COM_TxBuf_Stat_UDP`. -/
def statUdpBytes (c : Com) : List UInt8 := [c.statCnt, c.rxCanStat.speedl, c.rxCanStat.speedh]

/-- `COM_Tx_CtrAct_CAN`. -/
def comTxCtrActCan (s : Main) : Main :=
  pduRRouteTx pdurTxCanActId (ofList (ctrActBytes s.com)) 6 s

/-- `COM_Tx_CtrBody_CAN`. -/
def comTxCtrBodyCan (s : Main) : Main :=
  pduRRouteTx pdurTxCanBodyId (ofList (ctrBodyBytes s.com)) 6 s

/-- `COM_Tx_Stat_UDP`: the buffer is filled before the counter advances. -/
def comTxStatUdp (s : Main) : Main :=
  let txBuf := ofList (statUdpBytes s.com)
  let s := { s with com := { s.com with statCnt := s.com.statCnt + 1 } }
  pduRRouteTx pdurTxUdpStatId txBuf 3 s

/-- The 20 ms part of `COM_Tx_MainFunction`. -/
def comTx20ms (currentTime : UInt32) (s : Main) : Main :=
  if 20 ≤ currentTime - s.com.times.lastTime20ms then
    setLastTime20ms currentTime (comTxCtrBodyCan (comTxCtrActCan s))
  else s

/-- The 50 ms part. -/
def comTx50ms (currentTime : UInt32) (s : Main) : Main :=
  if 50 ≤ currentTime - s.com.times.lastTime50ms then
    setLastTime50ms currentTime (comTxStatUdp s)
  else s

/-- `COM_Tx_MainFunction`. -/
def comTxMainFunction (s : Main) : Main :=
  let currentTime := getSystemTimeMs s
  comTx50ms currentTime (comTx20ms currentTime s)

/-! ## Time-outs -/

/-- The PC check of `COM_TimeOut`: only in remote mode, and it restarts its own time. -/
def pcTimeOut (currentTime : UInt32) (s : Main) : Main :=
  if s.com.curMode = modeRemote ∧
      udpTimeoutThresholdMs ≤ currentTime - s.com.times.lastUdpRxTime then
    setLastUdpRxTime currentTime (dcmCallbackPcCommloss (callbackComPcTimeout s))
  else s

/-- The ACT check. -/
def actTimeOut (currentTime : UInt32) (s : Main) : Main :=
  if actTimeoutThresholdMs ≤ currentTime - s.com.times.lastActRxTime then
    setLastActRxTime currentTime (dcmCallbackActCommloss s)
  else s

/-- The BODY check. -/
def bodyTimeOut (currentTime : UInt32) (s : Main) : Main :=
  if bodyTimeoutThresholdMs ≤ currentTime - s.com.times.lastBodyRxTime then
    setLastBodyRxTime currentTime (dcmCallbackBodyCommloss s)
  else s

/-- `COM_TimeOut`. -/
def comTimeOut (s : Main) : Main :=
  let currentTime := getSystemTimeMs s
  bodyTimeOut currentTime (actTimeOut currentTime (pcTimeOut currentTime s))

end MainCom
