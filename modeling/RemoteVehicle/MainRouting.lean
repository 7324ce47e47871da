import RemoteVehicle.MainCom

/-!
# MAIN routing — `pdur.c`, `canif.c` and the receiving half of `cantp.c`

`PduR_RouteRx` and `CanIf_RxIndication` search a table and call the handler of the first
entry that matches.  The tables are those of `pdur_cfg.c` and `canif_cfg.c`.
-/

namespace MainRouting

open CanFrame MainState MainTransmit MainDcm MainCom

/-! ## Receiving side of the PDU router -/

/-- `PDUR_*_ID`. -/
def pdurUdpControlId : Nat := 0x01
def pdurSomeipId : Nat := 0x02
def pdurDoipMainTcpId : Nat := 0x03
def pdurDoipActTcpId : Nat := 0x04
def pdurDoipBodyTcpId : Nat := 0x05
def pdurCanStatusId : Nat := 0x11
def pdurCanEventId : Nat := 0x12
def pdurCanBodyId : Nat := 0x13
def pdurCanActUdsId : Nat := 0x17
def pdurCanBodyUdsId : Nat := 0x18

/-- `UDS_TCP_Main_ProcessRx`, `UDS_TCP_Act_ProcessRx`, `UDS_TCP_Body_ProcessRx`. -/
def udsTcpMainProcessRx : Handler := udsProcessRx
def udsTcpActProcessRx : Handler := canTpTransmit 0x700
def udsTcpBodyProcessRx : Handler := canTpTransmit 0x710

/-- `CAN_Event_processRx`, `CAN_Act_UDS_processRx`, `CAN_Body_UDS_processRx`. -/
def canEventProcessRx : Handler := soAdIfTransmit 5002
def canActUdsProcessRx : Handler := doIPProcessTx 0x0010
def canBodyUdsProcessRx : Handler := doIPProcessTx 0x0020

/-- `PduR_Rx_RoutingTable`. -/
def pduRRxRoutingTable : List (Nat × Handler) :=
  [(pdurUdpControlId, udpCtrProcessRx), (pdurSomeipId, someIpProcessRx),
   (pdurDoipMainTcpId, udsTcpMainProcessRx), (pdurDoipActTcpId, udsTcpActProcessRx),
   (pdurDoipBodyTcpId, udsTcpBodyProcessRx), (pdurCanStatusId, canStatProcessRx),
   (pdurCanEventId, canEventProcessRx), (pdurCanBodyId, canBodyProcessRx),
   (pdurCanActUdsId, canActUdsProcessRx), (pdurCanBodyUdsId, canBodyUdsProcessRx)]

/-- `PduR_RouteRx`. -/
def pduRRouteRx (rxPduId : Nat) : Handler := route pduRRxRoutingTable rxPduId

@[simp] theorem pduRRouteRx_control : pduRRouteRx pdurUdpControlId = udpCtrProcessRx := rfl
@[simp] theorem pduRRouteRx_someip : pduRRouteRx pdurSomeipId = someIpProcessRx := rfl
@[simp] theorem pduRRouteRx_doipMain : pduRRouteRx pdurDoipMainTcpId = udsProcessRx := rfl
@[simp] theorem pduRRouteRx_doipAct : pduRRouteRx pdurDoipActTcpId = canTpTransmit 0x700 := rfl
@[simp] theorem pduRRouteRx_doipBody :
    pduRRouteRx pdurDoipBodyTcpId = canTpTransmit 0x710 := rfl
@[simp] theorem pduRRouteRx_canStatus : pduRRouteRx pdurCanStatusId = canStatProcessRx := rfl
@[simp] theorem pduRRouteRx_canEvent : pduRRouteRx pdurCanEventId = soAdIfTransmit 5002 := rfl
@[simp] theorem pduRRouteRx_canBody : pduRRouteRx pdurCanBodyId = canBodyProcessRx := rfl
@[simp] theorem pduRRouteRx_canActUds : pduRRouteRx pdurCanActUdsId = doIPProcessTx 0x0010 := rfl
@[simp] theorem pduRRouteRx_canBodyUds :
    pduRRouteRx pdurCanBodyUdsId = doIPProcessTx 0x0020 := rfl

/-! ## CAN transport -/

/-- `CanTp_RxIndication`: single frames only. -/
def canTpRxIndication (canId : Nat) (payload : Payload) (length : Nat) (s : Main) : Main :=
  if length < 1 then s
  else
    let pciByte := payload 0
    let frameType := (pciByte &&& 0xF0) >>> 4
    let udsLength := (pciByte &&& 0x0F).toNat
    if frameType = 0x00 then
      if length - 1 < udsLength then s
      else
        let udsData := offset payload 1
        if canId = 0x708 then pduRRouteRx pdurCanActUdsId udsData udsLength s
        else if canId = 0x718 then pduRRouteRx pdurCanBodyUdsId udsData udsLength s
        else s
    else s

/-! ## CAN interface -/

/-- `CanIf_RxTable`. -/
def canIfRxTable : List (Nat × Handler) :=
  [(0x200, pduRRouteRx pdurCanStatusId), (0x210, pduRRouteRx pdurCanEventId),
   (0x310, pduRRouteRx pdurCanBodyId), (0x708, canTpRxIndication 0x708),
   (0x718, canTpRxIndication 0x718)]

/-- `CanIf_RxIndication`. -/
def canIfRxIndication (canId : Nat) : Handler := route canIfRxTable canId

/-- `Can_GetLength`. -/
def canGetLength (dlc : Nat) : Nat :=
  if dlc = 9 then 12
  else if dlc = 10 then 16
  else if dlc = 11 then 20
  else if dlc = 12 then 24
  else if dlc = 13 then 32
  else if dlc = 14 then 48
  else if dlc = 15 then 64
  else dlc

/-- One message of `Can_ReadNode`: `messageData` is the data read from the FIFO. -/
def canReadMessage (messageId dataLengthCode : Nat) (messageData : Payload) (s : Main) : Main :=
  canIfRxIndication messageId messageData (canGetLength dataLengthCode) s

end MainRouting
