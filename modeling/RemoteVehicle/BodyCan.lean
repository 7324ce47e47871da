import RemoteVehicle.BodyUds

/-!
# BODY command reception — `BodyCan.c` and the main loop

The receive interrupt checks a frame and puts an accepted command into a mailbox;
`BodyCan_Update1ms` counts the time-out, applies what is new, serves a diagnostic request
and sends the collision event and the heartbeat.  The last section is the loop of
`Cpu0_Main.c`.
-/

namespace BodyCan

open CanFrame BodyState BodyUds

/-! ## Constants -/

/-- `BODY_CAN_CMD_ID`, `BODY_CAN_CMD_DLC`. -/
def bodyCanCmdId : Nat := 0x110
def bodyCanCmdDlc : Nat := 6

/-- `BODY_CAN_COLLISION_EVENT_ID`, `BODY_CAN_HEARTBEAT_ID`. -/
def bodyCanCollisionEventId : Nat := 0x210
def bodyCanHeartbeatId : Nat := 0x310

/-- `BODY_CAN_TURN_*`. -/
def bodyCanTurnOff : UInt8 := 0
def bodyCanTurnLeft : UInt8 := 1
def bodyCanTurnRight : UInt8 := 2
def bodyCanTurnHazard : UInt8 := 3

/-- `BODY_CAN_CONTROL_*`. -/
def bodyCanControlStandby : UInt8 := 0
def bodyCanControlRemoteDrive : UInt8 := 1
def bodyCanControlDiagnostic : UInt8 := 2

/-- `BODY_CAN_CMD_TIMEOUT_MS`, `BODY_CAN_HEARTBEAT_TX_PERIOD_MS`. -/
def bodyCanCmdTimeoutMs : Nat := 200
def bodyCanHeartbeatTxPeriodMs : Nat := 200

/-! ## Field checks -/

/-- `BodyCan_IsValidBool`. -/
def bodyCanIsValidBool (value : UInt8) : Bool := value == bodyCanOff || value == bodyCanOn

/-- `BodyCan_IsValidTurnSignal`. -/
def bodyCanIsValidTurnSignal (value : UInt8) : Bool :=
  value == bodyCanTurnOff || value == bodyCanTurnLeft || value == bodyCanTurnRight ||
    value == bodyCanTurnHazard

/-- `BodyCan_IsValidControlMode`. -/
def bodyCanIsValidControlMode (value : UInt8) : Bool :=
  value == bodyCanControlStandby || value == bodyCanControlRemoteDrive ||
    value == bodyCanControlDiagnostic

/-- The six field checks of the receive interrupt. -/
def bodyCanIsValidCommand (c : BodyCommand) : Bool :=
  bodyCanIsValidBool c.headlampRaw && bodyCanIsValidTurnSignal c.turnSignalRaw &&
    bodyCanIsValidBool c.brakeLampRaw && bodyCanIsValidBool c.hornRaw &&
    bodyCanIsValidBool c.collisionWarningRaw && bodyCanIsValidControlMode c.controlModeRaw

/-! ## Applying a command -/

/-- Everything off, standby. -/
def offCommand : BodyCommand where
  headlampRaw := bodyCanOff
  turnSignalRaw := bodyCanTurnOff
  brakeLampRaw := bodyCanOff
  hornRaw := bodyCanOff
  collisionWarningRaw := bodyCanOff
  controlModeRaw := bodyCanControlStandby

/-- `BodyCan_EnterSafeState`. -/
def bodyCanEnterSafeState (inp : BodyInputs) (s : Body) : Body :=
  { s with
    can := { s.can with current := offCommand }
    control := BodyControl.allOff inp s.control }

/-- `BodyCan_ApplyBodyCommand`. -/
def bodyCanApplyBodyCommand (inp : BodyInputs) (c : BodyCommand) (s : Body) : Body :=
  if c.controlModeRaw ≠ bodyCanControlRemoteDrive then
    let s := bodyCanEnterSafeState inp s
    { s with can := { s.can with
        current := { s.can.current with controlModeRaw := c.controlModeRaw } } }
  else
    let u := BodyControl.setHeadlamp (c.headlampRaw == bodyCanOn) s.control
    let u := BodyControl.setTurnSignal c.turnSignalRaw u
    let u := BodyControl.setBrakeLamp (c.brakeLampRaw == bodyCanOn) u
    let u := BodyControl.setHorn (c.hornRaw == bodyCanOn) u
    let u := BodyControl.setCollisionWarningLamp (c.collisionWarningRaw == bodyCanOn) u
    { s with can := { s.can with current := c }, control := u }

/-! ## Receive interrupt -/

/-- The command bytes of a frame. -/
def commandOfBytes (b : Vector UInt8 8) : BodyCommand where
  headlampRaw := byteAt b 0
  turnSignalRaw := byteAt b 1
  brakeLampRaw := byteAt b 2
  hornRaw := byteAt b 3
  collisionWarningRaw := byteAt b 4
  controlModeRaw := byteAt b 5

/-- A valid command: restart the time-out and fill the mailbox. -/
def storeCommand (c : BodyCommand) (s : Body) : Body :=
  { s with can := { s.can with
      cmdTimeoutMs := 0
      rx := c
      rxUpdated := true
      rxCount := s.can.rxCount + 1 } }

/-- A diagnostic request waits for the next update. -/
def storeUdsRequest (b : Vector UInt8 8) (s : Body) : Body :=
  { s with can := { s.can with udsRequestByte := b, udsRequestUpdated := true } }

/-- `BodyCan_RxIsrHandler`; the frame mode is not checked. -/
def bodyCanRxIsrHandler (m : CanMessage) (s : Body) : Body :=
  let b := rxByte m
  if m.messageId = bodyCanUdsReqId then
    if m.dataLengthCode ≠ 8 then countInvalid s else storeUdsRequest b s
  else if m.messageId ≠ bodyCanCmdId ∨ m.dataLengthCode ≠ bodyCanCmdDlc then countInvalid s
  else if bodyCanIsValidCommand (commandOfBytes b) then storeCommand (commandOfBytes b) s
  else countInvalid s

/-! ## Collision event and heartbeat -/

/-- `BodyCan_SendCollisionEvent`: the time goes out high byte first. -/
def bodyCanSendCollisionEvent (busy : Bool) (occurrenceTimeMs : UInt32) (s : Body) : Body :=
  let txByte : List UInt8 := [1, (occurrenceTimeMs >>> 24).toUInt8,
    (occurrenceTimeMs >>> 16).toUInt8, (occurrenceTimeMs >>> 8).toUInt8, occurrenceTimeMs.toUInt8]
  let r := sendRawFrame busy bodyCanCollisionEventId 5 txByte s
  if r.1 then
    { r.2 with can := { r.2.can with eventTxOkCount := r.2.can.eventTxOkCount + 1 } }
  else r.2

/-- `BodyCan_SendPendingCollisionEventIfNeeded`: success shows in the counter. -/
def bodyCanSendPendingCollisionEventIfNeeded (busy : Bool) (s : Body) : Body :=
  if s.can.collisionEventPending = false then s
  else
    let okCountBefore := s.can.eventTxOkCount
    let s := bodyCanSendCollisionEvent busy s.can.pendingCollisionOccurrenceTimeMs s
    if s.can.eventTxOkCount ≠ okCountBefore then
      { s with can := { s.can with collisionEventPending := false } }
    else s

/-- `BodyCan_ReportCollisionOccurred`: the first report before a transmission sets the time. -/
def bodyCanReportCollisionOccurred (s : Body) : Body :=
  { s with can := { s.can with
      pendingCollisionOccurrenceTimeMs :=
        if s.can.collisionEventPending = false then s.can.bodyCanTimeMs
        else s.can.pendingCollisionOccurrenceTimeMs
      collisionEventPending := true } }

/-- `BodyCan_SendHeartbeat`. -/
def bodyCanSendHeartbeat (busy : Bool) (s : Body) : Body :=
  let r := sendRawFrame busy bodyCanHeartbeatId 1 [s.can.txHeartbeatAliveCounter] s
  if r.1 then
    { r.2 with can := { r.2.can with
        txHeartbeatAliveCounter := r.2.can.txHeartbeatAliveCounter + 1 } }
  else r.2

/-- `BodyCan_SendHeartbeatIfNeeded`. -/
def bodyCanSendHeartbeatIfNeeded (busy : Bool) (s : Body) : Body :=
  let timer := s.can.heartbeatTxTimerMs + 1
  if timer < bodyCanHeartbeatTxPeriodMs then
    { s with can := { s.can with heartbeatTxTimerMs := timer } }
  else bodyCanSendHeartbeat busy { s with can := { s.can with heartbeatTxTimerMs := 0 } }

/-! ## The 1 ms update -/

/-- Count the time and the time-out, saturating. -/
def countTimeout (s : Body) : Body :=
  { s with can := { s.can with
      bodyCanTimeMs := s.can.bodyCanTimeMs + 1
      cmdTimeoutMs :=
        if s.can.cmdTimeoutMs < bodyCanCmdTimeoutMs then s.can.cmdTimeoutMs + 1
        else s.can.cmdTimeoutMs } }

/-- Safe state while the time-out has expired. -/
def checkTimeout (inp : BodyInputs) (s : Body) : Body :=
  if bodyCanCmdTimeoutMs ≤ s.can.cmdTimeoutMs then bodyCanEnterSafeState inp s else s

/-- Apply what is new in the mailbox, also right after the safe state. -/
def applyUpdated (inp : BodyInputs) (s : Body) : Body :=
  if s.can.rxUpdated then
    let c := s.can.rx
    bodyCanApplyBodyCommand inp c { s with can := { s.can with rxUpdated := false } }
  else s

/-- What the update does besides the command path. -/
def serveRequestsAndSend (inp : BodyInputs) (s : Body) : Body :=
  bodyCanSendHeartbeatIfNeeded inp.heartbeatTxBusy
    (bodyCanSendPendingCollisionEventIfNeeded inp.collisionTxBusy
      (processUdsRequestIfNeeded inp s))

/-- `BodyCan_Update1ms`. -/
def bodyCanUpdate1ms (inp : BodyInputs) (s : Body) : Body :=
  serveRequestsAndSend inp (applyUpdated inp (checkTimeout inp (countTimeout s)))

/-! ## Initialisation -/

/-- The globals after `BodyCan_Init`. -/
def bodyCanInitCan : BodyCanState where
  rx := offCommand
  rxUpdated := false
  rxCount := 0
  invalidCount := 0
  current := offCommand
  cmdTimeoutMs := bodyCanCmdTimeoutMs
  txBufferIndex := 0
  txHeartbeatAliveCounter := 0
  heartbeatTxTimerMs := 0
  bodyCanTimeMs := 0
  collisionEventPending := false
  pendingCollisionOccurrenceTimeMs := 0
  eventTxOkCount := 0
  udsRequestUpdated := false
  udsRequestByte := Vector.replicate 8 0
  udsSession := udsSessionDefault

/-- `BodyCan_Init`. -/
def bodyCanInit (inp : BodyInputs) (s : Body) : Body :=
  bodyCanEnterSafeState inp { s with can := bodyCanInitCan }

/-! ## Main loop — `Cpu0_Main.c` -/

/-- `core0_main` up to the loop. -/
def bodyReset (inp : BodyInputs) : Body :=
  bodyCanInit inp { control := BodyControl.init inp, can := bodyCanInitCan, sent := [] }

/-- `BodyControl_ConsumeCollisionButtonPressedEvent` and what the loop does with it. -/
def reportCollisionIfPressed (s : Body) : Body :=
  if s.control.button.eventPending then
    bodyCanReportCollisionOccurred { s with control := { s.control with
      button := { s.control.button with eventPending := false } } }
  else s

/-- The calls of the main loop. -/
inductive BodyCall where
  /-- `BodyCan_Update1ms`. -/
  | canUpdate1ms
  /-- `BodyControl_Update1ms`. -/
  | controlUpdate1ms
  /-- The button event and `BodyCan_ReportCollisionOccurred`. -/
  | reportCollision
  /-- `App_Delay1ms`. -/
  | delay1ms
deriving DecidableEq, Repr

/-- The effect of a call. -/
def bodyCall (inp : BodyInputs) : BodyCall → Body → Body
  | .canUpdate1ms, s => bodyCanUpdate1ms inp s
  | .controlUpdate1ms, s => { s with control := BodyControl.update1ms inp s.control }
  | .reportCollision, s => reportCollisionIfPressed s
  | .delay1ms, s => { s with control := BodyControl.delayUs 1000 s.control }

end BodyCan
