import RemoteVehicle.MainLoop
import RemoteVehicle.ActSpec
import RemoteVehicle.BodySpec

/-!
# MAIN specification — what the gateway is for

The abstract view of MAIN: a relay that holds the last control packet, the buzzer state
and the mode, is told when a diagnostic session begins and ends, and watches the age of
the last packet.  Everything the vehicle is told on 0x100 and 0x110 is a function of the
relay.

* `Relay` and `RelayOp` are the relay and what happens to it.
* `relayOps` says what a call of MAIN means for the relay.  Most calls mean nothing.
* `actFrame` and `bodyFrame` are the two command frames, and `actCommand` and
  `bodyCommand` what ACT and BODY read out of them.
-/

namespace MainSpec

open CanFrame MainState MainTransmit MainDcm MainCom MainRouting MainDoip MainTcp MainLoop

/-! ## The relay -/

/-- What decides the command frames. -/
structure Relay where
  ctr : UdpCtr
  collisionWarn : UInt8
  curMode : UInt8
  safetyOverride : UInt8
  lastUdpRxTime : UInt32
deriving DecidableEq, Repr

/-- What happens to the relay. -/
inductive RelayOp where
  /-- A control packet, and its time of reception. -/
  | packet (ctr : UdpCtr) (now : UInt32)
  /-- A buzzer request. -/
  | buzzer (state : UInt8)
  /-- A routing activation is granted. -/
  | activated
  /-- The peer of a diagnostic connection has closed it. -/
  | deactivated
  /-- The age of the last packet is checked. -/
  | watch (now : UInt32)
deriving DecidableEq, Repr

/-- The relay takes a control packet: the ignition selects the mode, an override ends. -/
def Relay.packet (r : Relay) (ctr : UdpCtr) (now : UInt32) : Relay :=
  { r with
    ctr := ctr
    curMode := ignitionMode ctr.ignition r.curMode
    safetyOverride := pcDefault
    lastUdpRxTime := now }

/-- The packet in force is too old. -/
def Relay.Stale (r : Relay) (now : UInt32) : Prop :=
  r.curMode = modeRemote ∧ udpTimeoutThresholdMs ≤ now - r.lastUdpRxTime

instance (r : Relay) (now : UInt32) : Decidable (r.Stale now) := by
  unfold Relay.Stale; infer_instance

/-- Forced stop with hazard lights; the watch starts again. -/
def Relay.timeout (r : Relay) (now : UInt32) : Relay :=
  { r with
    ctr := { r.ctr with turnSignal := pcTimeoutLight }
    safetyOverride := pcTimeoutBreak
    lastUdpRxTime := now }

def Relay.step (r : Relay) : RelayOp → Relay
  | .packet ctr now => r.packet ctr now
  | .buzzer state => { r with collisionWarn := state }
  | .activated => if r.curMode = modeRemote then { r with curMode := modeDiag } else r
  | .deactivated => if r.curMode = modeDiag then { r with curMode := modeRemote } else r
  | .watch now => if r.Stale now then r.timeout now else r

/-- The relay inside MAIN. -/
def relay (s : Main) : Relay where
  ctr := s.com.rxUdpCtr
  collisionWarn := s.com.collisionWarn
  curMode := s.com.curMode
  safetyOverride := s.com.safetyOverride
  lastUdpRxTime := s.com.times.lastUdpRxTime

/-! ## Messages -/

/-- A DoIP message whose length field fits what was received. -/
def HeaderFits (payload : Payload) (length : Nat) : Prop :=
  8 ≤ length ∧ expectedPayloadLength payload = UInt32.ofNat (length - 8)

/-- A routing activation request from the tester. -/
def IsActivation (payload : Payload) (length : Nat) : Prop :=
  HeaderFits payload length ∧ payloadType payload = 0x0005 ∧ 15 ≤ length ∧
    sourceAddr payload = testerSourceAddress

/-- A diagnostic message from the tester to a known address. -/
def IsDiagnostic (payload : Payload) (length : Nat) : Prop :=
  HeaderFits payload length ∧ payloadType payload = 0x8001 ∧ 12 ≤ length ∧
    sourceAddr payload = testerSourceAddress ∧ doIPIsKnownTA (targetAddr payload) = true

instance (payload : Payload) (length : Nat) : Decidable (HeaderFits payload length) := by
  unfold HeaderFits; infer_instance

instance (payload : Payload) (length : Nat) : Decidable (IsActivation payload length) := by
  unfold IsActivation; infer_instance

instance (payload : Payload) (length : Nat) : Decidable (IsDiagnostic payload length) := by
  unfold IsDiagnostic; infer_instance

/-- Sample traffic.  Accelerate in gear D, steering left, ignition on. -/
def drivePacket : Pbuf := Pbuf.ofBytes [0, 1, 0, 1, 3, 0, 0, 1, 0] (by decide)

/-- A routing activation request from the tester. -/
def activationRequest : Pbuf :=
  Pbuf.ofBytes [0x02, 0xFD, 0x00, 0x05, 0, 0, 0, 7, 0x0E, 0x00, 0, 0, 0, 0, 0] (by decide)

/-- A diagnostic message from the tester to MAIN: extended session. -/
def sessionRequest : Pbuf :=
  Pbuf.ofBytes [0x02, 0xFD, 0x80, 0x01, 0, 0, 0, 6, 0x0E, 0x00, 0x00, 0x01, 0x10, 0x03]
    (by decide)

/-- Free CAN buffers and an empty send buffer (`TCP_SND_BUF`) at a given time. -/
def freeEnv (now : Nat) : Env where
  now := now
  canBusy := fun _ => false
  tcpSndbuf := fun _ => 1072
  tcpWriteFails := fun _ => false

/-- A control packet from the PC. -/
def control (p : Pbuf) : LwipCall := .udpRecv 5000 p ⟨192, 168, 10, 1⟩ 40000

/-! ## What a call means for the relay -/

/-- A received DoIP buffer. -/
def doipOps (p : Pbuf) : List RelayOp :=
  if IsActivation p.payload p.len then [.activated] else []

/-- A received datagram. -/
def udpOps (env : Env) (localPort : Nat) (p : Pbuf) : List RelayOp :=
  if localPort = 5000 then [.packet (udpCtrOfPayload p.payload) (UInt32.ofNat env.now)]
  else if localPort = 30492 then
    if IsBuzzerRequest p.payload p.len then [.buzzer (p.payload 17)] else []
  else if localPort = 13400 then doipOps p
  else []

/-- A callback of lwIP. -/
def lwipOps (env : Env) (registered : List Pcb) : LwipCall → List RelayOp
  | .udpRecv localPort p _ _ => udpOps env localPort p
  | .tcpRecv tpcb p _ => if tpcb ∈ registered then doipOps p else []
  | .tcpFin tpcb => if tpcb ∈ registered then [.deactivated] else []
  | .tcpAccept _ => []
  | .tcpErr _ => []

/-- A call. -/
def relayOps (s : Main) (e : MainEvent) : List RelayOp :=
  match e.call with
  | .lwip c => lwipOps e.env s.tcp.registered c
  | .comTimeOut => [.watch (UInt32.ofNat e.env.now)]
  | _ => []

/-! ## Command frames -/

/-- The 0x100 frame of a relay. -/
def actFrame (r : Relay) : CanMessage :=
  fdMessage 0x100 6
    [r.ctr.accel, r.ctr.steer, r.ctr.brake, r.ctr.gear, r.curMode, r.safetyOverride]

/-- The 0x110 frame of a relay. -/
def bodyFrame (r : Relay) : CanMessage :=
  fdMessage 0x110 6
    [r.ctr.headLight, r.ctr.turnSignal, r.ctr.brake, r.ctr.horn, r.collisionWarn, r.curMode]

/-- What ACT reads out of its frame. -/
def actCommand (r : Relay) : ActState.ActCommand where
  accelRaw := r.ctr.accel
  steeringRaw := r.ctr.steer
  brakeRaw := r.ctr.brake
  gearRaw := r.ctr.gear
  controlModeRaw := r.curMode
  safetyOverrideRaw := r.safetyOverride

/-- What BODY reads out of its frame. -/
def bodyCommand (r : Relay) : BodyState.BodyCommand where
  headlampRaw := r.ctr.headLight
  turnSignalRaw := r.ctr.turnSignal
  brakeLampRaw := r.ctr.brake
  hornRaw := r.ctr.horn
  collisionWarningRaw := r.collisionWarn
  controlModeRaw := r.curMode

theorem commandOfBytes_actFrame (r : Relay) :
    ActCan.commandOfBytes (rxByte (actFrame r)) = actCommand r := by
  rw [actFrame, rxByte_fdMessage]
  rfl

theorem commandOfBytes_bodyFrame (r : Relay) :
    BodyCan.commandOfBytes (rxByte (bodyFrame r)) = bodyCommand r := by
  rw [bodyFrame, rxByte_fdMessage]
  rfl

/-- **ACT takes the frame** exactly when the six bytes pass its checks. -/
theorem accepted_actFrame (r : Relay) :
    ActSpec.accepted (actFrame r) =
      if ActCan.actCanIsValidCommand (actCommand r) = true then some (actCommand r)
      else none := by
  rw [ActSpec.accepted, commandOfBytes_actFrame]
  by_cases h : ActCan.actCanIsValidCommand (actCommand r) = true
  · rw [if_pos h, if_pos ⟨rfl, rfl, rfl, h⟩]
  · rw [if_neg h, if_neg (fun hc => h hc.2.2.2)]

/-- **BODY takes the frame** exactly when the six bytes pass its checks. -/
theorem accepted_bodyFrame (r : Relay) :
    BodySpec.accepted (bodyFrame r) =
      if BodyCan.bodyCanIsValidCommand (bodyCommand r) = true then some (bodyCommand r)
      else none := by
  rw [BodySpec.accepted, commandOfBytes_bodyFrame]
  by_cases h : BodyCan.bodyCanIsValidCommand (bodyCommand r) = true
  · rw [if_pos h, if_pos ⟨rfl, rfl, h⟩]
  · rw [if_neg h, if_neg (fun hc => h hc.2.2)]

end MainSpec
