import RemoteVehicle.MediaDoip
import RemoteVehicle.MediaUds
import RemoteVehicle.StreamReader

/-!
# MEDIA DoIP sessions — `tcp_handler.py` with the configuration of `gateway.py`

One TCP connection: the loop of `DoIPTCPSession.run` reads a header and its payload and
answers.  The other sessions and the health monitor run while this one waits, for bytes or
for an acknowledgement to be sent; what they do is the environment, and a session never
changes another one.

A read is `none` where the stream ends inside it.  The alive checks that a timer sends are
left out: nothing that the loop does depends on them.
-/

namespace MediaTcp

open BigEndian MediaDoip MediaUds

/-! ## Configuration -/

/-- `MAX_PAYLOAD_SIZE`. -/
def maxPayloadSize : Nat := 0xFFFF

/-- The entries of `build_config` that a session reads. -/
structure Config where
  logicalAddress : UInt16
  allowedSourceAddresses : List UInt16
  maxTcpSessions : UInt8

/-- `build_config`. -/
def buildConfig : Config where
  logicalAddress := LogicalAddress.gatewayRPi2
  allowedSourceAddresses := [LogicalAddress.tester]
  maxTcpSessions := 8

/-! ## Sessions -/

/-- The part of `DoIPTCPSession` that its messages change. -/
structure Session where
  activated : Bool
  clientSa : Option UInt16
deriving DecidableEq, Repr

/-- `DoIPTCPSession.__init__`. -/
def Session.initial : Session := ⟨false, none⟩

/-- What a session shares with the rest of the gateway: the other entries of
    `server.sessions`, the trouble codes and the status. -/
structure Gateway where
  others : List Session
  dtcs : List DtcRow
  status : SystemStatus

/-- `len(self.server.sessions)`; there are never more than `maxTcpSessions`. -/
def Gateway.openSockets (g : Gateway) : UInt8 := UInt8.ofNat (g.others.length + 1)

/-- What the others do before a frame is answered, and while an acknowledgement is sent. -/
structure Interference where
  before : Gateway → Gateway
  acknowledging : Gateway → Gateway

/-- A connection; `answered` counts the frames that needed an answer. -/
structure Connection where
  session : Session
  gateway : Gateway
  answered : Nat

/-! ## Messages -/

/-- `_handle_routing_activation`: the answer, and the session after it. -/
def handleRoutingActivation (cfg : Config) (payload : List UInt8) (self : Session)
    (others : List Session) : List UInt8 × Session :=
  match parseRoutingActivationRequest payload with
  | none => (buildGenericNack GenericNackCode.invalidPayloadLength, self)
  | some req =>
      let sa := req.sourceAddress
      let serverLa := cfg.logicalAddress
      if cfg.allowedSourceAddresses ≠ [] ∧ sa ∉ cfg.allowedSourceAddresses then
        (buildRoutingActivationResponse sa serverLa RoutingActivationResponseCode.deniedUnknownSa,
          self)
      else if others.any fun sess => sess.clientSa == some sa && sess.activated then
        (buildRoutingActivationResponse sa serverLa
          RoutingActivationResponseCode.deniedSaAlreadyActive, self)
      else
        (buildRoutingActivationResponse sa serverLa RoutingActivationResponseCode.success,
          { activated := true, clientSa := some sa })

/-- `_handle_diagnostic` up to the acknowledgement: a refusal, or the acknowledgement of a
    message that is then handled. -/
def handleDiagnostic (payload : List UInt8) (self : Session) :
    Except (List UInt8) (List UInt8 × DiagnosticMessage) :=
  match parseDiagnosticMessage payload with
  | none => .error (buildGenericNack GenericNackCode.invalidPayloadLength)
  | some msg =>
      let sa := msg.sourceAddress
      let ta := msg.targetAddress
      if some sa ≠ self.clientSa then
        .error (buildDiagnosticNegativeAck sa ta DiagnosticNackCode.invalidSa (payload.take 5))
      else if ta ≠ LogicalAddress.gatewayRPi2 then
        .error (buildDiagnosticNegativeAck ta sa DiagnosticNackCode.unknownTa (payload.take 5))
      else .ok (buildDiagnosticPositiveAck ta sa 0x00 (payload.take 5), msg)

/-- The answer of `_dispatch` to a diagnostic message before routing activation. -/
def refuseDiagnostic (payload : List UInt8) : List UInt8 :=
  if 4 ≤ payload.length then
    let sa := addressAt payload 0
    let ta := addressAt payload 2
    buildDiagnosticNegativeAck sa ta DiagnosticNackCode.outOfMemory (payload.take 5)
  else buildGenericNack GenericNackCode.invalidPayloadLength

/-- `_handle_diagnostic` after the acknowledgement: the frame with the UDS response. -/
def answerDiagnostic (msg : DiagnosticMessage) (g : Gateway) : List UInt8 × Gateway :=
  let (responseUds, dtcs) := handle msg.userData g.status g.dtcs
  (buildFrame PayloadType.diagnosticMessage
      (digits 2 msg.targetAddress.toNat ++ digits 2 msg.sourceAddress.toNat ++ responseUds),
    { g with dtcs := dtcs })

/-- The answer to an entity status request. -/
def entityStatus (cfg : Config) (g : Gateway) : List UInt8 :=
  buildEntityStatusResponse NodeType.doipGateway cfg.maxTcpSessions g.openSockets maxPayloadSize

/-- `_dispatch`: the frames that are sent, and the connection after them. -/
def dispatch (env : Nat → Interference) (hdr : DoIPHeader) (payload : List UInt8)
    (c : Connection) : List (List UInt8) × Connection :=
  let pt := hdr.payloadType
  let g := (env c.answered).before c.gateway
  if pt = PayloadType.routingActivationRequest then
    let (frame, session) := handleRoutingActivation buildConfig payload c.session g.others
    ([frame], ⟨session, g, c.answered + 1⟩)
  else if pt = PayloadType.aliveCheckResponse then ([], c)
  else if pt = PayloadType.diagnosticMessage then
    if c.session.activated = false then
      ([refuseDiagnostic payload], ⟨c.session, g, c.answered + 1⟩)
    else
      match handleDiagnostic payload c.session with
      | .error frame => ([frame], ⟨c.session, g, c.answered + 1⟩)
      | .ok (ack, msg) =>
          let (frame, g) := answerDiagnostic msg ((env c.answered).acknowledging g)
          ([ack, frame], ⟨c.session, g, c.answered + 1⟩)
  else if pt = PayloadType.entityStatusRequest then
    ([entityStatus buildConfig g], ⟨c.session, g, c.answered + 1⟩)
  else
    ([buildGenericNack GenericNackCode.unknownPayloadType], ⟨c.session, g, c.answered + 1⟩)

/-! ## The receive loop -/

/-- `_read_exactly`. -/
def readExactly (n : Nat) (stream : List UInt8) : Option (List UInt8 × List UInt8) :=
  if stream.length < n then none else some (stream.take n, stream.drop n)

/-- One round of `run`: the frames that are sent, the connection, and the unread bytes; none
    where the loop is left. -/
def receive (env : Nat → Interference) (c : Connection) (stream : List UInt8) :
    Option (List (List UInt8) × Connection × List UInt8) :=
  match readExactly doipHeaderLen stream with
  | none => none
  | some (hdrBytes, rest) =>
      match parseFrame (hdrBytes ++ [0, 0, 0, 0]) with
      | .error _ => none
      | .ok (hdr, _) =>
          match hdr.isValid with
          | some nack => some ([buildGenericNack nack], c, rest)
          | none =>
              if maxPayloadSize < hdr.payloadLength.toNat then
                some ([buildGenericNack GenericNackCode.messageTooLarge], c, rest)
              else
                match readExactly hdr.payloadLength.toNat rest with
                | none => none
                | some (payload, rest) =>
                    let (sent, c) := dispatch env hdr payload c
                    some (sent, c, rest)

/-- `run`: everything that is sent until the loop is left. -/
def run (env : Nat → Interference) (c : Connection) (stream : List UInt8) : List (List UInt8) :=
  (StreamReader.runAll (receive env) c stream).1

end MediaTcp
