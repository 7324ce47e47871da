import RemoteVehicle.MainFrameProofs
import RemoteVehicle.UdsFrame

/-!
# The diagnostic tunnel

Between the tester and an ECU a diagnostic message is wrapped twice: in a DoIP message on
the Ethernet side and in a CAN single frame on the bus.  MAIN unwraps one and wraps the
other; the ECU's receive interrupt unpacks the frame, and its sender packs the response.

`uds_tunnel_round_trip` says that both directions are transparent: the ECU serves exactly
the bytes of the request, and the tester gets exactly the bytes of the response if `TcpSend`
has a connection and room for them.  The section before it has one lemma for each encoder,
and for each decoder the lemma that it undoes its peer.
-/

namespace UdsTunnel

open ActUdsDiag hiding word16
open ByteWords CanFrame ActState ActCan BodyState BodyUds BodyCan UdsFrame
open MainState MainTransmit MainDcm MainRouting MainDoip MainLoop MainSpec MainFrame

/-! ## The ends of the tunnel -/

/-- The two ECUs behind MAIN. -/
inductive Ecu where
  | act
  | body
deriving DecidableEq, Repr

/-- The DoIP address of an ECU. -/
def address : Ecu → UInt16
  | .act => 0x0010
  | .body => 0x0020

/-- The CAN identifiers of its requests and of its responses. -/
def requestId : Ecu → Nat
  | .act => 0x700
  | .body => 0x710

def responseId : Ecu → Nat
  | .act => 0x708
  | .body => 0x718

/-- The longest response it can send: ACT has a CAN FD frame of twelve bytes. -/
def maxResponse : Ecu → Nat
  | .act => 11
  | .body => 7

/-- The DoIP diagnostic message from `sa` to `ta` with this body. -/
structure DiagMessage (sa ta : UInt16) (body d : List UInt8) : Prop where
  version : d.take 2 = [0x02, 0xFD]
  length : d.length = 12 + body.length
  type : payloadType (ofList d) = 0x8001
  expected : (expectedPayloadLength (ofList d)).toNat = 4 + body.length
  source : sourceAddr (ofList d) = sa
  target : targetAddr (ofList d) = ta
  data : d.drop 12 = body

/-- After this frame the ECU has a request pending, and what its dispatcher reads out of it
    is `req`. -/
def RequestArrives : Ecu → CanMessage → List UInt8 → Prop
  | .act, m, req => ∀ a : Act,
      (actCanRxIsrHandler m a).uds.reqPending = true ∧
        requestOf (actCanRxIsrHandler m a).uds.reqData = some req
  | .body, m, req => ∀ b : Body,
      (bodyCanRxIsrHandler m b).can.udsRequestUpdated = true ∧
        requestOf (bodyCanRxIsrHandler m b).can.udsRequestByte = some req

/-- The response leaves the ECU as this frame. -/
def ResponseLeaves : Ecu → List UInt8 → CanMessage → Prop
  | .act, resp, m => ∀ a : Act, ∃ buffer,
      (udsDiagSendSingleFrame false resp a).sent = a.sent ++ [(buffer, m)]
  | .body, resp, m => ∀ b : Body, ∃ buffer,
      (sendUdsPayload false resp b).sent = b.sent ++ [(buffer, m)]

/-- What MAIN's CAN driver reads from its FIFO after this frame; past the length of the
    frame the buffer holds anything. -/
structure ReadFrom (m : CanMessage) (r : CanRx) : Prop where
  messageId : r.messageId = m.messageId
  dataLengthCode : r.dataLengthCode = m.dataLengthCode
  data : ∀ i < canGetLength m.dataLengthCode, r.messageData i = (frameBytes m).getD i 0

/-! ## DoIP messages -/

/-- The checks of `DoIP_ProcessRx` on a message from the tester to an ECU. -/
theorem isDiagnostic {p : Pbuf} {ecu : Ecu} {req : List UInt8}
    (h : DiagMessage testerSourceAddress (address ecu) req p.bytes) :
    IsDiagnostic p.payload p.len ∧ targetAddr p.payload = address ecu ∧
      sourceAddr p.payload = testerSourceAddress ∧
      bytesOf (offset p.payload 12) (p.len - 12) = req := by
  have hlen : p.len = 12 + req.length := by rw [← h.length, Pbuf.bytes_length]
  have hbyte : ∀ i < 12, ofList p.bytes i = p.payload i :=
    fun i hi => p.ofList_bytes (by omega)
  have htype : payloadType p.payload = 0x8001 := by
    rw [← h.type, payloadType, payloadType, hbyte 2 (by decide), hbyte 3 (by decide)]
  have hexpected : (expectedPayloadLength p.payload).toNat = p.len - 8 := by
    have hle : p.len - 8 = 4 + req.length := by omega
    rw [hle, ← h.expected, expectedPayloadLength, expectedPayloadLength,
      hbyte 4 (by decide), hbyte 5 (by decide), hbyte 6 (by decide), hbyte 7 (by decide)]
  have hsource : sourceAddr p.payload = testerSourceAddress := by
    rw [← h.source, sourceAddr, sourceAddr, hbyte 8 (by decide), hbyte 9 (by decide)]
  have htarget : targetAddr p.payload = address ecu := by
    rw [← h.target, targetAddr, targetAddr, hbyte 10 (by decide), hbyte 11 (by decide)]
  have hknown : doIPIsKnownTA (address ecu) = true := by cases ecu <;> rfl
  refine ⟨⟨⟨by omega, ?_⟩, htype, by omega, hsource, ?_⟩, htarget, hsource, ?_⟩
  · rw [← UInt32.toNat_inj, hexpected, UInt32.toNat_ofNat']
    have hlt := p.len_lt
    omega
  · rw [htarget, hknown]
  · rw [bytesOf_offset]
    exact h.data

/-- The message `DoIP_ProcessTx` builds. -/
def doipMessage (sa : UInt16) (body : List UInt8) : List UInt8 :=
  doIPTxHeader sa body.length ++ body

theorem diagMessage_doipMessage {sa : UInt16} {body : List UInt8} (hlen : body.length ≤ 15) :
    DiagMessage sa testerSourceAddress body (doipMessage sa body) where
  version := rfl
  length := by simp [doipMessage, doIPTxHeader]; omega
  type := by
    show word16 0x80 0x01 = 0x8001
    decide
  expected := by
    have hlengths : ∀ n < 16, (packWord ((UInt32.ofNat (4 + n)) &&& 0xFF).toUInt8
        ((UInt32.ofNat (4 + n)) >>> 8).toUInt8 ((UInt32.ofNat (4 + n)) >>> 16).toUInt8
        ((UInt32.ofNat (4 + n)) >>> 24).toUInt8).toNat = 4 + n := by decide
    exact hlengths body.length (by omega)
  source := word16_highByte_lowByte sa
  target := word16_highByte_lowByte testerSourceAddress
  data := rfl

/-- `DoIP_ProcessTx` hands this message to the connection, if there is one that takes it. -/
theorem doIPProcessTx_message {sa : UInt16} {udsData : Payload} {udsLength : Nat}
    (hlen : udsLength ≤ 1012) (s : Main) :
    doIPProcessTx sa udsData udsLength s =
      s.write (doipMessage sa (bytesOf udsData udsLength)) := by
  have htotal : (8 + (4 + udsLength)) % 65536 = 8 + (4 + udsLength) := Nat.mod_eq_of_lt (by omega)
  have hbytes : bytesOf (ofList (doipMessage sa (bytesOf udsData udsLength)))
      (8 + (4 + udsLength)) = doipMessage sa (bytesOf udsData udsLength) := by
    have hlength : 8 + (4 + udsLength) = (doipMessage sa (bytesOf udsData udsLength)).length := by
      simp [doipMessage, doIPTxHeader]
      omega
    rw [hlength, bytesOf_ofList]
  have hheader : doIPTxHeader sa udsLength ++ bytesOf udsData udsLength =
      doipMessage sa (bytesOf udsData udsLength) := by
    rw [doipMessage, bytesOf_length]
  simp only [doIPProcessTx, htotal, hheader]
  rw [if_neg (by omega)]
  show tcpSend _ _ s = _
  rw [tcpSend_eq _ (by omega), hbytes]

/-- A response of MAIN's own server. -/
theorem respond_message {resp : List UInt8} (hlen : resp.length ≤ 1012) (s : Main) :
    respond resp s = s.write (doipMessage 0x0001 resp) := by
  rw [respond, doIPProcessTx_message hlen, bytesOf_ofList]

/-! ## MAIN to ECU -/

/-- `CanTp_Transmit` on a free buffer: a padded single frame. -/
theorem canTpTransmit_free {canId udsLength : Nat} {udsData : Payload} {s : Main}
    (hid : canId = 0x700 ∨ canId = 0x710) (hpos : 1 ≤ udsLength) (hlen : udsLength ≤ 7)
    (hfree : s.env.canBusy canId = false) :
    canTpTransmit canId udsData udsLength s =
      s.emit (.can (fdMessage canId 8
        (singleFrame (bytesOf udsData udsLength) ++ List.replicate (7 - udsLength) 0))) := by
  have hframe : (singleFrame (bytesOf udsData udsLength) ++
      List.replicate (7 - udsLength) 0).length = 8 := by
    simp [singleFrame]
    omega
  have hsingle : (UInt8.ofNat udsLength &&& 0x0F) :: bytesOf udsData udsLength =
      singleFrame (bytesOf udsData udsLength) := by
    rw [singleFrame, bytesOf_length]
  rw [canTpTransmit, if_neg (by omega)]
  simp only [hsingle]
  rw [canIfTransmit_free (by omega) (by decide) hfree]
  have hbytes := bytesOf_ofList
    (singleFrame (bytesOf udsData udsLength) ++ List.replicate (7 - udsLength) 0)
  rw [hframe] at hbytes
  rw [hbytes]

/-- The ECU's receive interrupt takes such a frame. -/
theorem requestArrives (ecu : Ecu) {req pad : List UInt8} (hpos : 1 ≤ req.length)
    (hlen : req.length ≤ 7) (hframe : (singleFrame req ++ pad).length = 8) :
    RequestArrives ecu (fdMessage (requestId ecu) 8 (singleFrame req ++ pad)) req := by
  have hne : req ≠ [] := List.ne_nil_of_length_pos hpos
  have hreq := requestOf_singleFrame (toList_rxByte (requestId ecu) 8 hframe) hne hlen
  cases ecu with
  | act => exact fun a => ⟨rfl, hreq⟩
  | body => exact fun b => ⟨rfl, hreq⟩

/-! ## ECU to MAIN -/

/-- The frame of a response: ACT switches to twelve bytes when eight are not enough, BODY
    sends without bit rate switching. -/
def responseFrame : Ecu → List UInt8 → CanMessage
  | .act, resp =>
      fdMessage 0x708 (if resp.length ≤ 7 then 8 else ifxCanDataLengthCode12) (singleFrame resp)
  | .body, resp => { fdMessage 0x718 8 (singleFrame resp) with frameMode := .fdLong }

theorem responseLeaves (ecu : Ecu) {resp : List UInt8} (hpos : 1 ≤ resp.length)
    (hlen : resp.length ≤ maxResponse ecu) : ResponseLeaves ecu resp (responseFrame ecu resp) := by
  cases ecu with
  | act =>
      intro a
      have hfits : ¬ (resp.length = 0 ∨ udsSingleFrameMaxPayload < resp.length) := by
        show ¬ (resp.length = 0 ∨ 11 < resp.length)
        have hlen : resp.length ≤ 11 := hlen
        omega
      refine ⟨a.uds.udsTxBufferIndex, ?_⟩
      simp only [udsDiagSendSingleFrame]
      rw [if_neg hfits]
      rfl
  | body =>
      intro b
      have hfits : ¬ (resp.length = 0 ∨ udsSfMaxPayloadBytes < resp.length) := by
        show ¬ (resp.length = 0 ∨ 7 < resp.length)
        have hlen : resp.length ≤ 7 := hlen
        omega
      refine ⟨b.can.txBufferIndex, ?_⟩
      rw [sendUdsPayload, if_neg hfits]
      rfl

/-- The memory of a response frame, and its length. -/
theorem frameBytes_response (ecu : Ecu) (resp : List UInt8) {i : Nat} (h : i < 12) :
    (frameBytes (responseFrame ecu resp)).getD i 0 = (singleFrame resp).getD i 0 := by
  cases ecu with
  | act => exact frameBytes_fdMessage _ _ _ h
  | body => exact frameBytes_fdMessage 0x718 8 (singleFrame resp) h

theorem responseFrame_length (ecu : Ecu) {resp : List UInt8}
    (hlen : resp.length ≤ maxResponse ecu) :
    resp.length < canGetLength (responseFrame ecu resp).dataLengthCode ∧
      canGetLength (responseFrame ecu resp).dataLengthCode ≤ 12 := by
  cases ecu with
  | act =>
      have hlen : resp.length ≤ 11 := hlen
      show resp.length < canGetLength (if resp.length ≤ 7 then 8 else ifxCanDataLengthCode12) ∧ _
      by_cases h : resp.length ≤ 7
      · rw [if_pos h]
        exact ⟨by show resp.length < 8; omega, by simp [responseFrame, fdMessage, h, canGetLength]⟩
      · rw [if_neg h]
        exact ⟨by show resp.length < 12; omega,
          by simp [responseFrame, fdMessage, h, canGetLength, ifxCanDataLengthCode12]⟩
  | body =>
      have hlen : resp.length ≤ 7 := hlen
      exact ⟨by show resp.length < 8; omega, by show canGetLength 8 ≤ 12; decide⟩

/-- What `CanTp_RxIndication` hands on. -/
theorem canTpRxIndication_response (ecu : Ecu) {payload : Payload} {length udsLength : Nat}
    (hlen : udsLength < length) (hsmall : udsLength < 16)
    (hpci : payload 0 = UInt8.ofNat udsLength &&& 0x0F) (s : Main) :
    canTpRxIndication (responseId ecu) payload length s =
      doIPProcessTx (address ecu) (offset payload 1) udsLength s := by
  have hpci16 : ∀ n < 16, ((UInt8.ofNat n &&& 0x0F) &&& 0xF0) >>> 4 = 0x00 ∧
      ((UInt8.ofNat n &&& 0x0F) &&& 0x0F).toNat = n := by decide
  obtain ⟨htype, hnibble⟩ := hpci16 udsLength hsmall
  rw [canTpRxIndication, if_neg (by omega)]
  simp only [hpci, htype, hnibble, if_true]
  rw [if_neg (by omega)]
  cases ecu <;> rfl

/-- **A response frame becomes a DoIP message.** -/
theorem canReadMessage_response (ecu : Ecu) {resp : List UInt8}
    (hlen : resp.length ≤ maxResponse ecu) {r : CanRx}
    (hr : ReadFrom (responseFrame ecu resp) r) (s : Main) :
    canReadMessage r.messageId r.dataLengthCode r.messageData s =
      s.write (doipMessage (address ecu) resp) := by
  obtain ⟨hfits, htwelve⟩ := responseFrame_length ecu hlen
  have hbyte : ∀ i ≤ resp.length, r.messageData i = (singleFrame resp).getD i 0 := by
    intro i hi
    rw [hr.data i (by omega), frameBytes_response ecu resp (by omega)]
  -- the payload starts behind the length byte
  have hdata : bytesOf (offset r.messageData 1) resp.length = resp := by
    apply List.ext_getElem
    · simp
    · intro i hi hb
      have hi := hbyte (1 + i) (by omega)
      simp only [bytesOf, List.getElem_map, List.getElem_range, offset]
      rw [hi, Nat.add_comm]
      show resp.getD i 0 = resp[i]
      exact List.getD_eq_getElem resp 0 hb
  have hid : r.messageId = responseId ecu := by
    rw [hr.messageId]
    cases ecu <;> rfl
  have htp : canIfRxIndication (responseId ecu) = canTpRxIndication (responseId ecu) := by
    cases ecu <;> rfl
  rw [canReadMessage, hid, htp, hr.dataLengthCode,
    canTpRxIndication_response ecu hfits (by omega) (hbyte 0 (Nat.zero_le _)),
    doIPProcessTx_message (by omega), hdata]

/-! ## The law -/

/-- **THE TUNNEL IS TRANSPARENT.**  A request in a DoIP message from the tester reaches the
    ECU, byte for byte, in exactly one frame.  A response of the ECU reaches the tester's
    connection, byte for byte, in exactly one DoIP message, if there is a connection and lwIP
    takes the message; otherwise nothing leaves. -/
theorem uds_tunnel_round_trip (ecu : Ecu) :
    (∀ (p : Pbuf) (req : List UInt8) (s : Main), 1 ≤ req.length → req.length ≤ 7 →
      DiagMessage testerSourceAddress (address ecu) req p.bytes →
      s.env.canBusy (requestId ecu) = false →
      ∃ m, doIPProcessRx p.payload p.len s =
          (doIPSendDiagAck doipPort (address ecu) testerSourceAddress 0x00 s).emit (.can m) ∧
        RequestArrives ecu m req) ∧
    (∀ resp : List UInt8, 1 ≤ resp.length → resp.length ≤ maxResponse ecu →
      ∃ m msg, ResponseLeaves ecu resp m ∧
        DiagMessage (address ecu) testerSourceAddress resp msg ∧
        ∀ (r : CanRx) (s : Main), ReadFrom m r →
          (∀ pcb, s.tcp.activePcb = some pcb → s.env.Takes msg →
            canReadMessage r.messageId r.dataLengthCode r.messageData s =
              s.emit (.tcp pcb msg)) ∧
          (s.tcp.activePcb = none ∨ ¬ s.env.Takes msg →
            canReadMessage r.messageId r.dataLengthCode r.messageData s = s)) := by
  refine ⟨?_, ?_⟩
  · -- down to the node: acknowledged, then one frame
    intro p req s hpos hlen hmsg hfree
    obtain ⟨hdiag, htarget, hsource, hreq⟩ := isDiagnostic hmsg
    have hudsLen : p.len - 12 = req.length := by rw [← hreq, bytesOf_length]
    have hack := transmitArray_emits [0x02, 0xFD, 0x80, 0x02, 0x00, 0x00, 0x00, 0x05,
      highByte (address ecu), lowByte (address ecu), highByte testerSourceAddress,
      lowByte testerSourceAddress, 0x00] s
    have hbusy : (doIPSendDiagAck doipPort (address ecu) testerSourceAddress 0x00 s).env.canBusy
        (requestId ecu) = false := by
      rw [doIPSendDiagAck, hack.env, hfree]
    have hroute : routeDiagnostic (address ecu) = canTpTransmit (requestId ecu) := by
      cases ecu <;> rfl
    have hid : requestId ecu = 0x700 ∨ requestId ecu = 0x710 := by cases ecu <;> simp [requestId]
    have hframe : (singleFrame req ++ List.replicate (7 - req.length) 0).length = 8 := by
      simp [singleFrame]
      omega
    refine ⟨_, ?_, requestArrives ecu hpos hlen hframe⟩
    rw [doIPProcessRx_diagnostic hdiag, htarget, hsource, hroute,
      canTpTransmit_free hid (by omega) (by omega) hbusy, hreq, hudsLen]
  · -- and back: one frame, then one message
    intro resp hpos hlen
    have hmax : maxResponse ecu ≤ 11 := by cases ecu <;> decide
    refine ⟨responseFrame ecu resp, doipMessage (address ecu) resp, responseLeaves ecu hpos hlen,
      diagMessage_doipMessage (by omega), ?_⟩
    intro r s hr
    rw [canReadMessage_response ecu hlen hr s]
    constructor
    · intro pcb hpcb htakes
      exact write_taken (taker_some.mpr ⟨htakes, hpcb⟩)
    · rintro (hclosed | hfull)
      · exact write_refused (taker_closed hclosed)
      · exact write_refused (if_neg hfull)

/-- A session request for ACT, and the eleven bytes of its trouble code report. -/
def actSessionRequest : Pbuf :=
  Pbuf.ofBytes [0x02, 0xFD, 0x80, 0x01, 0, 0, 0, 6, 0x0E, 0x00, 0x00, 0x10, 0x10, 0x03]
    (by decide)

def troubleReport : List UInt8 := [0x59, 0x0A, 0x09, 0xC1, 0, 0, 0, 0xC1, 0x01, 0, 0]

/-- MAIN with a tester on a connection. -/
def testerOn (pcb : Pcb) : Main :=
  { mainReset with tcp := { activePcb := some pcb, registered := [pcb] } }

/-- Both ways of the tunnel. -/
theorem uds_tunnel_round_trip_session :
    (∃ m, doIPProcessRx actSessionRequest.payload actSessionRequest.len mainReset =
        (doIPSendDiagAck doipPort 0x0010 testerSourceAddress 0x00 mainReset).emit (.can m) ∧
      RequestArrives .act m [0x10, 0x03]) ∧
    ∃ m msg, ResponseLeaves .act troubleReport m ∧
      DiagMessage 0x0010 testerSourceAddress troubleReport msg ∧
      ∀ r, ReadFrom m r →
        canReadMessage r.messageId r.dataLengthCode r.messageData (testerOn 7) =
            (testerOn 7).emit (.tcp 7 msg) ∧
          canReadMessage r.messageId r.dataLengthCode r.messageData mainReset = mainReset := by
  have htunnel := uds_tunnel_round_trip .act
  constructor
  · refine htunnel.1 actSessionRequest [0x10, 0x03] mainReset (by decide) (by decide) ?_ rfl
    exact ⟨by decide, by decide, by decide, by decide, by decide, by decide, by decide⟩
  · obtain ⟨m, msg, hleaves, hmsg, hread⟩ := htunnel.2 troubleReport (by decide) (by decide)
    refine ⟨m, msg, hleaves, hmsg, fun r hr => ⟨?_, (hread r mainReset hr).2 (Or.inl rfl)⟩⟩
    refine (hread r (testerOn 7) hr).1 7 rfl ⟨?_, rfl⟩
    rw [hmsg.length]
    exact (by decide : 12 + troubleReport.length ≤ 1072)

/-! ## A response that is lost -/

/-- Every response arrives, whatever MAIN's connection does. -/
def AlwaysArrives : Prop :=
  ∀ (ecu : Ecu) (resp : List UInt8) (m : CanMessage) (r : CanRx) (s : Main), 1 ≤ resp.length →
    resp.length ≤ maxResponse ecu → ResponseLeaves ecu resp m → ReadFrom m r →
    ∃ pcb msg, DiagMessage (address ecu) testerSourceAddress resp msg ∧
      (canReadMessage r.messageId r.dataLengthCode r.messageData s).out = s.out ++ [.tcp pcb msg]

/-- The report as MAIN reads it from its FIFO. -/
def reportRead : CanRx where
  messageId := 0x708
  dataLengthCode := ifxCanDataLengthCode12
  messageData := ofList (singleFrame troubleReport)

/-- A tester whose connection has no send space. -/
def testerFull : Main :=
  { testerOn 7 with env := { mainReset.env with tcpSndbuf := fun _ => 0 } }

/-- **The lost response.**  ACT's report after reset, with no connection, and on a connection
    whose send buffer is full: nothing leaves. -/
theorem always_arrives_fails :
    ¬ AlwaysArrives ∧
    (canReadMessage reportRead.messageId reportRead.dataLengthCode reportRead.messageData
      mainReset).out = [] ∧
    (canReadMessage reportRead.messageId reportRead.dataLengthCode reportRead.messageData
      testerFull).out = [] := by
  have hread : ReadFrom (responseFrame .act troubleReport) reportRead := by
    refine ⟨rfl, rfl, fun i hi => ?_⟩
    exact (frameBytes_response .act troubleReport hi).symm
  have hlen : troubleReport.length ≤ maxResponse .act := by decide
  have hclosed : canReadMessage reportRead.messageId reportRead.dataLengthCode
      reportRead.messageData mainReset = mainReset := by
    rw [canReadMessage_response .act hlen hread, write_refused (taker_closed rfl)]
  have hfull : canReadMessage reportRead.messageId reportRead.dataLengthCode
      reportRead.messageData testerFull = testerFull := by
    rw [canReadMessage_response .act hlen hread]
    exact write_refused (if_neg (by decide))
  refine ⟨?_, by rw [hclosed]; rfl, by rw [hfull]; rfl⟩
  intro h
  obtain ⟨pcb, msg, -, hout⟩ := h .act troubleReport _ reportRead mainReset (by decide) hlen
    (responseLeaves .act (by decide) hlen) hread
  rw [hclosed] at hout
  exact absurd hout (by simp [mainReset])

end UdsTunnel
