import RemoteVehicle.MainState

/-!
# MAIN transmission — from the routing table down to the drivers

The sending halves of `candrv.c`, `canif.c`, `cantp.c`, `tcp_txrx.c`, `udp_txrx.c`,
`soad.c` and `doip.c`, and the table of `PduR_RouteTx`.  None of them changes a static
variable: each one emits, and its lemma says what kind of output that can be.
-/

namespace MainTransmit

open ByteWords CanFrame MainState

/-! ## CAN -/

/-- `Can_GetDlc`. -/
def canGetDlc (length : Nat) : Nat :=
  if length ≤ 8 then length
  else if length ≤ 12 then 9
  else if length ≤ 16 then 10
  else if length ≤ 20 then 11
  else if length ≤ 24 then 12
  else if length ≤ 32 then 13
  else if length ≤ 48 then 14
  else 15

/-- `Can_Send`; a busy transmit buffer takes nothing.  No caller sends more than eight
    bytes. -/
def canSend (canId : Nat) (data : Payload) (length : Nat) (s : Main) : Main :=
  if 64 < length then s
  else if canId = 0x100 ∨ canId = 0x700 ∨ canId = 0x110 ∨ canId = 0x710 then
    if s.env.canBusy canId then s
    else s.emit (.can (fdMessage canId (canGetDlc length) (bytesOf data length)))
  else s

/-- `CanIf_Transmit`. -/
def canIfTransmit (canId : Nat) (payload : Payload) (length : Nat) (s : Main) : Main :=
  if 64 < length then s else canSend canId payload length s

/-- `CanTp_Transmit`: a single frame, padded with zeros to eight bytes. -/
def canTpTransmit (canId : Nat) (udsData : Payload) (udsLength : Nat) (s : Main) : Main :=
  if udsLength = 0 ∨ 7 < udsLength then s
  else
    let canPayload := (UInt8.ofNat udsLength &&& 0x0F) :: bytesOf udsData udsLength ++
      List.replicate (7 - udsLength) 0
    canIfTransmit canId (ofList canPayload) 8 s

/-- A message on the CAN bus with this identifier. -/
def IsCan (canId : Nat) (o : Out) : Prop := ∃ m, o = .can m ∧ m.messageId = canId

theorem canSend_emits (canId : Nat) (data : Payload) (length : Nat) (s : Main) :
    Emits (IsCan canId) s (canSend canId data length s) := by
  rw [canSend]
  split
  · exact Emits.refl _ s
  · split
    · split
      · exact Emits.refl _ s
      · exact Emits.one ⟨_, rfl, rfl⟩
    · exact Emits.refl _ s

theorem canIfTransmit_emits (canId : Nat) (payload : Payload) (length : Nat) (s : Main) :
    Emits (IsCan canId) s (canIfTransmit canId payload length s) := by
  rw [canIfTransmit]
  split
  · exact Emits.refl _ s
  · exact canSend_emits canId payload length s

theorem canTpTransmit_emits (canId : Nat) (udsData : Payload) (udsLength : Nat) (s : Main) :
    Emits (IsCan canId) s (canTpTransmit canId udsData udsLength s) := by
  rw [canTpTransmit]
  split
  · exact Emits.refl _ s
  · exact canIfTransmit_emits canId _ 8 s

/-- What a short message on a free buffer puts on the bus. -/
theorem canIfTransmit_free {canId length : Nat} {payload : Payload} {s : Main}
    (hid : canId = 0x100 ∨ canId = 0x700 ∨ canId = 0x110 ∨ canId = 0x710)
    (hlen : length ≤ 8) (hfree : s.env.canBusy canId = false) :
    canIfTransmit canId payload length s =
      s.emit (.can (fdMessage canId length (bytesOf payload length))) := by
  have hdlc : canGetDlc length = length := if_pos hlen
  rw [canIfTransmit, if_neg (by omega), canSend, if_neg (by omega), if_pos hid, hdlc]
  rw [if_neg (by simp [hfree])]

theorem canIfTransmit_busy {canId length : Nat} {payload : Payload} {s : Main}
    (hbusy : s.env.canBusy canId = true) : canIfTransmit canId payload length s = s := by
  simp [canIfTransmit, canSend, hbusy]

/-! ## Ethernet -/

/-- `TcpSend`: only while a connection is active, and what its send buffer has room for.  No
    caller passes a null pointer, or looks at the returned error. -/
def tcpSend (data : Payload) (len : Nat) (s : Main) : Main :=
  match s.tcp.activePcb with
  | none => s
  | some pcb =>
      if len = 0 then s
      else if s.env.tcpSndbuf (bytesOf data len) < len then s
      else if s.env.tcpWriteFails (bytesOf data len) then s
      else s.emit (.tcp pcb (bytesOf data len))

/-- **What `TcpSend` does**: it writes the bytes to the connection that takes them. -/
theorem tcpSend_eq (data : Payload) {len : Nat} (hlen : len ≠ 0) (s : Main) :
    tcpSend data len s = s.write (bytesOf data len) := by
  rcases hpcb : s.tcp.activePcb with _ | pcb
  · rw [write_refused (taker_closed hpcb)]
    simp only [tcpSend, hpcb]
  · simp only [tcpSend, hpcb, if_neg hlen]
    by_cases hroom : s.env.tcpSndbuf (bytesOf data len) < len
    · have hno : s.taker (bytesOf data len) = none := by
        refine if_neg fun htakes => ?_
        exact absurd htakes.1 (by rw [bytesOf_length]; exact Nat.not_le_of_lt hroom)
      rw [if_pos hroom, write_refused hno]
    · by_cases hfails : s.env.tcpWriteFails (bytesOf data len) = true
      · have hno : s.taker (bytesOf data len) = none :=
          if_neg fun htakes => ne_false_of_eq_true hfails htakes.2
        rw [if_neg hroom, if_pos hfails, write_refused hno]
      · have htakes : s.env.Takes (bytesOf data len) := by
          refine ⟨?_, Bool.eq_false_of_not_eq_true hfails⟩
          rw [bytesOf_length]
          exact Nat.le_of_not_lt hroom
        rw [if_neg hroom, if_neg hfails, write_taken (taker_some.mpr ⟨htakes, hpcb⟩)]

/-- `UdpSend_WithPcb`. -/
def udpSendWithPcb (addr : IpAddr) (port : Nat) (data : Payload) (len : Nat) (s : Main) : Main :=
  if len = 0 then s else s.emit (.udp addr port (bytesOf data len))

/-- `UdpSendToPC`, to the address of the last packet from the PC. -/
def udpSendToPC (port : Nat) (data : Payload) (len : Nat) (s : Main) : Main :=
  udpSendWithPcb s.udp.pcip port data len s

/-- `UdpSendToRPi`, to a fixed address. -/
def udpSendToRPi (port : Nat) (data : Payload) (len : Nat) (s : Main) : Main :=
  udpSendWithPcb ⟨192, 168, 20, 2⟩ port data len s

/-- `UdpSendSomeIpResponse`, to the port of the last request. -/
def udpSendSomeIpResponse (data : Payload) (len : Nat) (s : Main) : Main :=
  udpSendWithPcb s.udp.pcip s.udp.someipPort data len s

/-- `SoAd_IfTransmit`. -/
def soAdIfTransmit (port : Nat) (payload : Payload) (length : Nat) (s : Main) : Main :=
  if port = 13400 then tcpSend payload length s
  else if port = 5001 then udpSendToPC 5001 payload length s
  else if port = 5002 then udpSendToRPi 5002 payload length s
  else if port = 30492 then udpSendSomeIpResponse payload length s
  else s

/-- `TESTER_SOURCE_ADDRESS`. -/
def testerSourceAddress : UInt16 := 0x0E00

/-- The twelve bytes before the UDS data of a diagnostic message to the tester. -/
def doIPTxHeader (sourceAddr : UInt16) (udsLength : Nat) : List UInt8 :=
  let doipPayloadLength := UInt32.ofNat (4 + udsLength)
  [0x02, 0xFD, 0x80, 0x01,
   (doipPayloadLength >>> 24).toUInt8, (doipPayloadLength >>> 16).toUInt8,
   (doipPayloadLength >>> 8).toUInt8, (doipPayloadLength &&& 0xFF).toUInt8,
   highByte sourceAddr, lowByte sourceAddr,
   highByte testerSourceAddress, lowByte testerSourceAddress]

/-- `DoIP_ProcessTx`; `totalTcpLength` is a `uint16_t`. -/
def doIPProcessTx (sourceAddr : UInt16) (udsData : Payload) (udsLength : Nat) (s : Main) : Main :=
  let totalTcpLength := (8 + (4 + udsLength)) % 65536
  if 1024 < totalTcpLength then s
  else
    let txBuf := doIPTxHeader sourceAddr udsLength ++ bytesOf udsData udsLength
    soAdIfTransmit 13400 (ofList txBuf) totalTcpLength s

/-- Data written to a connection, a datagram. -/
def IsTcp (o : Out) : Prop := ∃ pcb data, o = .tcp pcb data
def IsUdp (o : Out) : Prop := ∃ addr port data, o = .udp addr port data

theorem tcpSend_emits (data : Payload) (len : Nat) (s : Main) :
    Emits IsTcp s (tcpSend data len s) := by
  by_cases hlen : len = 0
  · simp only [tcpSend, if_pos hlen]
    split <;> exact Emits.refl _ s
  · rw [tcpSend_eq data hlen]
    exact Emits.write fun pcb => ⟨pcb, _, rfl⟩

theorem udpSendWithPcb_emits (addr : IpAddr) (port : Nat) (data : Payload) (len : Nat)
    (s : Main) : Emits IsUdp s (udpSendWithPcb addr port data len s) := by
  rw [udpSendWithPcb]
  split
  · exact Emits.refl _ s
  · exact Emits.one ⟨_, _, _, rfl⟩

theorem soAdIfTransmit_tcp (payload : Payload) (length : Nat) (s : Main) :
    Emits IsTcp s (soAdIfTransmit 13400 payload length s) := tcpSend_emits payload length s

/-- Every other port is a UDP port, or nothing. -/
theorem soAdIfTransmit_udp {port : Nat} (hport : port ≠ 13400) (payload : Payload)
    (length : Nat) (s : Main) : Emits IsUdp s (soAdIfTransmit port payload length s) := by
  rw [soAdIfTransmit, if_neg hport]
  split
  · exact udpSendWithPcb_emits _ _ payload length s
  · split
    · exact udpSendWithPcb_emits _ _ payload length s
    · split
      · exact udpSendWithPcb_emits _ _ payload length s
      · exact Emits.refl _ s

theorem doIPProcessTx_emits (sourceAddr : UInt16) (udsData : Payload) (udsLength : Nat)
    (s : Main) : Emits IsTcp s (doIPProcessTx sourceAddr udsData udsLength s) := by
  simp only [doIPProcessTx]
  split
  · exact Emits.refl _ s
  · exact soAdIfTransmit_tcp _ _ s

/-! ## Routing table — `PduR_RouteTx` -/

/-- `PDUR_TX_*`. -/
def pdurTxCanActId : Nat := 0xA1
def pdurTxCanBodyId : Nat := 0xA2
def pdurTxUdpStatId : Nat := 0xB1
def pdurTxUdpSomeip : Nat := 0xC1

/-- A handler of a routing table. -/
abbrev Handler := Payload → Nat → Main → Main

/-- `PduR_Tx_RoutingTable`. -/
def pduRTxRoutingTable : List (Nat × Handler) :=
  [(pdurTxCanActId, canIfTransmit 0x100), (pdurTxCanBodyId, canIfTransmit 0x110),
   (pdurTxUdpStatId, soAdIfTransmit 5001), (pdurTxUdpSomeip, soAdIfTransmit 30492)]

/-- The handler of the first matching entry; without one nothing happens. -/
def route (table : List (Nat × Handler)) (pduId : Nat) : Handler :=
  fun payload length s =>
    match table.lookup pduId with
    | some targetFunc => targetFunc payload length s
    | none => s

/-- `PduR_RouteTx`. -/
def pduRRouteTx (txPduId : Nat) : Handler := route pduRTxRoutingTable txPduId

@[simp] theorem pduRRouteTx_act : pduRRouteTx pdurTxCanActId = canIfTransmit 0x100 := rfl
@[simp] theorem pduRRouteTx_body : pduRRouteTx pdurTxCanBodyId = canIfTransmit 0x110 := rfl
@[simp] theorem pduRRouteTx_stat : pduRRouteTx pdurTxUdpStatId = soAdIfTransmit 5001 := rfl
@[simp] theorem pduRRouteTx_someip : pduRRouteTx pdurTxUdpSomeip = soAdIfTransmit 30492 := rfl

end MainTransmit
