import RemoteVehicle.BigEndian

/-!
# MEDIA DoIP frames — `constants.py`, `header.py` and `messages.py`

The generic header, and the builders and parsers of the messages that a TCP session
exchanges.  `struct` packs the high byte first.  A payload of `2^32` bytes and more, which
no builder makes, has no header.
-/

namespace MediaDoip

open BigEndian

/-! ## Constants -/

/-- `DOIP_PROTOCOL_VERSION`, `DOIP_PROTOCOL_VERSION_INV`, `DOIP_HEADER_LEN`. -/
def doipProtocolVersion : UInt8 := 0x02
def doipProtocolVersionInv : UInt8 := 0xFD
def doipHeaderLen : Nat := 8

namespace PayloadType

def genericNack : UInt16 := 0x0000
def routingActivationRequest : UInt16 := 0x0005
def routingActivationResponse : UInt16 := 0x0006
def aliveCheckResponse : UInt16 := 0x0008
def entityStatusRequest : UInt16 := 0x4001
def entityStatusResponse : UInt16 := 0x4002
def diagnosticMessage : UInt16 := 0x8001
def diagnosticMessagePositiveAck : UInt16 := 0x8002
def diagnosticMessageNegativeAck : UInt16 := 0x8003

end PayloadType

namespace GenericNackCode

def incorrectPatternFormat : UInt8 := 0x00
def unknownPayloadType : UInt8 := 0x01
def messageTooLarge : UInt8 := 0x02
def invalidPayloadLength : UInt8 := 0x04

end GenericNackCode

namespace RoutingActivationResponseCode

def deniedUnknownSa : UInt8 := 0x00
def deniedSaAlreadyActive : UInt8 := 0x03
def success : UInt8 := 0x10

end RoutingActivationResponseCode

namespace DiagnosticNackCode

def invalidSa : UInt8 := 0x02
def unknownTa : UInt8 := 0x03
def outOfMemory : UInt8 := 0x05

end DiagnosticNackCode

/-- `NodeType.DOIP_GATEWAY`. -/
def NodeType.doipGateway : UInt8 := 0x00

namespace LogicalAddress

def gatewayRPi2 : UInt16 := 0x0030
def tester : UInt16 := 0x0E00

end LogicalAddress

/-! ## Header -/

/-- `DoIPHeader`. -/
structure DoIPHeader where
  protocolVersion : UInt8
  payloadType : UInt16
  payloadLength : UInt32
deriving DecidableEq, Repr

/-- `is_valid`: the code of the refusal, none for a valid header. -/
def DoIPHeader.isValid (hdr : DoIPHeader) : Option UInt8 :=
  if hdr.protocolVersion ≠ doipProtocolVersion then
    some GenericNackCode.incorrectPatternFormat
  else none

/-- `_HEADER_STRUCT.pack`. -/
def headerStruct (version inverse : UInt8) (payloadType : UInt16) (payloadLength : UInt32) :
    List UInt8 :=
  version :: inverse :: (digits 2 payloadType.toNat ++ digits 4 payloadLength.toNat)

/-- `encode`: the inverse byte is that of the version in use, whatever the version. -/
def DoIPHeader.encode (hdr : DoIPHeader) : List UInt8 :=
  headerStruct hdr.protocolVersion doipProtocolVersionInv hdr.payloadType hdr.payloadLength

/-- What `decode` raises. -/
inductive HeaderError where
  /-- "Header too short: {len(data)} < 8" -/
  | tooShort (length : Nat)
  /-- "Inverse protocol version mismatch" -/
  | inverseMismatch
deriving DecidableEq, Repr

/-- `decode`. -/
def DoIPHeader.decode (data : List UInt8) : Except HeaderError DoIPHeader :=
  if data.length < doipHeaderLen then .error (.tooShort data.length)
  else
    let protoVer := data.getD 0 0
    let invVer := data.getD 1 0
    if invVer ≠ ~~~protoVer then .error .inverseMismatch
    else
      .ok {
        protocolVersion := protoVer
        payloadType := UInt16.ofNat (value ((data.drop 2).take 2))
        payloadLength := UInt32.ofNat (value ((data.drop 4).take 4)) }

/-- `build_frame`. -/
def buildFrame (payloadType : UInt16) (payload : List UInt8) : List UInt8 :=
  DoIPHeader.encode ⟨doipProtocolVersion, payloadType, UInt32.ofNat payload.length⟩ ++ payload

/-- `parse_frame`. -/
def parseFrame (data : List UInt8) : Except HeaderError (DoIPHeader × List UInt8) :=
  match DoIPHeader.decode data with
  | .error e => .error e
  | .ok hdr => .ok (hdr, (data.drop doipHeaderLen).take hdr.payloadLength.toNat)

/-! ## Builders -/

/-- Two addresses and a code, as the acknowledgements begin. -/
def addressed (first second : UInt16) (code : UInt8) : List UInt8 :=
  digits 2 first.toNat ++ digits 2 second.toNat ++ [code]

/-- `build_generic_nack`. -/
def buildGenericNack (nackCode : UInt8) : List UInt8 :=
  buildFrame PayloadType.genericNack [nackCode]

/-- `build_routing_activation_response` without OEM bytes. -/
def buildRoutingActivationResponse (clientSa serverLa : UInt16) (responseCode : UInt8) :
    List UInt8 :=
  buildFrame PayloadType.routingActivationResponse
    (addressed clientSa serverLa responseCode ++ [0, 0, 0, 0])

/-- `build_entity_status_response`. -/
def buildEntityStatusResponse (nodeType maxSockets currentSockets : UInt8) (maxDataSize : Nat) :
    List UInt8 :=
  buildFrame PayloadType.entityStatusResponse
    ([nodeType, maxSockets, currentSockets] ++ digits 4 maxDataSize)

/-- `build_diagnostic_positive_ack`. -/
def buildDiagnosticPositiveAck (sa ta : UInt16) (ackCode : UInt8) (prevMsg : List UInt8) :
    List UInt8 :=
  buildFrame PayloadType.diagnosticMessagePositiveAck (addressed sa ta ackCode ++ prevMsg)

/-- `build_diagnostic_negative_ack`. -/
def buildDiagnosticNegativeAck (sa ta : UInt16) (nackCode : UInt8) (prevMsg : List UInt8) :
    List UInt8 :=
  buildFrame PayloadType.diagnosticMessageNegativeAck (addressed sa ta nackCode ++ prevMsg)

/-! ## Parsers -/

/-- The address at a place of a payload. -/
def addressAt (payload : List UInt8) (offset : Nat) : UInt16 :=
  UInt16.ofNat (value ((payload.drop offset).take 2))

/-- What `parse_routing_activation_request` returns. -/
structure RoutingActivationRequest where
  sourceAddress : UInt16
  activationType : UInt8
  reserved : List UInt8
  oem : Option (List UInt8)
deriving DecidableEq, Repr

/-- `parse_routing_activation_request`; none is the `ValueError` of a short payload. -/
def parseRoutingActivationRequest (payload : List UInt8) : Option RoutingActivationRequest :=
  if payload.length < 7 then none
  else
    some {
      sourceAddress := addressAt payload 0
      activationType := payload.getD 2 0
      reserved := (payload.drop 3).take 4
      oem := if 11 ≤ payload.length then some ((payload.drop 7).take 4) else none }

/-- What `parse_diagnostic_message` returns. -/
structure DiagnosticMessage where
  sourceAddress : UInt16
  targetAddress : UInt16
  userData : List UInt8
deriving DecidableEq, Repr

/-- `parse_diagnostic_message`; none is the `ValueError` of a short payload. -/
def parseDiagnosticMessage (payload : List UInt8) : Option DiagnosticMessage :=
  if payload.length < 4 then none
  else
    some {
      sourceAddress := addressAt payload 0
      targetAddress := addressAt payload 2
      userData := payload.drop 4 }

/-! ## Headers on the wire -/

section Header

variable {version inverse : UInt8} {ptype ptype' : UInt16} {plen plen' : UInt32}
  {payload payload' rest : List UInt8}

@[simp] theorem headerStruct_length (version inverse : UInt8) (ptype : UInt16) (plen : UInt32) :
    (headerStruct version inverse ptype plen).length = doipHeaderLen := by
  rw [headerStruct, List.length_cons, List.length_cons, List.length_append, digits_length,
    digits_length]
  rfl

theorem buildFrame_eq (ptype : UInt16) (payload : List UInt8) :
    buildFrame ptype payload =
      headerStruct doipProtocolVersion doipProtocolVersionInv ptype
        (UInt32.ofNat payload.length) ++ payload := rfl

/-- **What `decode` makes of a packed header**, whatever follows it. -/
theorem decode_headerStruct (version inverse : UInt8) (ptype : UInt16) (plen : UInt32)
    (rest : List UInt8) :
    DoIPHeader.decode (headerStruct version inverse ptype plen ++ rest) =
      if inverse ≠ ~~~version then .error .inverseMismatch else .ok ⟨version, ptype, plen⟩ := by
  have hlong : ¬ (headerStruct version inverse ptype plen ++ rest).length < doipHeaderLen := by
    rw [List.length_append, headerStruct_length]
    omega
  have htype : ((headerStruct version inverse ptype plen ++ rest).drop 2).take 2 =
      digits 2 ptype.toNat := by
    rw [headerStruct, List.cons_append, List.cons_append, List.append_assoc]
    exact List.take_left' (digits_length 2 _)
  have hlen : ((headerStruct version inverse ptype plen ++ rest).drop 4).take 4 =
      digits 4 plen.toNat := by
    have hdrop : (headerStruct version inverse ptype plen ++ rest).drop 4 =
        digits 4 plen.toNat ++ rest := by
      rw [headerStruct, List.cons_append, List.cons_append, List.append_assoc]
      exact List.drop_left' (digits_length 2 _)
    rw [hdrop]
    exact List.take_left' (digits_length 4 _)
  rw [DoIPHeader.decode, if_neg hlong, htype, hlen, value_digits ptype.toNat_lt,
    value_digits plen.toNat_lt, UInt16.ofNat_toNat, UInt32.ofNat_toNat]
  rfl

/-- Two bytes are a 16-bit number, four a 32-bit one. -/
theorem digits_two {bytes : List UInt8} (h : bytes.length = 2) :
    digits 2 (UInt16.ofNat (value bytes)).toNat = bytes := by
  have hlt : value bytes < 2 ^ 16 := by
    have hvalue := value_lt bytes
    rwa [h] at hvalue
  rw [UInt16.toNat_ofNat', Nat.mod_eq_of_lt hlt, ← h, digits_value]

theorem digits_four {bytes : List UInt8} (h : bytes.length = 4) :
    digits 4 (UInt32.ofNat (value bytes)).toNat = bytes := by
  have hlt : value bytes < 2 ^ 32 := by
    have hvalue := value_lt bytes
    rwa [h] at hvalue
  rw [UInt32.toNat_ofNat', Nat.mod_eq_of_lt hlt, ← h, digits_value]

/-- **A header that `decode` accepts** is packed from what it was decoded to. -/
theorem headerStruct_of_decode {data : List UInt8} {hdr : DoIPHeader}
    (h : DoIPHeader.decode data = .ok hdr) :
    data.take doipHeaderLen =
      headerStruct hdr.protocolVersion (~~~hdr.protocolVersion) hdr.payloadType
        hdr.payloadLength := by
  rcases data with _ | ⟨protoVer, _ | ⟨invVer, rest⟩⟩
  · cases h
  · cases h
  · rw [DoIPHeader.decode] at h
    split at h
    · cases h
    · rename_i hlong
      have hrest : 6 ≤ rest.length := by
        rw [List.length_cons, List.length_cons, doipHeaderLen] at hlong
        omega
      dsimp only at h
      split at h
      · cases h
      · rename_i hinv
        cases h
        have hinv : invVer = ~~~protoVer := not_not.mp hinv
        have htype : (rest.take 2).length = 2 := by
          rw [List.length_take]
          omega
        have hlen : ((rest.drop 2).take 4).length = 4 := by
          rw [List.length_take, List.length_drop]
          omega
        show protoVer :: invVer :: rest.take (2 + 4) = protoVer :: ~~~protoVer ::
          (digits 2 (UInt16.ofNat (value (rest.take 2))).toNat ++
            digits 4 (UInt32.ofNat (value ((rest.drop 2).take 4))).toNat)
        rw [digits_two htype, digits_four hlen, List.take_add, hinv]

/-- The type of a frame can be read off its bytes. -/
theorem buildFrame_inj (h : buildFrame ptype payload = buildFrame ptype' payload') :
    ptype = ptype' ∧ payload = payload' := by
  rw [buildFrame_eq, buildFrame_eq] at h
  obtain ⟨hhead, htail⟩ := List.append_inj h (by rw [headerStruct_length, headerStruct_length])
  refine ⟨?_, htail⟩
  rw [headerStruct, headerStruct, List.cons_inj_right, List.cons_inj_right] at hhead
  have htype := (List.append_inj hhead (by rw [digits_length, digits_length])).1
  have hvalue : value (digits 2 ptype.toNat) = value (digits 2 ptype'.toNat) := by rw [htype]
  rwa [value_digits ptype.toNat_lt, value_digits ptype'.toNat_lt, UInt16.toNat_inj] at hvalue

end Header

end MediaDoip
