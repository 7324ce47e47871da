import RemoteVehicle.MediaDoip

/-!
# MEDIA vehicle discovery — `udp_handler.py`

A datagram is answered, or not, from what it says and who the vehicle is; nothing else is kept.
The number of open sessions is at most `max_tcp_sessions`, so that it fits a byte.
-/

namespace MediaUdp

open BigEndian MediaDoip

/-! ## Constants -/

namespace PayloadType

def vehicleIdRequest : UInt16 := 0x0001
def vehicleIdRequestWithEid : UInt16 := 0x0002
def vehicleIdRequestWithVin : UInt16 := 0x0003
def vehicleAnnouncement : UInt16 := 0x0004
def powerModeInfoRequest : UInt16 := 0x4003
def powerModeInfoResponse : UInt16 := 0x4004

end PayloadType

/-- `PowerMode.READY`. -/
def PowerMode.ready : UInt8 := 0x01

/-- `"max_tcp_sessions"` and `"max_data_size"` of `build_config`. -/
def maxTcpSessions : UInt8 := 8
def maxDataSize : Nat := 0xFFFF

/-! ## Identity -/

/-- `bytes.decode("ascii", errors="replace")`. -/
def decodeAscii (bytes : List UInt8) : List Char :=
  bytes.map fun b => if b.toNat < 128 then Char.ofNat b.toNat else '\uFFFD'

/-- `str.encode("ascii")`, for ASCII text. -/
def encodeAscii (text : List Char) : List UInt8 := text.map fun c => UInt8.ofNat c.toNat

/-- What the configuration says about the vehicle; the fields after it are the assertions of
    `build_vehicle_announcement`, and that the VIN can be encoded. -/
structure Identity where
  vin : List Char
  logicalAddress : UInt16
  eid : List UInt8
  gid : List UInt8
  vin_length : vin.length = 17
  vin_ascii : ∀ c ∈ vin, c.toNat < 128
  eid_length : eid.length = 6
  gid_length : gid.length = 6

/-! ## Builders -/

/-- The payload of an announcement, with no further action. -/
def announcementPayload (cfg : Identity) : List UInt8 :=
  encodeAscii cfg.vin ++ (digits 2 cfg.logicalAddress.toNat ++ (cfg.eid ++ (cfg.gid ++ [0x00])))

/-- `build_vehicle_announcement`. -/
def buildVehicleAnnouncement (cfg : Identity) : List UInt8 :=
  buildFrame PayloadType.vehicleAnnouncement (announcementPayload cfg)

/-- `build_power_mode_response`. -/
def buildPowerModeResponse (powerMode : UInt8) : List UInt8 :=
  buildFrame PayloadType.powerModeInfoResponse [powerMode]

/-! ## Handler -/

/-- `_handle_vehicle_id_request`: the datagram that is sent back, if there is one. -/
def handleVehicleIdRequest (cfg : Identity) (ptype : UInt16) (payload : List UInt8) :
    Option (List UInt8) :=
  if ptype = PayloadType.vehicleIdRequestWithEid then
    if payload.length < 6 then some (buildGenericNack GenericNackCode.invalidPayloadLength)
    else if payload.take 6 ≠ cfg.eid then none
    else some (buildVehicleAnnouncement cfg)
  else if ptype = PayloadType.vehicleIdRequestWithVin then
    if payload.length < 17 then some (buildGenericNack GenericNackCode.invalidPayloadLength)
    else if decodeAscii (payload.take 17) ≠ cfg.vin then none
    else some (buildVehicleAnnouncement cfg)
  else some (buildVehicleAnnouncement cfg)

/-- `_handle_entity_status`. -/
def handleEntityStatus (currentSockets : UInt8) : List UInt8 :=
  buildEntityStatusResponse NodeType.doipGateway maxTcpSessions currentSockets maxDataSize

/-- `_handle_power_mode`. -/
def handlePowerMode : List UInt8 := buildPowerModeResponse PowerMode.ready

/-- `_dispatch`. -/
def dispatch (cfg : Identity) (currentSockets : UInt8) (hdr : DoIPHeader) (payload : List UInt8) :
    Option (List UInt8) :=
  let pt := hdr.payloadType
  if pt = PayloadType.vehicleIdRequest ∨ pt = PayloadType.vehicleIdRequestWithEid ∨
      pt = PayloadType.vehicleIdRequestWithVin then
    handleVehicleIdRequest cfg pt payload
  else if pt = MediaDoip.PayloadType.entityStatusRequest then
    some (handleEntityStatus currentSockets)
  else if pt = PayloadType.powerModeInfoRequest then some handlePowerMode
  else some (buildGenericNack GenericNackCode.unknownPayloadType)

/-- `datagram_received`. -/
def datagramReceived (cfg : Identity) (currentSockets : UInt8) (data : List UInt8) :
    Option (List UInt8) :=
  match parseFrame data with
  | .error _ => some (buildGenericNack GenericNackCode.incorrectPatternFormat)
  | .ok (hdr, payload) =>
      match hdr.isValid with
      | some nack => some (buildGenericNack nack)
      | none => dispatch cfg currentSockets hdr payload

end MediaUdp
