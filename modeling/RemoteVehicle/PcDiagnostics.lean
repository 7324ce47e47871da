import Mathlib.Data.List.DropRight
import RemoteVehicle.BigEndian
import RemoteVehicle.Dialogue

/-!
# PC diagnostics — `diagnostics.py` and `doip.py`

The scan of the ECUs behind MAIN.  The two libraries below `DoipClient` are a parameter: a
`Client` activates the routing and exchanges a UDS request for a response, and may raise.
The requests are those that the libraries make of the calls in `doip.py`.

The results hold bytes where the source holds their hexadecimal text, and the elapsed time
is left out.
-/

namespace PcDiagnostics

open Dialogue

/-! ## Client -/

/-- `RoutingActivationResult`. -/
structure Activation where
  sourceAddress : Nat
  targetAddress : Nat
  responseCode : Nat
  reserved : List UInt8
deriving DecidableEq, Repr

/-- `DoipError`, one case for each text of the scan. -/
inductive DoipError where
  /-- "{target_name} Routing Activation 거부: 0x{response_code}" -/
  | activationRefused (targetName : String) (responseCode : Nat)
  /-- "{target_name} DiagnosticSessionControl 실패: NRC 0x{nrc}, raw={raw}" -/
  | sessionRefused (targetName : String) (nrc : UInt8) (raw : List UInt8)
  /-- "{target_name} DiagnosticSessionControl 응답 오류: {raw}" -/
  | sessionResponse (targetName : String) (raw : List UInt8)
  /-- "{name} DTC 조회 실패: {raw}" -/
  | dtcRead (targetName : String) (raw : List UInt8)
  /-- The texts of `DoipClient`. -/
  | client
deriving DecidableEq, Repr

/-- What ends a program: a `DoipError`, or an exception of a library. -/
inductive Raised where
  | doip (e : DoipError)
  | other
deriving DecidableEq, Repr

/-- A `DoipClient` that is connected. -/
structure Client (W : Type) where
  routingActivation : Talk W Raised Activation
  request : List UInt8 → Talk W Raised (List UInt8)

section Requests

variable {W : Type} (client : Client W)

/-- `change_session`. -/
def changeSession (sessionType : UInt8) : Talk W Raised (List UInt8) :=
  client.request [0x10, sessionType]

/-- The request for a data identifier. -/
def didRequest (did : Nat) : List UInt8 := 0x22 :: BigEndian.digits 2 did

/-- `read_data_by_identifier`. -/
def readDataByIdentifier (did : Nat) : Talk W Raised (List UInt8) :=
  client.request (didRequest did)

/-- `read_dtc_by_status_mask`. -/
def readDtcByStatusMask (statusMask : UInt8) : Talk W Raised (List UInt8) :=
  client.request [0x19, 0x02, statusMask]

/-- `read_supported_dtcs`. -/
def readSupportedDtcs : Talk W Raised (List UInt8) := client.request [0x19, 0x0A]

end Requests

/-! ## Decoders -/

/-- A decoded value. -/
inductive Value where
  | none
  | text (s : String)
  | number (n : Int)
deriving DecidableEq, Repr

/-- `decode_ascii`: other bytes become U+FFFD, zeros at the end are cut off. -/
def decodeAscii (data : List UInt8) : Value :=
  let chars := data.map fun b => if b < 128 then Char.ofNat b.toNat else Char.ofNat 0xFFFD
  .text (String.ofList (chars.rdropWhile fun c => c == Char.ofNat 0))

/-- `decode_u16`. -/
def decodeU16 (data : List UInt8) : Value :=
  if data.length < 2 then .none else .number (BigEndian.value (data.take 2))

/-- `decode_i16`. -/
def decodeI16 (data : List UInt8) : Value :=
  if data.length < 2 then .none
  else
    let n : Int := BigEndian.value (data.take 2)
    .number (if n < 32768 then n else n - 65536)

/-- `decode_speed_x100`: with two decimals. -/
def decodeSpeedX100 (data : List UInt8) : Value :=
  if data.length < 2 then .none
  else
    let n := BigEndian.value (data.take 2)
    .text (toString (n / 100) ++ "." ++ toString (n / 10 % 10) ++ toString (n % 10))

/-- `decode_on_off`. -/
def decodeOnOff (data : List UInt8) : Value :=
  .text (if data.head? = some 1 then "ON" else "OFF")

/-- `decode_turn_signal`. -/
def decodeTurnSignal (data : List UInt8) : Value :=
  match data.head? with
  | some 0 => .text "OFF"
  | some 1 => .text "LEFT"
  | some 2 => .text "RIGHT"
  | some 3 => .text "HAZARD"
  | _ => .text "UNKNOWN"

/-! ## Targets -/

/-- A row of a table of data identifiers. -/
structure DidSpec where
  did : Nat
  label : String
  decoder : List UInt8 → Value
  unit : Option String

/-- A value of `ECU_TARGETS`. -/
structure Target where
  id : String
  name : String
  logicalAddress : Nat
  dids : List DidSpec

def actTarget : Target where
  id := "act"
  name := "ACT ECU"
  logicalAddress := 0x0010
  dids :=
    [⟨0xF190, "ECU 식별", decodeAscii, none⟩,
     ⟨0x0100, "차량 속도", decodeSpeedX100, some "km/h"⟩,
     ⟨0x0101, "조향 각도", decodeI16, some "deg"⟩]

def bodyTarget : Target where
  id := "body"
  name := "BODY ECU"
  logicalAddress := 0x0020
  dids :=
    [⟨0xF190, "ECU 식별", decodeAscii, none⟩,
     ⟨0x0201, "초음파 거리", decodeU16, some "mm"⟩,
     ⟨0x0202, "방향지시등 상태", decodeTurnSignal, none⟩,
     ⟨0x0203, "사고 스위치 상태", decodeOnOff, none⟩,
     ⟨0x0204, "충돌방지 경고 활성", decodeOnOff, none⟩]

/-- `DTC_DESCRIPTIONS`. -/
def dtcDescriptions : List (Nat × String) :=
  [(0xC10000, "엔코더 신호 없음"), (0xC10100, "조향 명령-실측 불일치"),
   (0xC20100, "초음파 센서 응답 없음"), (0xC30000, "전방 카메라 고장"),
   (0xC30100, "후방 카메라 고장"), (0xC30200, "마이크 고장"), (0xC30300, "저장공간 부족"),
   (0xC30400, "Flask 서버 오류"), (0xC30500, "SOME/IP 서버 오류"), (0xC30600, "eth0 통신 오류"),
   (0xC40000, "ACT ECU 통신 두절"), (0xC40100, "Body ECU 통신 두절"), (0xC40200, "PC 통신 두절")]

/-! ## Data identifiers -/

structure DidResult where
  did : Nat
  label : String
  value : Value
  unit : Option String
  raw : List UInt8
  ok : Bool
  nrc : Option UInt8
deriving DecidableEq, Repr

/-- `negative_uds_result`. -/
def negativeUdsResult (spec : DidSpec) (udsResponse : List UInt8) : DidResult :=
  let nrc :=
    if 3 ≤ udsResponse.length ∧ udsResponse.getD 0 0 = 0x7F then some (udsResponse.getD 2 0)
    else none
  { did := spec.did, label := spec.label,
    value := .text (if nrc.isSome then "NRC" else "응답 오류"),
    unit := spec.unit, raw := udsResponse, ok := false, nrc := nrc }

/-- What `read_did` makes of a response. -/
def didResult (spec : DidSpec) (udsResponse : List UInt8) : DidResult :=
  if 3 ≤ udsResponse.length ∧ udsResponse.getD 0 0 = 0x62 then
    if BigEndian.value ((udsResponse.drop 1).take 2) = spec.did then
      { did := spec.did, label := spec.label, value := spec.decoder (udsResponse.drop 3),
        unit := spec.unit, raw := udsResponse, ok := true, nrc := none }
    else
      { did := spec.did, label := spec.label, value := .text "DID 불일치",
        unit := spec.unit, raw := udsResponse, ok := false, nrc := none }
  else negativeUdsResult spec udsResponse

section Programs

variable {W : Type} (client : Client W)

/-- `read_did`. -/
def readDid (spec : DidSpec) : Talk W Raised DidResult := do
  let udsResponse ← readDataByIdentifier client spec.did
  pure (didResult spec udsResponse)

/-- `read_dids`. -/
def readDids (specs : List DidSpec) : Talk W Raised (List DidResult) :=
  forEach (readDid client) specs

/-! ## Session -/

structure SessionResult where
  ok : Bool
  session : UInt8
  raw : List UInt8
deriving DecidableEq, Repr

/-- `enter_session`. -/
def enterSession (sessionType : UInt8) (targetName : String) :
    Talk W Raised SessionResult := do
  let udsResponse ← changeSession client sessionType
  if 2 ≤ udsResponse.length ∧ udsResponse.getD 0 0 = 0x50 ∧
      udsResponse.getD 1 0 = sessionType then
    pure { ok := true, session := sessionType, raw := udsResponse }
  else if 3 ≤ udsResponse.length ∧ udsResponse.getD 0 0 = 0x7F then
    raise (.doip (.sessionRefused targetName (udsResponse.getD 2 0) udsResponse))
  else raise (.doip (.sessionResponse targetName udsResponse))

/-! ## Trouble codes -/

structure DtcItem where
  code : Nat
  status : UInt8
  active : Bool
  description : String
deriving DecidableEq, Repr

structure DtcsResult where
  ok : Bool
  raw : List UInt8
  items : List DtcItem
deriving DecidableEq, Repr

/-- The records after the first three bytes; a record without status bits is skipped. -/
def dtcItems : List UInt8 → List DtcItem
  | b0 :: b1 :: b2 :: status :: rest =>
      let code := BigEndian.value [b0, b1, b2]
      if status = 0 then dtcItems rest
      else
        { code := code, status := status, active := status &&& 0x01 ≠ 0,
          description := (dtcDescriptions.lookup code).getD "정의되지 않은 DTC" } :: dtcItems rest
  | _ => []

/-- What `read_dtcs` makes of a response. -/
def dtcsResult (udsResponse : List UInt8) : DtcsResult :=
  if udsResponse.head? ≠ some 0x59 then { ok := false, raw := udsResponse, items := [] }
  else { ok := true, raw := udsResponse, items := dtcItems (udsResponse.drop 3) }

/-- `request_type`. -/
inductive RequestType where
  | statusMask
  | supported
deriving DecidableEq, Repr

/-- `read_dtcs`. -/
def readDtcs (requestType : RequestType) : Talk W Raised DtcsResult := do
  let udsResponse ← match requestType with
    | .supported => readSupportedDtcs client
    | .statusMask => readDtcByStatusMask client 0xFF
  pure (dtcsResult udsResponse)

/-! ## Scan -/

inductive EcuState where
  | normal
  | warning
  | offline
deriving DecidableEq, Repr

/-- An element of `ecus`. -/
structure EcuEntry where
  id : String
  name : String
  logicalAddress : Nat
  state : EcuState
  session : Option SessionResult
  dids : List DidResult
  dtcs : DtcsResult
  error : Option DoipError
deriving DecidableEq, Repr

/-- The variables of a round when an exception comes. -/
structure Progress where
  activation : Option Activation
  session : Option SessionResult
  dids : List DidResult

/-- What the handler makes of a `DoipError`. -/
def offlineEntry (t : Target) (p : Progress) (e : DoipError) : Option Activation × EcuEntry :=
  (p.activation,
    { id := t.id, name := t.name, logicalAddress := t.logicalAddress, state := .offline,
      session := p.session, dids := p.dids, dtcs := { ok := false, raw := [], items := [] },
      error := some e })

/-- `except DoipError`; other exceptions go on. -/
def onDoipError (t : Target) (p : Progress) : Raised → Talk W Raised (Option Activation × EcuEntry)
  | .doip e => pure (offlineEntry t p e)
  | .other => raise .other

/-- `ensure_routing_active`. -/
def ensureRoutingActive (activation : Activation) (targetName : String) : Talk W Raised Unit :=
  if activation.responseCode ≠ 0x10 then
    raise (.doip (.activationRefused targetName activation.responseCode))
  else pure ()

/-- The entry of a target whose requests have all been answered. -/
def answeredEntry (t : Target) (p : Progress) (dtcs : DtcsResult) : Option Activation × EcuEntry :=
  if dtcs.ok = false then offlineEntry t p (.dtcRead t.name dtcs.raw)
  else
    (p.activation,
      { id := t.id, name := t.name, logicalAddress := t.logicalAddress,
        state := if p.dids.all (·.ok) && dtcs.items.isEmpty then .normal else .warning,
        session := p.session, dids := p.dids, dtcs := dtcs, error := none })

/-- One round of `scan_main_routed_ecus`. -/
def scanEcu (t : Target) : Talk W Raised (Option Activation × EcuEntry) :=
  onError client.routingActivation (onDoipError t ⟨none, none, []⟩) fun activation =>
  onError (ensureRoutingActive activation t.name) (onDoipError t ⟨some activation, none, []⟩)
    fun _ =>
  onError (enterSession client 0x03 t.name) (onDoipError t ⟨some activation, none, []⟩)
    fun session =>
  onError (readDids client t.dids) (onDoipError t ⟨some activation, some session, []⟩)
    fun dids =>
  onError (readDtcs client .statusMask) (onDoipError t ⟨some activation, some session, dids⟩)
    fun dtcs =>
  pure (answeredEntry t ⟨some activation, some session, dids⟩ dtcs)

end Programs

/-- What `scan_main_routed_ecus` returns. -/
structure ScanResult where
  routingActivation : Option Activation
  ecus : List EcuEntry
deriving DecidableEq, Repr

/-- `scan_main_routed_ecus`, with a client for each target; the activation that is reported
    is the first one that was answered. -/
def scanMainRoutedEcus {W : Type} (actClient bodyClient : Client W) :
    Talk W Raised ScanResult := do
  let act ← scanEcu actClient actTarget
  let body ← scanEcu bodyClient bodyTarget
  pure { routingActivation := act.1.or body.1, ecus := [act.2, body.2] }

end PcDiagnostics
