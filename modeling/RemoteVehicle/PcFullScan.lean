import RemoteVehicle.PcDiagnostics

/-!
# PC full scan, clear and function tests — `diagnostics.py`

The rest of the diagnostics of the backend: MEDIA and MAIN are scanned, too, all codes of all four
nodes are cleared, and routines of ACT and BODY are started.  Each program opens its own clients;
a connection that fails raises as the activation would.  What is only printed is left out, and so
is an exception while a connection is closed.
-/

namespace PcFullScan

open Dialogue PcDiagnostics

/-! ## Decoders -/

/-- `decode_u8`. -/
def decodeU8 : List UInt8 → Value
  | [] => .none
  | b :: _ => .number b.toNat

/-- `decode_bool_label`. -/
def decodeBoolLabel (trueLabel falseLabel : String) (data : List UInt8) : Value :=
  .text (if data.head? = some 1 then trueLabel else falseLabel)

/-- `decode_ok_lost`. -/
def decodeOkLost (data : List UInt8) : Value :=
  .text (if data.head? = some 0 then "정상" else "두절")

/-- `decode_up_down`. -/
def decodeUpDown : List UInt8 → Value := decodeBoolLabel "UP" "DOWN"

/-- `decode_connected`. -/
def decodeConnected : List UInt8 → Value := decodeBoolLabel "연결" "미연결"

/-- `decode_running`. -/
def decodeRunning : List UInt8 → Value := decodeBoolLabel "실행 중" "중지"

/-! ## Tables -/

/-- `MAIN_DIDS`. -/
def mainDids : List DidSpec :=
  [⟨0xF190, "ECU 식별", decodeAscii, none⟩,
   ⟨0x0400, "ACT ECU 통신 상태", decodeOkLost, none⟩,
   ⟨0x0401, "Body ECU 통신 상태", decodeOkLost, none⟩,
   ⟨0x0402, "PC 통신 상태", decodeOkLost, none⟩]

/-- `MEDIA_DIDS`. -/
def mediaDids : List DidSpec :=
  [⟨0xF190, "노드 식별", decodeAscii, none⟩,
   ⟨0x0300, "eth0 상태", decodeUpDown, none⟩,
   ⟨0x0301, "전방 카메라", decodeConnected, none⟩,
   ⟨0x0302, "후방 카메라", decodeConnected, none⟩,
   ⟨0x0303, "마이크", decodeConnected, none⟩,
   ⟨0x0304, "Flask 서버", decodeRunning, none⟩,
   ⟨0x0305, "SOME/IP 서버", decodeRunning, none⟩,
   ⟨0x0306, "저장공간 사용률", decodeU8, some "%"⟩]

/-! ## Scan -/

/-- What `scan_media_pi` and `test_main_routing_activation` return; a warning is the response to
    a request for the trouble codes that was not understood. -/
structure SectionResult where
  routingActivation : Activation
  session : SessionResult
  dids : List DidResult
  dtcs : DtcsResult
  warnings : List (List UInt8)
deriving DecidableEq, Repr

section Scan

variable {W : Type}

/-- `scan_media_pi`. -/
def scanMediaPi (client : Client W) : Talk W Raised SectionResult := do
  let activation ← client.routingActivation
  let _ ← ensureRoutingActive activation "MEDIA PI"
  let session ← enterSession client 0x01 "MEDIA PI"
  let dids ← readDids client mediaDids
  let dtcs ← readDtcs client .statusMask
  if dtcs.ok then
    pure { routingActivation := activation, session := session, dids := dids, dtcs := dtcs,
           warnings := [] }
  else raise (.doip (.dtcRead "MEDIA PI" dtcs.raw))

/-- `test_main_routing_activation`. -/
def testMainRoutingActivation (client : Client W) : Talk W Raised SectionResult := do
  let activation ← client.routingActivation
  let _ ← ensureRoutingActive activation "MAIN ECU"
  let session ← enterSession client 0x03 "MAIN ECU"
  let dids ← readDids client mainDids
  let dtcs ← readDtcs client .supported
  pure { routingActivation := activation, session := session, dids := dids, dtcs := dtcs,
         warnings := if dtcs.ok then [] else [dtcs.raw] }

/-- The clients that are opened: for MEDIA, MAIN, ACT and BODY. -/
structure Clients (W : Type) where
  media : Client W
  main : Client W
  act : Client W
  body : Client W

/-- `sections`; an exception is what the section's `detail` says. -/
structure FullScan where
  media : Except Raised SectionResult
  mainRouting : Except Raised SectionResult
  mainEcus : Except Raised ScanResult

/-- `try`, with `except Exception`. -/
def attempt {α : Type} (x : Talk W Raised α) : Talk W Raised (Except Raised α) :=
  onError x (fun e => pure (.error e)) fun a => pure (.ok a)

/-- `run_full_scan`. -/
def runFullScan (clients : Clients W) : Talk W Raised FullScan := do
  let media ← attempt (scanMediaPi clients.media)
  let mainRouting ← attempt (testMainRoutingActivation clients.main)
  let mainEcus ← attempt (scanMainRoutedEcus clients.act clients.body)
  pure { media := media, mainRouting := mainRouting, mainEcus := mainEcus }

end Scan

/-! ## Clear -/

/-- Why an item of `clear_all_dtcs` is not ok. -/
inductive ClearDetail where
  | none
  | nrc (code : UInt8)
  | response
  | raised (e : Raised)
deriving DecidableEq, Repr

structure ClearItem where
  target : String
  ok : Bool
  raw : List UInt8
  detail : ClearDetail
deriving DecidableEq, Repr

/-- The request to clear a group of codes. -/
def clearRequest (group : Nat) : List UInt8 := 0x14 :: BigEndian.digits 3 group

/-- What `clear_dtcs` makes of a response. -/
def clearResult (target : String) (udsResponse : List UInt8) : ClearItem :=
  let ok := udsResponse.head? = some 0x54
  { target := target, ok := ok, raw := udsResponse,
    detail := if ok then .none
      else if 3 ≤ udsResponse.length ∧ udsResponse.getD 0 0 = 0x7F then
        .nrc (udsResponse.getD 2 0)
      else .response }

section Clear

variable {W : Type}

/-- `clear_target`, with the item that it appends. -/
def clearTarget (client : Client W) (targetName : String) (sessionType : UInt8) :
    Talk W Raised ClearItem :=
  onError
    (do
      let activation ← client.routingActivation
      let _ ← ensureRoutingActive activation targetName
      let _ ← enterSession client sessionType targetName
      client.request (clearRequest 0xFFFFFF))
    (fun e => pure { target := targetName, ok := false, raw := [], detail := .raised e })
    fun udsResponse => pure (clearResult targetName udsResponse)

/-- `clear_all_dtcs`, the items. -/
def clearAllDtcs (clients : Clients W) : Talk W Raised (List ClearItem) := do
  let media ← clearTarget clients.media "MEDIA PI" 0x01
  let main ← clearTarget clients.main "MAIN ECU" 0x03
  let act ← clearTarget clients.act actTarget.name 0x03
  let body ← clearTarget clients.body bodyTarget.name 0x03
  pure [media, main, act, body]

end Clear

inductive ClearOutcome where
  | ok
  | partial'
  | error
deriving DecidableEq, Repr

/-- `result`. -/
def clearOutcome (items : List ClearItem) : ClearOutcome :=
  let okCount := items.countP (·.ok)
  if okCount = items.length then .ok else if okCount ≠ 0 then .partial' else .error

/-! ## Function tests -/

/-- What `run_routine` returns. -/
structure RoutineResult where
  ok : Bool
  raw : List UInt8
  routineResult : Option UInt8
deriving DecidableEq, Repr

end PcFullScan
