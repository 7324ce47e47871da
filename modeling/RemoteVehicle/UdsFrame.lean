import Mathlib.Data.List.GetD
import RemoteVehicle.ActUdsDiag
import RemoteVehicle.BodyUds

/-!
# Diagnostic single frames

A diagnostic request or response travels in one CAN frame: a byte with the length in its
low half, then the payload.  `singleFrame` packs it, `requestOf` is what both ECUs read
out of the eight bytes they are given, and `actServe` and `bodyServe` are their service
dispatchers behind that check.
-/

namespace UdsFrame

open ByteWords CanFrame ActState ActUdsDiag BodyState BodyUds

/-! ## Bytes of a frame -/

/-- The twelve data bytes of a frame, in the order of the message memory. -/
def frameBytes (m : CanMessage) : List UInt8 :=
  [wordByte m.word0 0, wordByte m.word0 1, wordByte m.word0 2, wordByte m.word0 3,
   wordByte m.word1 0, wordByte m.word1 1, wordByte m.word1 2, wordByte m.word1 3,
   wordByte m.word2 0, wordByte m.word2 1, wordByte m.word2 2, wordByte m.word2 3]

/-- What was packed is what the memory holds. -/
theorem frameBytes_fdMessage (messageId dataLengthCode : Nat) (txByte : List UInt8) {i : Nat}
    (h : i < 12) :
    (frameBytes (fdMessage messageId dataLengthCode txByte)).getD i 0 = txByte.getD i 0 := by
  simp only [frameBytes, fdMessage, wordByte_packWord_zero, wordByte_packWord_one,
    wordByte_packWord_two, wordByte_packWord_three]
  interval_cases i <;> rfl

/-- Eight packed bytes are the eight bytes unpacked. -/
theorem toList_rxByte (messageId dataLengthCode : Nat) {txByte : List UInt8}
    (h : txByte.length = 8) :
    (rxByte (fdMessage messageId dataLengthCode txByte)).toList = txByte := by
  rw [rxByte_fdMessage]
  apply List.ext_getElem
  · simp [h]
  · intro i hi hb
    have hi : i < 8 := by omega
    rw [← List.getD_eq_getElem txByte 0 hb]
    interval_cases i <;> rfl

/-! ## Single frames -/

/-- The length byte and the payload. -/
def singleFrame (payload : List UInt8) : List UInt8 :=
  (UInt8.ofNat payload.length &&& 0x0F) :: payload

/-- The request in eight received bytes: one to seven bytes, and no other frame type. -/
def requestOf (data : Vector UInt8 8) : Option (List UInt8) :=
  if byteAt data 0 &&& 0xF0 ≠ 0 then none
  else
    let len := (byteAt data 0 &&& 0x0F).toNat
    if len = 0 ∨ 7 < len then none else some ((data.toList.drop 1).take len)

/-- The length byte says the length. -/
theorem lengthByte_spec :
    ∀ n < 16, (UInt8.ofNat n &&& 0x0F) &&& 0xF0 = 0 ∧
      ((UInt8.ofNat n &&& 0x0F) &&& 0x0F).toNat = n := by decide

/-- **Unpacking undoes packing**, whatever the padding. -/
theorem requestOf_singleFrame {data : Vector UInt8 8} {payload pad : List UInt8}
    (hdata : data.toList = singleFrame payload ++ pad) (hpos : payload ≠ [])
    (hlen : payload.length ≤ 7) : requestOf data = some payload := by
  obtain ⟨htype, hlength⟩ := lengthByte_spec payload.length (by omega)
  have hfirst : byteAt data 0 = UInt8.ofNat payload.length &&& 0x0F := by
    rw [byteAt, hdata]
    rfl
  have hnil : payload.length ≠ 0 := fun h => hpos (List.length_eq_zero_iff.mp h)
  rw [requestOf, hfirst, if_neg (by simp [htype])]
  simp only [hlength]
  rw [if_neg (by omega), hdata]
  simp [singleFrame]

/-! ## The dispatchers -/

/-- `UdsDiag_ProcessRequest` behind the frame check. -/
def actServe (busy : Bool) (uds : List UInt8) (s : Act) : Act :=
  let sid := uds.getD 0 0
  if sid = sidDiagnosticSessionControl then udsDiagHandleSessionControl busy uds s
  else if sid = sidReadDataByIdentifier then udsDiagHandleReadDID busy uds s
  else if sid = sidReadDtcInformation then udsDiagHandleReadDTC busy uds s
  else if sid = sidClearDiagnosticInformation then udsDiagHandleClearDTC busy uds s
  else if sid = sidRoutineControl then udsDiagHandleRoutineControl busy uds s
  else udsDiagSendNegativeResponse busy sid nrcServiceNotSupported s

theorem udsDiagProcessRequest_eq (busy : Bool) (data : Vector UInt8 8) (s : Act) :
    udsDiagProcessRequest busy data s =
      match requestOf data with
      | some uds => actServe busy uds s
      | none => s := by
  rw [udsDiagProcessRequest, requestOf]
  split
  · rfl
  · simp only
    split
    · rfl
    · rfl

/-- `BodyCan_HandleUdsRequest` behind the frame check. -/
def bodyServe (inp : BodyInputs) (payload : List UInt8) (s : Body) : Body :=
  let sid := payload.getD 0 0
  if sid = udsSidSessionControl then handleUdsSessionControl inp.udsTxBusy payload s
  else if sid = udsSidReadDid then handleUdsReadDid inp payload s
  else if sid = udsSidReadDtc then handleUdsReadDtc inp.udsTxBusy payload s
  else if sid = udsSidClearDtc then handleUdsClearDtc inp.udsTxBusy payload s
  else if sid = udsSidRoutineControl then handleUdsRoutineControl inp payload s
  else sendUdsNegativeResponse inp.udsTxBusy sid udsNrcServiceNotSupported s

theorem handleUdsRequest_eq (inp : BodyInputs) (data : Vector UInt8 8) (s : Body) :
    handleUdsRequest inp data s =
      match requestOf data with
      | some payload => bodyServe inp payload s
      | none => countInvalid s := by
  have hmax : udsSfMaxPayloadBytes = 7 := rfl
  rw [handleUdsRequest, requestOf]
  split
  · rfl
  · simp only [hmax]
    split
    · rfl
    · rfl

end UdsFrame
