import RemoteVehicle.MainTransmit

/-!
# MAIN diagnostics — `dcm.c`

Three trouble codes, one for each communication partner, and the server for diagnostic
requests that are addressed to MAIN itself.  `Dtc` has one loss and one recovery
function; the callbacks of the source apply them to their own code.

`udsProcessRx` answers through `doIPProcessTx` only, and it changes nothing but the
static variables of `dcm.c`.
-/

namespace MainDcm

open ByteWords MainState MainTransmit

/-! ## Trouble codes -/

/-- `DTC_STATUS_TEST_FAILED`, `DTC_STATUS_CONFIRMED_DTC`. -/
def dtcStatusTestFailed : UInt8 := 0x01
def dtcStatusConfirmedDtc : UInt8 := 0x08

/-- Communication is lost: the third loss in a row confirms the code. -/
def Dtc.commloss (d : Dtc) : Dtc :=
  let occurCount := if d.occurCount < 255 then d.occurCount + 1 else d.occurCount
  let status := d.status ||| dtcStatusTestFailed
  { status := if 3 ≤ occurCount then status ||| dtcStatusConfirmedDtc else status
    occurCount := occurCount }

/-- Communication is back. -/
def Dtc.recovered (d : Dtc) : Dtc :=
  { status := d.status &&& ~~~dtcStatusTestFailed, occurCount := 0 }

/-- A cleared code. -/
def Dtc.clear : Dtc := { status := 0, occurCount := 0 }

/-- `DCM_Callback_PcCommloss`, `DCM_Callback_ActCommloss`, `DCM_Callback_BodyCommloss`. -/
def dcmCallbackPcCommloss (s : Main) : Main :=
  { s with dcm := { s.dcm with pc := Dtc.commloss s.dcm.pc } }
def dcmCallbackActCommloss (s : Main) : Main :=
  { s with dcm := { s.dcm with act := Dtc.commloss s.dcm.act } }
def dcmCallbackBodyCommloss (s : Main) : Main :=
  { s with dcm := { s.dcm with body := Dtc.commloss s.dcm.body } }

/-- `DCM_Callback_PcRecovered`, `DCM_Callback_ActRecovered`, `DCM_Callback_BodyRecovered`. -/
def dcmCallbackPcRecovered (s : Main) : Main :=
  { s with dcm := { s.dcm with pc := Dtc.recovered s.dcm.pc } }
def dcmCallbackActRecovered (s : Main) : Main :=
  { s with dcm := { s.dcm with act := Dtc.recovered s.dcm.act } }
def dcmCallbackBodyRecovered (s : Main) : Main :=
  { s with dcm := { s.dcm with body := Dtc.recovered s.dcm.body } }

/-- `DCM_Clear_All_DTC`. -/
def dcmClearAllDtc (s : Main) : Main :=
  { s with dcm := { s.dcm with pc := Dtc.clear, act := Dtc.clear, body := Dtc.clear } }

/-- `DCM_Get_*_CommStatus`. -/
def Dtc.commStatus (d : Dtc) : UInt8 := d.status &&& 0x01

/-! ## Diagnostic requests -/

/-- `Current_Diag_Session = subFunc`. -/
def setDiagSession (subFunc : UInt8) (s : Main) : Main :=
  { s with dcm := { s.dcm with currentDiagSession := subFunc } }

/-- `DoIP_ProcessTx(0x0001, txBuf, txLen)`. -/
def respond (txBuf : List UInt8) (s : Main) : Main :=
  doIPProcessTx 0x0001 (ofList txBuf) txBuf.length s

/-- `Send_NegativeResponse`. -/
def sendNegativeResponse (reqSid nrc : UInt8) (s : Main) : Main := respond [0x7F, reqSid, nrc] s

/-- Service 0x10. -/
def udsSessionControl (reqData : Payload) (reqLength : Nat) (s : Main) : Main :=
  let sid := reqData 0
  if reqLength ≠ 2 then sendNegativeResponse sid 0x13 s
  else
    let subFunc := reqData 1
    if subFunc = 0x01 ∨ subFunc = 0x03 then
      respond [0x50, subFunc, 0x0b, 0xb8, 0x0b, 0xb8] (setDiagSession subFunc s)
    else sendNegativeResponse sid 0x12 s

/-- The data behind a data identifier. -/
def didData (did : UInt16) (d : Dcm) : Option (List UInt8) :=
  if did = 0xF190 then some [0x47, 0x57, 0x30, 0x31]
  else if did = 0x0400 then some [Dtc.commStatus d.act]
  else if did = 0x0401 then some [Dtc.commStatus d.body]
  else if did = 0x0402 then some [Dtc.commStatus d.pc]
  else none

/-- Service 0x22. -/
def udsReadData (reqData : Payload) (reqLength : Nat) (s : Main) : Main :=
  let sid := reqData 0
  if reqLength ≠ 3 then sendNegativeResponse sid 0x13 s
  else
    let did := word16 (reqData 1) (reqData 2)
    match didData did s.dcm with
    | some data => respond ([0x62, highByte did, lowByte did] ++ data) s
    | none => sendNegativeResponse sid 0x31 s

/-- The three codes with their status bytes, in the order of the report. -/
def dtcTable (d : Dcm) : List (List UInt8 × UInt8) :=
  [([0xC4, 0x00, 0x00], d.act.status), ([0xC4, 0x01, 0x00], d.body.status),
   ([0xC4, 0x02, 0x00], d.pc.status)]

/-- The records of a report. -/
def dtcRecords (table : List (List UInt8 × UInt8)) : List UInt8 :=
  table.flatMap fun p => p.1 ++ [p.2]

/-- Service 0x19.  Sub-function 0x02 reads its mask also when the request has only two
    bytes. -/
def udsReadDtc (reqData : Payload) (reqLength : Nat) (s : Main) : Main :=
  let sid := reqData 0
  if reqLength ≠ 2 ∧ reqLength ≠ 3 then sendNegativeResponse sid 0x13 s
  else
    let subFunc := reqData 1
    if subFunc = 0x0A then respond ([0x59, 0x0A, 0xFF] ++ dtcRecords (dtcTable s.dcm)) s
    else if subFunc = 0x02 then
      let statusMask := reqData 2
      respond ([0x59, 0x02, 0xFF] ++
        dtcRecords ((dtcTable s.dcm).filter fun p => p.2 &&& statusMask != 0)) s
    else sendNegativeResponse sid 0x12 s

/-- Service 0x14. -/
def udsClearDtc (reqData : Payload) (reqLength : Nat) (s : Main) : Main :=
  let sid := reqData 0
  if reqLength ≠ 4 then sendNegativeResponse sid 0x13 s
  else if packWord (reqData 3) (reqData 2) (reqData 1) 0 = 0xFFFFFF then
    respond [0x54] (dcmClearAllDtc s)
  else sendNegativeResponse sid 0x31 s

/-- `Uds_ProcessRx`. -/
def udsProcessRx (reqData : Payload) (reqLength : Nat) (s : Main) : Main :=
  let s := s.emit (.uds (bytesOf reqData reqLength))
  if reqLength = 0 then s
  else
    let sid := reqData 0
    if sid = 0x10 then udsSessionControl reqData reqLength s
    else if sid = 0x22 then udsReadData reqData reqLength s
    else if sid = 0x19 then udsReadDtc reqData reqLength s
    else if sid = 0x14 then udsClearDtc reqData reqLength s
    else sendNegativeResponse sid 0x11 s

/-! ## What a request can do -/

/-- Changes of the diagnostic variables, and answers. -/
def Answers (s s' : Main) : Prop :=
  ∃ dcm, Emits (fun o => IsTcp o ∨ ∃ reqData, o = .uds reqData) { s with dcm := dcm } s'

theorem answers_respond (txBuf : List UInt8) (dcm : Dcm) (s : Main) :
    Answers s (respond txBuf { s with dcm := dcm }) :=
  ⟨dcm, (doIPProcessTx_emits 0x0001 (ofList txBuf) txBuf.length _).mono fun _ h => Or.inl h⟩

theorem answers_sessionControl (reqData : Payload) (reqLength : Nat) (s : Main) :
    Answers s (udsSessionControl reqData reqLength s) := by
  simp only [udsSessionControl]
  split
  · exact answers_respond _ s.dcm s
  · split
    · exact answers_respond _ { s.dcm with currentDiagSession := reqData 1 } s
    · exact answers_respond _ s.dcm s

theorem answers_readData (reqData : Payload) (reqLength : Nat) (s : Main) :
    Answers s (udsReadData reqData reqLength s) := by
  simp only [udsReadData]
  split
  · exact answers_respond _ s.dcm s
  · split
    · exact answers_respond _ s.dcm s
    · exact answers_respond _ s.dcm s

theorem answers_readDtc (reqData : Payload) (reqLength : Nat) (s : Main) :
    Answers s (udsReadDtc reqData reqLength s) := by
  simp only [udsReadDtc]
  split
  · exact answers_respond _ s.dcm s
  · split
    · exact answers_respond _ s.dcm s
    · split
      · exact answers_respond _ s.dcm s
      · exact answers_respond _ s.dcm s

theorem answers_clearDtc (reqData : Payload) (reqLength : Nat) (s : Main) :
    Answers s (udsClearDtc reqData reqLength s) := by
  simp only [udsClearDtc]
  split
  · exact answers_respond _ s.dcm s
  · split
    · exact answers_respond _
        { s.dcm with pc := Dtc.clear, act := Dtc.clear, body := Dtc.clear } s
    · exact answers_respond _ s.dcm s

/-- What `udsProcessRx` does after it was called. -/
theorem udsProcessRx_rest (reqData : Payload) (reqLength : Nat) (s : Main) :
    Answers (s.emit (.uds (bytesOf reqData reqLength))) (udsProcessRx reqData reqLength s) := by
  simp only [udsProcessRx]
  split
  · exact ⟨s.dcm, Emits.refl _ _⟩
  · split
    · exact answers_sessionControl reqData reqLength _
    · split
      · exact answers_readData reqData reqLength _
      · split
        · exact answers_readDtc reqData reqLength _
        · split
          · exact answers_clearDtc reqData reqLength _
          · exact answers_respond _ s.dcm _

/-- **A request changes the diagnostic variables only, and sends on TCP only.** -/
theorem udsProcessRx_answers (reqData : Payload) (reqLength : Nat) (s : Main) :
    Answers s (udsProcessRx reqData reqLength s) := by
  obtain ⟨dcm, h⟩ := udsProcessRx_rest reqData reqLength s
  exact ⟨dcm, Emits.trans (Emits.one (Or.inr ⟨_, rfl⟩)) h⟩

/-- The call is on record. -/
theorem udsProcessRx_called (reqData : Payload) (reqLength : Nat) (s : Main) :
    .uds (bytesOf reqData reqLength) ∈ (udsProcessRx reqData reqLength s).out := by
  obtain ⟨_, h⟩ := udsProcessRx_rest reqData reqLength s
  exact h.old (by simp)

end MainDcm
