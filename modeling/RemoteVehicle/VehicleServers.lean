import RemoteVehicle.DtcReportProofs
import RemoteVehicle.HealthProofs
import RemoteVehicle.Moments
import RemoteVehicle.PcFullScan
import RemoteVehicle.ReadDtcProofs
import RemoteVehicle.ScanAgreementProofs
import RemoteVehicle.UdsMainTrace

/-!
# The four diagnostic servers of a vehicle

MEDIA, MAIN, ACT and BODY, as the operator's backend asks them: what a request and its response
say of the state in which it was served (`main_did`, `main_dtcs`, `media_did`, `media_report`), that
the session is always entered (`serves_session`), and what a clear leaves (`serves_clear`).

`Linked` says that a client hands back what the server answered at a moment of the request, or
raises.
-/

namespace VehicleServers

open Dialogue PcDiagnostics PcFullScan
open ActUdsDiag hiding word16
open CanFrame ActState BodyState BodyUds UdsFrame UdsTrace UdsAnswer UdsTunnel UdsMainTrace
open MainState MainDcm MainRouting MainDoip MainLoop MainFrame DiagAck ScanAgreement

/-! ## Nodes -/

inductive Node where
  | media
  | main
  | act
  | body
deriving DecidableEq, Repr

/-- What the servers answer from. -/
structure Vehicle where
  status : MediaUds.SystemStatus
  dtcs : List MediaUds.DtcRow
  main : Main
  act : Act
  body : Body

namespace Node

/-- The order in which `clear_all_dtcs` goes through them. -/
def all : List Node := [.media, .main, .act, .body]

/-- The name in `clear_all_dtcs`. -/
def name : Node → String
  | .media => "MEDIA PI"
  | .main => "MAIN ECU"
  | .act => actTarget.name
  | .body => bodyTarget.name

/-- The session that is entered. -/
def session : Node → UInt8
  | .media => 0x01
  | _ => 0x03

/-- The data identifiers that are read. -/
def dids : Node → List DidSpec
  | .media => mediaDids
  | .main => mainDids
  | .act => actTarget.dids
  | .body => bodyTarget.dids

/-- The request for the trouble codes. -/
def report : Node → List UInt8
  | .main => [0x19, 0x0A]
  | _ => [0x19, 0x02, 0xFF]

/-- What the scan and the clear ask. -/
def requests (n : Node) : List (List UInt8) :=
  [0x10, n.session] :: n.dids.map (fun spec => didRequest spec.did) ++
    [n.report, clearRequest 0xFFFFFF]

/-- The request is served with the response. -/
def Serves : Node → List UInt8 → Vehicle → List UInt8 → Vehicle → Prop
  | .media => fun req s resp s' => MediaUds.handle req s.status s.dtcs = (resp, s'.dtcs)
  | .main => fun req s resp s' => ∃ e, s'.main = mainStep s.main e ∧
      mainRequests s.main e = [req] ∧ mainResponses s.main e = [resp]
  | .act => fun req s resp s' => s'.act = actServe false req s.act ∧
      actResponses s'.act = actResponses s.act ++ [resp]
  | .body => fun req s resp s' => ∃ inp, inp.udsTxBusy = false ∧
      s'.body = bodyServe inp req s.body ∧ bodyResponses s'.body = bodyResponses s.body ++ [resp]

/-- What a clear leaves: ACT and BODY keep the bit of a failure that is going on. -/
def Cleared : Node → Vehicle → Prop
  | .media => fun s => s.dtcs = []
  | .main => fun s => s.main.dcm.pc = Dtc.clear ∧ s.main.dcm.act = Dtc.clear ∧
      s.main.dcm.body = Dtc.clear
  | .act => fun s => s.act.uds.dtcC100Status &&& dtcStatusHistoryBit = 0 ∧
      s.act.uds.dtcC101Status &&& dtcStatusHistoryBit = 0
  | .body => fun s => s.body.control.dtc.status &&& BodyControl.dtcStatusHistoryBit = 0

end Node

/-- The client of a node. -/
def client {W : Type} (clients : Clients W) : Node → Client W
  | .media => clients.media
  | .main => clients.main
  | .act => clients.act
  | .body => clients.body

section Links

variable {W : Type} [Preorder W] (state : W → Vehicle) (fails : Node → Prop)

/-- **The link to a node.**  A response is what the server answered meanwhile; only where the
    link may fail is the activation refused or an exception raised. -/
structure Linked (n : Node) (c : Client W) : Prop where
  activation : ∀ w, Ends c.routingActivation w
    (fun activation _ => activation.responseCode = 0x10 ∨ fails n) fun _ _ => fails n
  request : ∀ req ∈ n.requests, ∀ w, Ends (c.request req) w
    (fun resp w' => ∃ v v', w ≤ v ∧ v ≤ v' ∧ v' ≤ w' ∧ n.Serves req (state v) resp (state v'))
    fun _ _ => fails n

end Links

/-! ## MAIN -/

section Main

variable {req resp : List UInt8} {s s' : Vehicle}

/-- A step that is asked serves the request. -/
theorem dcmAfter_asked {m : Main} {e : MainEvent} (h : asked m e = [req]) :
    dcmAfter m e = mainServed req m.dcm := by
  obtain ⟨env, call⟩ := e
  cases call with
  | lwip c =>
      cases c with
      | udpRecv localPort p addr port =>
          simp only [asked] at h
          split at h
          · rename_i hasks
            obtain rfl := List.singleton_inj.mp h
            have hport : ¬ localPort = 5000 := by
              rw [hasks.1]
              decide
            simp only [dcmAfter, if_neg hport, if_pos hasks]
          · cases h
      | tcpRecv tpcb p rest =>
          simp only [asked] at h
          split at h
          · rename_i hasks
            obtain rfl := List.singleton_inj.mp h
            exact if_pos hasks
          · cases h
      | _ => cases h
  | _ => cases h

/-- **Serving of MAIN** is a call of `Uds_ProcessRx` whose answer the connection takes. -/
theorem main_served (h : Node.main.Serves req s resp s') :
    s'.main.dcm = mainServed req s.main.dcm ∧
      ∃ reqData n, ∃ t : Main, 1 ≤ n ∧ bytesOf reqData n = req ∧
        mainServed req t.dcm = mainServed req s.main.dcm ∧
        ∀ resp' t', resp'.length ≤ 15 → t'.out = t.out ++ [.uds (bytesOf reqData n)] →
          udsProcessRx reqData n t = respond resp' t' → resp = resp' := by
  obtain ⟨e, hmain, hreq, hresp⟩ := h
  obtain ⟨hout, hdcm⟩ := accounted s.main e
  rcases hout with ⟨hasked, hsilent⟩ | ⟨p, t, hasks, -, hasked, hentered, hstep⟩
  · rw [mainRequests_eq, hasked] at hreq
    cases hreq
  rw [mainRequests_eq] at hreq
  obtain rfl : requestIn p = req := List.singleton_inj.mp (hasked.symm.trans hreq)
  have hafter : (mainStep s.main e).dcm = mainServed (requestIn p) s.main.dcm :=
    hdcm.trans (dcmAfter_asked hasked)
  obtain ⟨⟨hfits, htype, hlen12, hroutable⟩, hta, hlen⟩ := hasks
  have hserve : mainStep s.main e = udsProcessRx (offset p.payload 12) (p.len - 12)
      (t.write (ackBytes p)) := by
    rw [hstep, routed_eq ⟨hfits, htype, hlen12⟩ hroutable, routeDiagnostic, if_pos hta,
      pduRRouteRx_doipMain]
  have hbytes : bytesOf (offset p.payload 12) (p.len - 12) = requestIn p := bytesOf_offset _ _ _
  have hpos : 1 ≤ p.len - 12 := by omega
  refine ⟨hmain ▸ hafter, offset p.payload 12, p.len - 12, t.write (ackBytes p), hpos, hbytes,
    ?_, ?_⟩
  · have hthere := (asked_dcm (s := t) ⟨⟨hfits, htype, hlen12, hroutable⟩, hta, hlen⟩).2
    rw [← hstep, hafter] at hthere
    exact hthere.symm
  · intro resp' t' hlen' hout' hcall
    -- what follows the call of the server is what is written of the response
    have houts : (mainStep s.main e).out =
        t.written (ackBytes p) ++ .uds (requestIn p) :: t'.written (doipMessage 0x0001 resp') := by
      rw [hserve, hcall, respond_message (by omega), write_out, hout', hbytes, write_out,
        hentered.out, List.nil_append, List.append_assoc, List.singleton_append]
    have hserver : responseOut (.uds (requestIn p)) = none := rfl
    rw [mainResponses, houts, List.filterMap_append,
      (filterMap_silent (written_ack_silent p t)).2, List.nil_append,
      List.filterMap_cons_none hserver, (written_response resp' t').2] at hresp
    rcases htaker : t'.taker (doipMessage 0x0001 resp') with _ | pcb
    · rw [htaker] at hresp
      cases hresp
    · rw [htaker] at hresp
      exact (List.singleton_inj.mp hresp).symm

/-- The bytes of a request that is known. -/
theorem bytes_known {reqData : Payload} {n : Nat} (h : bytesOf reqData n = req) :
    n = req.length ∧ ∀ i < req.length, reqData i = req.getD i 0 := by
  have hlen : n = req.length := by rw [← h, bytesOf_length]
  refine ⟨hlen, fun i hi => ?_⟩
  rw [← h, getD_bytesOf reqData (by omega)]

theorem main_session (h : Node.main.Serves [0x10, 0x03] s resp s') :
    resp = [0x50, 0x03, 0x0b, 0xb8, 0x0b, 0xb8] := by
  obtain ⟨-, reqData, n, t, hpos, hbytes, -, hresp⟩ := main_served h
  obtain ⟨rfl, hbyte⟩ := bytes_known hbytes
  have h0 : reqData 0 = 0x10 := hbyte 0 (by decide)
  have h1 : reqData 1 = 0x03 := hbyte 1 (by decide)
  refine hresp _ (setDiagSession 0x03 (t.emit (.uds (bytesOf reqData 2)))) (by decide) rfl ?_
  show udsProcessRx reqData 2 t = _
  rw [udsProcessRx_sid (by decide) h0, if_pos rfl, udsSessionControl, if_neg (by decide), h1]
  exact if_pos (Or.inr rfl)

/-- **A data identifier of MAIN** is read from the trouble codes. -/
theorem main_did (hi lo : UInt8) {data : List UInt8} (hlen : data.length ≤ 12)
    (hdata : didData (word16 hi lo) s.main.dcm = some data)
    (h : Node.main.Serves [0x22, hi, lo] s resp s') : resp = 0x62 :: hi :: lo :: data := by
  obtain ⟨-, reqData, n, t, hpos, hbytes, hsame, hresp⟩ := main_served h
  obtain ⟨rfl, hbyte⟩ := bytes_known hbytes
  have h0 : reqData 0 = 0x22 := hbyte 0 (Nat.zero_lt_succ _)
  have h1 : reqData 1 = hi := hbyte 1 (Nat.lt_add_of_pos_left (Nat.zero_lt_succ _))
  have h2 : reqData 2 = lo := hbyte 2 (Nat.lt_succ_self 2)
  have hother : ∀ d, mainServed [0x22, hi, lo] d = d := fun d => mainServed_other
    (requestedMainSession_sid (by show (0x22 : UInt8) ≠ 0x10; decide))
    (not_clearsDtc_sid (by show (0x22 : UInt8) ≠ 0x14; decide)) d
  rw [hother, hother] at hsame
  have hlen : (0x62 :: hi :: lo :: data).length ≤ 15 := by
    simp only [List.length_cons]
    omega
  refine hresp _ (t.emit (.uds (bytesOf reqData 3))) hlen rfl ?_
  show udsProcessRx reqData 3 t = _
  have hdata : didData (word16 hi lo) (t.emit (.uds (bytesOf reqData 3))).dcm = some data :=
    hsame ▸ hdata
  rw [udsProcessRx_sid (by decide) h0, if_neg (by decide), if_pos rfl, udsReadData,
    if_neg (by decide)]
  simp only [h1, h2, hdata, highByte_word16, lowByte_word16]
  rfl

/-- **The report of MAIN** has its three codes. -/
theorem main_dtcs (h : Node.main.Serves [0x19, 0x0A] s resp s') :
    resp = 0x59 :: 0x0A :: 0xFF :: dtcRecords (dtcTable s.main.dcm) := by
  obtain ⟨-, reqData, n, t, hpos, hbytes, hsame, hresp⟩ := main_served h
  obtain ⟨rfl, hbyte⟩ := bytes_known hbytes
  have h0 : reqData 0 = 0x19 := hbyte 0 (by decide)
  have h1 : reqData 1 = 0x0A := hbyte 1 (by decide)
  have hother : ∀ d, mainServed [0x19, 0x0A] d = d := fun d => mainServed_other
    (requestedMainSession_sid (by decide)) (not_clearsDtc_sid (by decide)) d
  rw [hother, hother] at hsame
  have hlen : (0x59 :: 0x0A :: 0xFF :: dtcRecords (dtcTable s.main.dcm)).length ≤ 15 := by
    simp only [List.length_cons, length_dtcRecords (dtcTable_codes s.main.dcm)]
    exact (by decide : 4 * 3 + 3 ≤ 15)
  refine hresp _ (t.emit (.uds (bytesOf reqData 2))) hlen rfl ?_
  have hserve := ReadDtc.answered_readDtc (d := s.main.dcm) hpos h0 t hsame
  rw [hserve, ReadDtc.readDtcResponse, if_neg (by decide), if_pos h1]
  rfl

/-- **A clear of MAIN.** -/
theorem main_clear (h : Node.main.Serves [0x14, 0xFF, 0xFF, 0xFF] s resp s') :
    resp = [0x54] ∧ Node.main.Cleared s' := by
  obtain ⟨hdcm, reqData, n, t, hpos, hbytes, -, hresp⟩ := main_served h
  obtain ⟨rfl, hbyte⟩ := bytes_known hbytes
  have h0 : reqData 0 = 0x14 := hbyte 0 (by decide)
  have h1 : reqData 1 = 0xFF := hbyte 1 (by decide)
  have h2 : reqData 2 = 0xFF := hbyte 2 (by decide)
  have h3 : reqData 3 = 0xFF := hbyte 3 (by decide)
  constructor
  · refine hresp _ (dcmClearAllDtc (t.emit (.uds (bytesOf reqData 4)))) (by decide) rfl ?_
    show udsProcessRx reqData 4 t = _
    rw [udsProcessRx_sid (by decide) h0, if_neg (by decide), if_neg (by decide),
      if_neg (by decide), if_pos rfl, udsClearDtc, if_neg (by decide), h1, h2, h3]
    exact if_pos (by decide)
  · have hclears : ClearsDtc [0x14, 0xFF, 0xFF, 0xFF] := by decide
    rw [mainServed, if_pos hclears] at hdcm
    refine ⟨?_, ?_, ?_⟩ <;> rw [hdcm]

end Main

/-! ## Sessions and clears -/

/-- **The session is entered** in every state. -/
theorem serves_session {n : Node} {resp : List UInt8} {s s' : Vehicle}
    (h : n.Serves [0x10, n.session] s resp s') :
    2 ≤ resp.length ∧ resp.getD 0 0 = 0x50 ∧ resp.getD 1 0 = n.session := by
  cases n with
  | media =>
      obtain rfl : [0x50, 0x01, 0x00, 0x19, 0x01, 0xF4] = resp := congrArg Prod.fst h
      exact ⟨by decide, rfl, rfl⟩
  | main =>
      obtain rfl := main_session h
      exact ⟨by decide, rfl, rfl⟩
  | act =>
      obtain ⟨hact, hresp⟩ := h
      exact understands_act.session resp ⟨s.act, hact ▸ hresp⟩
  | body =>
      obtain ⟨inp, hfree, hbody, hresp⟩ := h
      exact understands_body.session resp ⟨inp, s.body, hfree, hbody ▸ hresp⟩

theorem history_cleared :
    ∀ b : UInt8, b &&& ~~~ dtcStatusHistoryBit &&& dtcStatusHistoryBit = 0 := by
  rintro ⟨b⟩
  revert b
  decide +kernel

/-- **A clear is answered positively** in every state, and clears. -/
theorem serves_clear {n : Node} {resp : List UInt8} {s s' : Vehicle}
    (h : n.Serves [0x14, 0xFF, 0xFF, 0xFF] s resp s') : resp = [0x54] ∧ n.Cleared s' := by
  cases n with
  | media =>
      obtain ⟨hresp, hdtcs⟩ := Prod.mk.inj h
      exact ⟨hresp.symm, hdtcs.symm⟩
  | main => exact main_clear h
  | act =>
      obtain ⟨hact, hresp⟩ := h
      have hserve : actServe false [0x14, 0xFF, 0xFF, 0xFF] s.act =
          udsDiagSendSingleFrame false [0x54] (actServed [0x14, 0xFF, 0xFF, 0xFF] s.act) := rfl
      have hsame : actResponses (actServed [0x14, 0xFF, 0xFF, 0xFF] s.act) = actResponses s.act :=
        rfl
      rw [hact, hserve, actResponses_send (by decide) (by decide), hsame] at hresp
      refine ⟨(List.singleton_inj.mp (List.append_cancel_left hresp)).symm, ?_⟩
      show s'.act.uds.dtcC100Status &&& _ = 0 ∧ s'.act.uds.dtcC101Status &&& _ = 0
      rw [hact]
      exact ⟨history_cleared s.act.uds.dtcC100Status, history_cleared s.act.uds.dtcC101Status⟩
  | body =>
      obtain ⟨inp, hfree, hbody, hresp⟩ := h
      have hserve : bodyServe inp [0x14, 0xFF, 0xFF, 0xFF] s.body =
          sendUdsPayload inp.udsTxBusy [0x54]
            { s.body with control := BodyControl.clearDtcHistory s.body.control } := rfl
      have hsame : bodyResponses
          { s.body with control := BodyControl.clearDtcHistory s.body.control } =
          bodyResponses s.body := rfl
      rw [hbody, hserve, hfree, bodyResponses_send (by decide) (by decide), hsame] at hresp
      refine ⟨(List.singleton_inj.mp (List.append_cancel_left hresp)).symm, ?_⟩
      show s'.body.control.dtc.status &&& _ = 0
      have hdtc : (bodyServe inp [0x14, 0xFF, 0xFF, 0xFF] s.body).control.dtc.status =
          s.body.control.dtc.status &&& ~~~ BodyControl.dtcStatusHistoryBit := by
        rw [hserve, hfree]
        rfl
      rw [hbody, hdtc]
      exact history_cleared s.body.control.dtc.status

/-! ## Data identifiers -/

/-- What MEDIA's row for a data identifier stands for. -/
def mediaValue (did : Nat) (s : MediaUds.SystemStatus) : Value :=
  if did = 0xF190 then .text "MED1"
  else if did = 0x0300 then .text (if s.eth0 then "UP" else "DOWN")
  else if did = 0x0301 then .text (if s.usb1 then "연결" else "미연결")
  else if did = 0x0302 then .text (if s.usb then "연결" else "미연결")
  else if did = 0x0303 then .text (if s.mic then "연결" else "미연결")
  else if did = 0x0304 then .text (if s.flask then "실행 중" else "중지")
  else if did = 0x0305 then .text (if s.someip then "실행 중" else "중지")
  else .number ↑(min ⌊s.storageUsedPct⌋₊ 100)

/-- What MAIN's row for a data identifier stands for. -/
def mainValue (did : Nat) (d : Dcm) : Value :=
  let comm : Dtc → Value := fun c =>
    .text (if c.status &&& dtcStatusTestFailed = 0 then "정상" else "두절")
  if did = 0xF190 then .text "GW01"
  else if did = 0x0400 then comm d.act
  else if did = 0x0401 then comm d.body
  else comm d.pc

/-- A row is as its entry of the table says, and shows the value. -/
structure Shows (spec : DidSpec) (value : Value) (result : DidResult) : Prop where
  ok : result.ok = true
  did : result.did = spec.did
  label : result.label = spec.label
  unit : result.unit = spec.unit
  value : result.value = value

/-- A response that repeats the identifier is decoded. -/
theorem shows_decoded {spec : DidSpec} (hi lo : UInt8) {data : List UInt8} {value : Value}
    (hdid : BigEndian.value [hi, lo] = spec.did) (hvalue : spec.decoder data = value) :
    Shows spec value (didResult spec (0x62 :: hi :: lo :: data)) := by
  have hhead : 3 ≤ (0x62 :: hi :: lo :: data).length ∧
      (0x62 :: hi :: lo :: data).getD 0 0 = 0x62 := ⟨by simp, rfl⟩
  have hsame : BigEndian.value (((0x62 :: hi :: lo :: data).drop 1).take 2) = spec.did := hdid
  rw [didResult, if_pos hhead, if_pos hsame]
  exact ⟨rfl, rfl, rfl, rfl, hvalue⟩

/-- **A data identifier of MEDIA** shows the status in which it was read. -/
theorem media_did {spec : DidSpec} (hspec : spec ∈ mediaDids) {resp : List UInt8} {s s' : Vehicle}
    (h : Node.media.Serves (didRequest spec.did) s resp s') :
    Shows spec (mediaValue spec.did s.status) (didResult spec resp) := by
  obtain rfl : (MediaUds.handle (didRequest spec.did) s.status s.dtcs).1 = resp :=
    congrArg Prod.fst h
  obtain ⟨eth0, usb1, usb, mic, flask, someip, pct⟩ := s.status
  simp only [mediaDids, List.mem_cons, List.not_mem_nil, or_false] at hspec
  rcases hspec with rfl | rfl | rfl | rfl | rfl | rfl | rfl | rfl
  · exact shows_decoded 0xF1 0x90 rfl rfl
  · cases eth0 <;> exact shows_decoded 0x03 0x00 rfl rfl
  · cases usb1 <;> exact shows_decoded 0x03 0x01 rfl rfl
  · cases usb <;> exact shows_decoded 0x03 0x02 rfl rfl
  · cases mic <;> exact shows_decoded 0x03 0x03 rfl rfl
  · cases flask <;> exact shows_decoded 0x03 0x04 rfl rfl
  · cases someip <;> exact shows_decoded 0x03 0x05 rfl rfl
  · refine shows_decoded 0x03 0x06 rfl ?_
    show Value.number ↑(UInt8.ofNat (min ⌊pct⌋₊ 100)).toNat = .number ↑(min ⌊pct⌋₊ 100)
    rw [UInt8.toNat_ofNat', Nat.mod_eq_of_lt (lt_of_le_of_lt (min_le_right _ _) (by decide))]

/-- **A data identifier of MAIN** shows the trouble codes with which it was read. -/
theorem main_shows {spec : DidSpec} (hspec : spec ∈ mainDids) {resp : List UInt8}
    {s s' : Vehicle} (h : Node.main.Serves (didRequest spec.did) s resp s') :
    Shows spec (mainValue spec.did s.main.dcm) (didResult spec resp) := by
  have hcomm : ∀ c : Dtc, decodeOkLost [Dtc.commStatus c] =
      .text (if c.status &&& dtcStatusTestFailed = 0 then "정상" else "두절") := by
    intro c
    by_cases hbit : c.status &&& dtcStatusTestFailed = 0
    · have hhead : ([Dtc.commStatus c] : List UInt8).head? = some 0 := congrArg some hbit
      rw [decodeOkLost, if_pos hhead, if_pos hbit]
    · have hhead : ¬ ([Dtc.commStatus c] : List UInt8).head? = some 0 :=
        fun hhead => hbit (Option.some.inj hhead)
      rw [decodeOkLost, if_neg hhead, if_neg hbit]
  have hone : ∀ c : Dtc, ([Dtc.commStatus c] : List UInt8).length ≤ 12 := fun c => by
    show 1 ≤ 12
    decide
  simp only [mainDids, List.mem_cons, List.not_mem_nil, or_false] at hspec
  rcases hspec with rfl | rfl | rfl | rfl
  · have hid : didData 0xF190 s.main.dcm = some [0x47, 0x57, 0x30, 0x31] := rfl
    rw [main_did 0xF1 0x90 (by decide) hid h]
    exact shows_decoded 0xF1 0x90 rfl rfl
  · rw [main_did 0x04 0x00 (hone _) rfl h]
    exact shows_decoded 0x04 0x00 rfl (hcomm s.main.dcm.act)
  · rw [main_did 0x04 0x01 (hone _) rfl h]
    exact shows_decoded 0x04 0x01 rfl (hcomm s.main.dcm.body)
  · rw [main_did 0x04 0x02 (hone _) rfl h]
    exact shows_decoded 0x04 0x02 rfl (hcomm s.main.dcm.pc)

/-! ## Trouble codes -/

/-- What the operator's list says of a code and its status. -/
def shownCode (code : Nat) (status : UInt8) : DtcItem where
  code := code
  status := status
  active := status &&& 0x01 ≠ 0
  description := (dtcDescriptions.lookup code).getD "정의되지 않은 DTC"

/-- The codes of MEDIA, the latest first. -/
def mediaCodes (dtcs : List MediaUds.DtcRow) : List DtcItem :=
  (MediaUds.query 0xFF dtcs).map fun row => shownCode row.dtcCode row.statusByte

/-- The codes of MAIN that have a status. -/
def mainCodes (d : Dcm) : List DtcItem :=
  ([(0xC40000, d.act.status), (0xC40100, d.body.status), (0xC40200, d.pc.status)].filter
    fun code => code.2 ≠ 0).map fun code => shownCode code.1 code.2

/-- The items are the records that have a status. -/
theorem dtcItems_shown (bytes : List UInt8) :
    dtcItems bytes = ((DtcReport.parseRecords bytes).filter fun record => record.2 ≠ 0).map
      fun record => shownCode record.1 record.2 := by
  induction bytes using dtcItems.induct with
  | case1 b0 b1 b2 rest ih =>
      rw [dtcItems, DtcReport.parseRecords, if_pos rfl, List.filter_cons_of_neg (by simp), ih]
  | case2 b0 b1 b2 status rest hstatus ih =>
      rw [dtcItems, DtcReport.parseRecords, if_neg hstatus,
        List.filter_cons_of_pos (by simpa using hstatus), List.map_cons, ih,
        DtcReport.shifted_eq_value]
      rfl
  | case3 bytes hshort =>
      rw [dtcItems.eq_2 _ hshort, DtcReport.parseRecords.eq_2 _ hshort]
      rfl

/-- **The report of MEDIA** is listed as the store was. -/
theorem media_report {resp : List UInt8} {s s' : Vehicle}
    (h : Node.media.Serves [0x19, 0x02, 0xFF] s resp s') :
    (dtcsResult resp).ok = true ∧ (dtcsResult resp).items = mediaCodes s.dtcs := by
  have hresp : resp = 0x59 :: 0x02 :: 0xFF ::
      (MediaUds.query 0xFF s.dtcs).flatMap MediaUds.dtcRecord :=
    (congrArg Prod.fst h).symm.trans (DtcReport.rdtc_eq 0x19 0xFF [] s.dtcs)
  have hitems : (dtcsResult resp).items =
      dtcItems ((MediaUds.query 0xFF s.dtcs).flatMap MediaUds.dtcRecord) := by
    rw [hresp]
    rfl
  have hstatus : ∀ record ∈ (MediaUds.query 0xFF s.dtcs).map DtcReport.view, record.2 ≠ 0 := by
    intro record hrecord
    obtain ⟨row, hrow, rfl⟩ := List.mem_map.mp hrecord
    have hmask := (List.mem_filter.mp ((DtcReport.query_perm 0xFF s.dtcs).mem_iff.mp hrow)).2
    have hbits : row.statusByte &&& 0xFF ≠ 0 := of_decide_eq_true hmask
    intro hzero
    have hzero : row.statusByte = 0 := hzero
    rw [hzero] at hbits
    exact hbits rfl
  refine ⟨by rw [hresp]; rfl, ?_⟩
  rw [hitems, dtcItems_shown, DtcReport.parseRecords_flatMap,
    List.filter_eq_self.mpr fun record hrecord => decide_eq_true (hstatus record hrecord),
    List.map_map]
  rfl

/-- **The report of MAIN** is listed as its codes were. -/
theorem main_report {resp : List UInt8} {s s' : Vehicle}
    (h : Node.main.Serves [0x19, 0x0A] s resp s') :
    (dtcsResult resp).ok = true ∧ (dtcsResult resp).items = mainCodes s.main.dcm := by
  obtain rfl := main_dtcs h
  refine ⟨rfl, ?_⟩
  show dtcItems (dtcRecords (dtcTable s.main.dcm)) = _
  rw [dtcItems_shown]
  rfl

/-! ## Vehicles with a past -/

/-- The states so far, the latest first. -/
structure History where
  now : Vehicle
  past : List Vehicle

instance : Preorder History where
  le h h' := h.now :: h.past <:+ h'.now :: h'.past
  le_refl h := List.suffix_rfl
  le_trans _ _ _ := List.IsSuffix.trans

/-- The next state. -/
def History.push (h : History) (s : Vehicle) : History := ⟨s, h.now :: h.past⟩

theorem History.le_push (h : History) (s : Vehicle) : h ≤ h.push s := List.suffix_cons s _

/-- A diagnostic message for MAIN on the connection. -/
def askMain (req : List UInt8) : MainEvent :=
  let message := [0x02, 0xFD, 0x80, 0x01, 0, 0, 0, UInt8.ofNat (4 + req.length),
    0x0E, 0x00, 0x00, 0x01] ++ req.take 7
  ⟨MainSpec.freeEnv 0, .lwip (.tcpRecv 0 (Pbuf.ofBytes message (by
    simp only [message, List.length_append, List.length_take, List.length_cons, List.length_nil]
    omega)) [])⟩

/-- What a node makes of a request, if it answers. -/
def answer (s : Vehicle) (req : List UInt8) : Node → Option (List UInt8 × Vehicle)
  | .media =>
      let r := MediaUds.handle req s.status s.dtcs
      some (r.1, { s with dtcs := r.2 })
  | .main =>
      match mainRequests s.main (askMain req), mainResponses s.main (askMain req) with
      | [asked], [resp] =>
          if asked = req then some (resp, { s with main := mainStep s.main (askMain req) })
          else none
      | _, _ => none
  | .act =>
      let act := actServe false req s.act
      some ((actResponses act).getLastD [], { s with act := act })
  | .body =>
      let body := bodyServe BodySpec.restBodyInputs req s.body
      some ((bodyResponses body).getLastD [], { s with body := body })

/-- None of the requests starts a routine. -/
theorem requests_sid {n : Node} : ∀ req ∈ n.requests, req.getD 0 0 ≠ 0x31 := by
  cases n <;> decide

theorem answer_serves {s s' : Vehicle} {req resp : List UInt8} {n : Node}
    (hreq : req ∈ n.requests) (h : answer s req n = some (resp, s')) : n.Serves req s resp s' := by
  have hsid := requests_sid req hreq
  cases n with
  | media =>
      injection h with h
      injection h with hresp hs
      rw [← hresp, ← hs]
      rfl
  | main =>
      simp only [answer] at h
      split at h
      · rename_i asked resp' hasked hresp'
        split at h
        · rename_i hsame
          injection h with h
          injection h with hresp hs
          rw [hsame] at hasked
          exact ⟨askMain req, hs ▸ rfl, hasked, hresp ▸ hresp'⟩
        · cases h
      · cases h
  | act =>
      obtain ⟨resp', hresp'⟩ := answeredByAct_of hsid s.act
      injection h with h
      injection h with hresp hs
      rw [hresp', List.getLastD_concat] at hresp
      subst hresp hs
      exact ⟨rfl, hresp'⟩
  | body =>
      have hfree : BodySpec.restBodyInputs.udsTxBusy = false := rfl
      obtain ⟨resp', hresp'⟩ := answeredByBody_of hfree req s.body
      injection h with h
      injection h with hresp hs
      rw [hresp', List.getLastD_concat] at hresp
      subst hresp hs
      exact ⟨BodySpec.restBodyInputs, rfl, rfl, hresp'⟩

/-- The link to a node: the request is made at once, and raises where there is no answer. -/
def link (n : Node) : Client History where
  routingActivation := pure routed
  request req := fun w =>
    match answer w.now req n with
    | some (resp, s') => (.ok resp, w.push s')
    | none => (.error .other, w)

def links : Clients History := ⟨link .media, link .main, link .act, link .body⟩

/-- Only MAIN may fail to answer, where no connection is open. -/
theorem linked_links (n : Node) : Linked History.now (· = .main) n (client links n) := by
  have hlink : client links n = link n := by cases n <;> rfl
  rw [hlink]
  refine ⟨fun w => Ends.pure (Or.inl rfl), fun req hreq w => ?_⟩
  rcases hanswer : answer w.now req n with _ | ⟨resp, s'⟩
  · have hmain : n = .main := by
      cases n with
      | main => rfl
      | _ => cases hanswer
    have hrun : (link n).request req w = (.error .other, w) := by
      simp only [link, hanswer]
    rw [Ends, hrun]
    exact ⟨le_refl w, hmain⟩
  · have hrun : (link n).request req w = (.ok resp, w.push s') := by
      simp only [link, hanswer]
    rw [Ends, hrun]
    exact ⟨w.le_push s', w, w.push s', le_refl w, w.le_push s', le_refl _,
      answer_serves hreq hanswer⟩

/-- A vehicle that has just started, with the operator's connection open, and whose rear camera
    has been found missing. -/
def started : History where
  past := []
  now :=
    { status := (Health.judgedRun [] Health.clearedRun).1.status
      dtcs := (Health.judgedRun [] Health.clearedRun).1.dtcs
      main := { mainReset with tcp := { activePcb := some 0, registered := [0] } }
      act := (ActLoop.actReset ActLoop.restReset).act
      body := BodyCan.bodyReset BodySpec.restBodyInputs }

end VehicleServers
