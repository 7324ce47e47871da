import RemoteVehicle.PcDiagnostics
import RemoteVehicle.SpeedReportProofs

/-!
# The scan of the operator and the diagnostic servers

The scan asks ACT and BODY for a session, for their data identifiers and for their trouble
codes.  Session and identifiers are answered positively in every state.  The trouble codes
are asked for by status mask, and the two servers know only the report without a mask: the
request is refused in every state, and the scan reports an ECU that answers as offline.
-/

namespace ScanAgreement

open ActUdsDiag hiding word16
open Dialogue PcDiagnostics
open CanFrame ActState ActCan ActLoop BodyState BodyUds BodyCan BodySpec UdsFrame UdsAnswer UdsTrace
open SpeedReport

/-! ## Answers of the servers -/

/-- ACT answers the request so in some state. -/
def AnsweredByAct (req resp : List UInt8) : Prop :=
  ∃ s : Act, actResponses (actServe false req s) = actResponses s ++ [resp]

/-- BODY answers the request so in some state. -/
def AnsweredByBody (req resp : List UInt8) : Prop :=
  ∃ (inp : BodyInputs) (s : Body), inp.udsTxBusy = false ∧
    bodyResponses (bodyServe inp req s) = bodyResponses s ++ [resp]

/-- The request for the trouble codes. -/
def maskRequest : List UInt8 := [0x19, 0x02, 0xFF]

/-- What the scan sends to a target. -/
def scanRequests (t : Target) : List (List UInt8) :=
  [0x10, 0x03] :: t.dids.map (fun spec => didRequest spec.did) ++ [maskRequest]

/-- The answer is the one that is sent. -/
theorem answeredByAct_send {req resp : List UInt8} (h : AnsweredByAct req resp)
    (answer : Act → List UInt8) (hlen : ∀ s, 1 ≤ (answer s).length ∧ (answer s).length ≤ 11)
    (hserve : ∀ s, ∃ t, actServe false req s = udsDiagSendSingleFrame false (answer s) t ∧
      t.sent = s.sent) : ∃ s, resp = answer s := by
  obtain ⟨s, hs⟩ := h
  obtain ⟨t, ht, hsent⟩ := hserve s
  have hsame : actResponses t = actResponses s := by rw [actResponses, hsent, actResponses]
  rw [ht, actResponses_send (hlen s).1 (hlen s).2, hsame] at hs
  exact ⟨s, (List.singleton_inj.mp (List.append_cancel_left hs)).symm⟩

theorem answeredByBody_send {req resp : List UInt8} (h : AnsweredByBody req resp)
    (answer : BodyInputs → Body → List UInt8)
    (hlen : ∀ inp s, 1 ≤ (answer inp s).length ∧ (answer inp s).length ≤ 7)
    (hserve : ∀ inp s, ∃ t, bodyServe inp req s = sendUdsPayload inp.udsTxBusy (answer inp s) t ∧
      t.sent = s.sent) : ∃ inp s, resp = answer inp s := by
  obtain ⟨inp, s, hfree, hs⟩ := h
  obtain ⟨t, ht, hsent⟩ := hserve inp s
  have hsame : bodyResponses t = bodyResponses s := by rw [bodyResponses, hsent, bodyResponses]
  rw [ht, hfree, bodyResponses_send (hlen inp s).1 (hlen inp s).2, hsame] at hs
  exact ⟨inp, s, (List.singleton_inj.mp (List.append_cancel_left hs)).symm⟩

/-- What the answers of a target are like. -/
structure Understands (t : Target) (AnsweredBy : List UInt8 → List UInt8 → Prop) : Prop where
  session : ∀ resp, AnsweredBy [0x10, 0x03] resp →
    2 ≤ resp.length ∧ resp.getD 0 0 = 0x50 ∧ resp.getD 1 0 = 0x03
  dids : ∀ spec ∈ t.dids, ∀ resp, AnsweredBy (didRequest spec.did) resp →
    (didResult spec resp).ok = true
  mask : ∀ resp, AnsweredBy maskRequest resp → resp = [0x7F, 0x19, 0x13]

/-- A response that repeats the identifier. -/
theorem didResult_ok {spec : DidSpec} {hi lo : UInt8} {data : List UInt8}
    (h : BigEndian.value [hi, lo] = spec.did) :
    (didResult spec (0x62 :: hi :: lo :: data)).ok = true := by
  have hhead : 3 ≤ (0x62 :: hi :: lo :: data).length ∧
      (0x62 :: hi :: lo :: data).getD 0 0 = 0x62 := ⟨by simp, rfl⟩
  have hdid : BigEndian.value (((0x62 :: hi :: lo :: data).drop 1).take 2) = spec.did := h
  rw [didResult, if_pos hhead, if_pos hdid]

/-- The service behind an identifier, in ACT. -/
theorem actServe_did {did : Nat} {hi lo : UInt8} (h : didRequest did = [0x22, hi, lo]) (s : Act) :
    actServe false (didRequest did) s = udsDiagHandleReadDID false [0x22, hi, lo] s := by
  have hsid : ([0x22, hi, lo] : List UInt8).getD 0 0 = sidReadDataByIdentifier := rfl
  rw [h, actServe_sid hsid, if_neg (by decide), if_pos rfl]

theorem actServe_id (s : Act) :
    actServe false (didRequest 0xF190) s =
      udsDiagSendSingleFrame false [0x62, 0xF1, 0x90, 0x41, 0x43, 0x54, 0x31] s := by
  have hdid : ActUdsDiag.word16 0xF1 0x90 = 0xF190 := by decide
  rw [actServe_did (show didRequest 0xF190 = [0x22, 0xF1, 0x90] by decide)]
  simp only [udsDiagHandleReadDID, List.length_cons, List.length_nil, List.getD_cons_succ,
    List.getD_cons_zero, hdid]
  rfl

/-- The steering angle as two bytes. -/
def angleBytes (s : Act) : List UInt8 :=
  [UInt8.ofNat ((udsDiagGetSteeringAngleDeg s.pot % 65536).toNat / 256),
    UInt8.ofNat (udsDiagGetSteeringAngleDeg s.pot % 65536).toNat]

theorem actServe_angle (s : Act) :
    actServe false (didRequest 0x0101) s =
      udsDiagSendSingleFrame false (0x62 :: 0x01 :: 0x01 :: angleBytes s) s := by
  have hdid : ActUdsDiag.word16 0x01 0x01 = 0x0101 := by decide
  rw [actServe_did (show didRequest 0x0101 = [0x22, 0x01, 0x01] by decide)]
  simp only [udsDiagHandleReadDID, List.length_cons, List.length_nil, List.getD_cons_succ,
    List.getD_cons_zero, hdid]
  rfl

theorem understands_act : Understands actTarget AnsweredByAct := by
  refine ⟨?_, ?_, ?_⟩
  · intro resp h
    obtain ⟨s, rfl⟩ := answeredByAct_send h (fun _ => [0x50, 0x03, 0x27, 0x10, 0x03, 0xE8])
      (fun _ => by simp) fun s => ⟨{ s with uds := { s.uds with diagSession := 0x03 } }, rfl, rfl⟩
    exact ⟨by simp, rfl, rfl⟩
  · intro spec hspec resp h
    simp only [actTarget, List.mem_cons, List.not_mem_nil, or_false] at hspec
    rcases hspec with rfl | rfl | rfl
    · obtain ⟨s, rfl⟩ := answeredByAct_send h (fun _ => [0x62, 0xF1, 0x90, 0x41, 0x43, 0x54, 0x31])
        (fun _ => by simp) fun s => ⟨s, actServe_id s, rfl⟩
      exact didResult_ok (by decide)
    · obtain ⟨s, rfl⟩ := answeredByAct_send h (fun s => speedResponse s.encoder)
        (fun _ => by simp [speedResponse]) fun s => ⟨s, actServe_speed s, rfl⟩
      exact didResult_ok (by decide)
    · obtain ⟨s, rfl⟩ := answeredByAct_send h (fun s => 0x62 :: 0x01 :: 0x01 :: angleBytes s)
        (fun _ => by simp [angleBytes]) fun s => ⟨s, actServe_angle s, rfl⟩
      exact didResult_ok (by decide)
  · intro resp h
    obtain ⟨s, rfl⟩ := answeredByAct_send h (fun _ => [0x7F, 0x19, 0x13])
      (fun _ => by simp) fun s => ⟨s, rfl, rfl⟩
    rfl

/-- The data that BODY reads for an identifier, and the state after it. -/
def bodyDid (inp : BodyInputs) (did : Nat) (s : Body) : List UInt8 × Body :=
  let distance := BodyControl.runUltrasonicDiagnosticRoutine inp.requestEcho s.control
  if did = udsDidEcuId then ([0x42, 0x44, 0x59, 0x31], s)
  else if did = udsDidUltrasonicDistance then
    ([UInt8.ofNat (distance.1.2 / 256), UInt8.ofNat distance.1.2], { s with control := distance.2 })
  else if did = udsDidTurnSignalStatus then ([s.can.current.turnSignalRaw], s)
  else if did = udsDidCollisionSwitch then ([if s.control.button.stablePressed then 1 else 0], s)
  else ([if s.can.current.collisionWarningRaw = bodyCanOn then 1 else 0], s)

theorem bodyDid_spec (inp : BodyInputs) (did : Nat) (s : Body) :
    (bodyDid inp did s).1.length ≤ 4 ∧ (bodyDid inp did s).2.sent = s.sent := by
  simp only [bodyDid]
  split
  · exact ⟨by simp, rfl⟩
  · split
    · exact ⟨by simp, rfl⟩
    · split
      · exact ⟨by simp, rfl⟩
      · split <;> exact ⟨by simp, rfl⟩

/-- The service behind an identifier, in BODY. -/
theorem bodyServe_did {did : Nat} {hi lo : UInt8} (h : didRequest did = [0x22, hi, lo])
    (hword : hi.toNat * 256 + lo.toNat = did)
    (hknown : did ∈ [udsDidEcuId, udsDidUltrasonicDistance, udsDidTurnSignalStatus,
      udsDidCollisionSwitch, udsDidCollisionWarning]) (inp : BodyInputs) (s : Body) :
    bodyServe inp (didRequest did) s =
      sendUdsPayload inp.udsTxBusy (0x62 :: hi :: lo :: (bodyDid inp did s).1)
        (bodyDid inp did s).2 := by
  rw [h, bodyServe_sid (show ([0x22, hi, lo] : List UInt8).getD 0 0 = udsSidReadDid from rfl),
    if_neg (by decide), if_pos rfl]
  simp only [handleUdsReadDid, bodyDid, List.getD_cons_succ, List.getD_cons_zero, hword]
  simp only [List.mem_cons, List.not_mem_nil, or_false] at hknown
  rcases hknown with rfl | rfl | rfl | rfl | rfl <;> rfl

theorem understands_body : Understands bodyTarget AnsweredByBody := by
  refine ⟨?_, ?_, ?_⟩
  · intro resp h
    obtain ⟨inp, s, rfl⟩ := answeredByBody_send h
      (fun _ _ => [0x50, 0x03, 0x0B, 0xB8, 0x03, 0xE8]) (fun _ _ => by simp)
      fun inp s => ⟨{ s with can := { s.can with udsSession := 0x03 } }, rfl, rfl⟩
    exact ⟨by simp, rfl, rfl⟩
  · intro spec hspec resp h
    -- every identifier the scan reads is one the node serves
    have hdid : ∀ {hi lo : UInt8}, didRequest spec.did = [0x22, hi, lo] →
        hi.toNat * 256 + lo.toNat = spec.did →
        spec.did ∈ [udsDidEcuId, udsDidUltrasonicDistance, udsDidTurnSignalStatus,
          udsDidCollisionSwitch, udsDidCollisionWarning] →
        BigEndian.value [hi, lo] = spec.did → (didResult spec resp).ok = true := by
      intro hi lo hreq hword hknown hvalue
      obtain ⟨inp, s, rfl⟩ := answeredByBody_send h
        (fun inp s => 0x62 :: hi :: lo :: (bodyDid inp spec.did s).1)
        (fun inp s => by
          have hlen := (bodyDid_spec inp spec.did s).1
          simp only [List.length_cons]
          omega)
        fun inp s => ⟨_, bodyServe_did hreq hword hknown inp s, (bodyDid_spec inp spec.did s).2⟩
      exact didResult_ok hvalue
    simp only [bodyTarget, List.mem_cons, List.not_mem_nil, or_false] at hspec
    rcases hspec with rfl | rfl | rfl | rfl | rfl
    · exact @hdid 0xF1 0x90 (by decide) (by decide) (by decide) (by decide)
    · exact @hdid 0x02 0x01 (by decide) (by decide) (by decide) (by decide)
    · exact @hdid 0x02 0x02 (by decide) (by decide) (by decide) (by decide)
    · exact @hdid 0x02 0x03 (by decide) (by decide) (by decide) (by decide)
    · exact @hdid 0x02 0x04 (by decide) (by decide) (by decide) (by decide)
  · intro resp h
    obtain ⟨inp, s, rfl⟩ := answeredByBody_send h (fun _ _ => [0x7F, 0x19, 0x13])
      (fun _ _ => by simp) fun inp s => ⟨s, rfl, rfl⟩
    rfl

/-! ## The scan -/

section Scan

variable {W : Type} {client : Client W} {t : Target}
  {AnsweredBy : List UInt8 → List UInt8 → Prop}

/-- Routing is active and the ECU answers what the scan asks. -/
structure Answering (t : Target) (client : Client W)
    (AnsweredBy : List UInt8 → List UInt8 → Prop) : Prop where
  active : Returns client.routingActivation fun activation => activation.responseCode = 0x10
  answers : ∀ req ∈ scanRequests t, Returns (client.request req) (AnsweredBy req)

/-- The ECU is reported as offline although session and identifiers were read, and without
    trouble codes. -/
structure ReportedOffline (entry : EcuEntry) : Prop where
  state : entry.state = .offline
  dtcs : entry.dtcs.items = []
  session : ∃ session, entry.session = some session ∧ session.ok = true
  dids : ∀ result ∈ entry.dids, result.ok = true
  error : entry.error = some (.dtcRead entry.name [0x7F, 0x19, 0x13])

theorem enterSession_returns (h : Answering t client AnsweredBy)
    (hu : Understands t AnsweredBy) :
    Returns (enterSession client 0x03 t.name) fun session => session.ok = true := by
  have hmem : [0x10, 0x03] ∈ scanRequests t := by simp [scanRequests]
  refine Returns.bind (h.answers _ hmem) fun resp hresp => ?_
  rw [if_pos (hu.session resp hresp)]
  exact Returns.pure rfl

theorem readDids_returns (h : Answering t client AnsweredBy) (hu : Understands t AnsweredBy) :
    Returns (readDids client t.dids) fun dids => ∀ result ∈ dids, result.ok = true := by
  have hround : ∀ spec ∈ t.dids,
      Returns (readDid client spec) fun result => result.ok = true := by
    intro spec hspec
    have hmem : didRequest spec.did ∈ scanRequests t := by
      simp only [scanRequests, List.mem_cons, List.mem_append, List.mem_map]
      exact Or.inl (Or.inr ⟨spec, hspec, rfl⟩)
    exact Returns.bind (h.answers _ hmem) fun resp hresp =>
      Returns.pure (hu.dids spec hspec resp hresp)
  refine (Returns.forEach hround).mono fun dids hdids => ?_
  intro result hresult
  obtain ⟨i, hi, rfl⟩ := List.mem_iff_getElem.mp hresult
  have hlt : i < t.dids.length := by
    rw [hdids.length_eq]
    exact hi
  exact hdids.get hlt hi

theorem readDtcs_returns (h : Answering t client AnsweredBy) (hu : Understands t AnsweredBy) :
    Returns (readDtcs client .statusMask) fun dtcs =>
      dtcs = { ok := false, raw := [0x7F, 0x19, 0x13], items := [] } := by
  have hmem : maskRequest ∈ scanRequests t := by simp [scanRequests]
  refine Returns.bind (h.answers _ hmem) fun resp hresp => ?_
  rw [hu.mask resp hresp]
  exact Returns.pure rfl

/-- **One round of the scan.** -/
theorem scanEcu_offline (h : Answering t client AnsweredBy) (hu : Understands t AnsweredBy) :
    Returns (scanEcu client t) fun r => ReportedOffline r.2 := by
  refine Returns.onError h.active fun activation hactive => ?_
  have hensure : Returns (ensureRoutingActive activation t.name : Talk W Raised Unit)
      fun _ => True := by
    rw [ensureRoutingActive, if_neg (not_not.mpr hactive)]
    exact Returns.pure trivial
  refine Returns.onError hensure fun _ _ => ?_
  refine Returns.onError (enterSession_returns h hu) fun session hsession => ?_
  refine Returns.onError (readDids_returns h hu) fun dids hdids => ?_
  refine Returns.onError (readDtcs_returns h hu) fun dtcs hdtcs => ?_
  subst hdtcs
  exact Returns.pure ⟨rfl, rfl, ⟨session, rfl, hsession⟩, hdids, rfl⟩

end Scan

/-- A request that is no routine is answered at once. -/
theorem answeredByAct_of {req : List UInt8} (h : req.getD 0 0 ≠ 0x31) (s : Act) :
    ∃ resp, actResponses (actServe false req s) = actResponses s ++ [resp] := by
  rcases actServe_cases false req s with ⟨resp, -, hpos, hlen, hserve⟩ | ⟨-, -, hroutine⟩
  · have hsame : actResponses (actServed req s) = actResponses s := by
      simp only [actServed]
      split
      · rfl
      · split <;> rfl
    exact ⟨resp, by rw [hserve, actResponses_send hpos hlen, hsame]⟩
  · rw [routineOf_sid h] at hroutine
    rcases hroutine with ⟨hnone, -⟩ | ⟨hnone, -⟩
    · cases hnone
    · cases hnone

theorem answeredByBody_of {inp : BodyInputs} (hfree : inp.udsTxBusy = false) (req : List UInt8)
    (s : Body) : ∃ resp, bodyResponses (bodyServe inp req s) = bodyResponses s ++ [resp] := by
  obtain ⟨resp, -, hpos, hlen, hserve⟩ := bodyServe_eq inp req s
  refine ⟨resp, ?_⟩
  rw [hserve, hfree, bodyResponses_send hpos hlen]
  rfl

/-- **The scan reports both ECUs as offline**, in every state they are in, although they
    answer: session and identifiers are read, and the request for the trouble codes is
    refused. -/
theorem scan_reports_offline {W : Type} {actClient bodyClient : Client W}
    (hact : Answering actTarget actClient AnsweredByAct)
    (hbody : Answering bodyTarget bodyClient AnsweredByBody) :
    Returns (scanMainRoutedEcus actClient bodyClient)
        (fun result => result.ecus.length = 2 ∧ ∀ entry ∈ result.ecus, ReportedOffline entry) ∧
      (∀ s, actResponses (actServe false maskRequest s) =
        actResponses s ++ [[0x7F, 0x19, 0x13]]) ∧
      ∀ inp s, inp.udsTxBusy = false → bodyResponses (bodyServe inp maskRequest s) =
        bodyResponses s ++ [[0x7F, 0x19, 0x13]] := by
  refine ⟨?_, ?_, ?_⟩
  · -- the scan of the codes fails at either node, which marks it offline
    refine Returns.bind (scanEcu_offline hact understands_act) fun act hact => ?_
    refine Returns.bind (scanEcu_offline hbody understands_body) fun body hbody => ?_
    refine Returns.pure ⟨rfl, ?_⟩
    intro entry hentry
    simp only [List.mem_cons, List.not_mem_nil, or_false] at hentry
    rcases hentry with rfl | rfl
    · exact hact
    · exact hbody
  · intro s
    obtain ⟨resp, hresp⟩ := answeredByAct_of (show maskRequest.getD 0 0 ≠ 0x31 by decide) s
    rw [hresp, understands_act.mask resp ⟨s, hresp⟩]
  · intro inp s hfree
    obtain ⟨resp, hresp⟩ := answeredByBody_of hfree maskRequest s
    rw [hresp, understands_body.mask resp ⟨inp, s, hfree, hresp⟩]

/-! ## Two ECUs behind a link -/

/-- The routing is active. -/
def routed : Activation := ⟨0x0E00, 0x0001, 0x10, [0, 0, 0, 0]⟩

/-- The link to ACT: a request is served and the response handed back. -/
def actLink : Client (Act × Body) where
  routingActivation := pure routed
  request req := fun w =>
    let act := actServe false req w.1
    (.ok ((actResponses act).getLastD []), (act, w.2))

def bodyLink : Client (Act × Body) where
  routingActivation := pure routed
  request req := fun w =>
    let body := bodyServe restBodyInputs req w.2
    (.ok ((bodyResponses body).getLastD []), (w.1, body))

theorem answering_actLink : Answering actTarget actLink AnsweredByAct := by
  refine ⟨Returns.pure rfl, ?_⟩
  intro req hreq w
  have hsid : req.getD 0 0 ≠ 0x31 := by
    revert req
    decide
  obtain ⟨resp, hresp⟩ := answeredByAct_of hsid w.1
  refine ⟨_, _, rfl, w.1, ?_⟩
  rw [hresp, List.getLastD_concat]

theorem answering_bodyLink : Answering bodyTarget bodyLink AnsweredByBody := by
  refine ⟨Returns.pure rfl, ?_⟩
  intro req _ w
  obtain ⟨resp, hresp⟩ := answeredByBody_of (show restBodyInputs.udsTxBusy = false from rfl) req w.2
  refine ⟨_, _, rfl, restBodyInputs, w.2, rfl, ?_⟩
  rw [hresp, List.getLastD_concat]

theorem scan_reports_offline_links :
    Returns (scanMainRoutedEcus actLink bodyLink)
      fun result => result.ecus.length = 2 ∧ ∀ entry ∈ result.ecus, ReportedOffline entry :=
  (scan_reports_offline answering_actLink answering_bodyLink).1

/-- **After reset** ACT refuses the request for its trouble codes, which it reports when asked
    for without a mask, and the scan takes the refusal for a failure. -/
theorem mask_request_refused :
    actResponses (actServe false [0x19, 0x02, 0xFF] (actReset restReset).act) =
        [[0x7F, 0x19, 0x13]] ∧
      actResponses (actServe false [0x19, 0x0A] (actReset restReset).act) =
        [[0x59, 0x0A, 0x09, 0xC1, 0x00, 0x00, 0, 0xC1, 0x01, 0x00, 0]] ∧
      (dtcsResult [0x7F, 0x19, 0x13]).ok = false := by
  refine ⟨?_, ?_, ?_⟩ <;> decide +kernel

end ScanAgreement
