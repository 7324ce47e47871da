import RemoteVehicle.TroubleCodeProofs
import RemoteVehicle.UdsResponseProofs

/-!
# The status availability mask of a trouble code report

The third byte of a positive response to ReadDTCInformation says which status bits the
server maintains, and each status that is reported should have no other bits.  The three
servers write the two independently of each other.

ACT and BODY keep two bits, that of the current fault (0x01) and that of its history (0x08).
ACT reports both in its mask.  The mask of BODY has only the first, so its report is right
as long as there is no history to report (`body_respects_iff`).  MAIN reports all bits.
-/

namespace Availability

open ActUdsDiag hiding word16
open Runs CanFrame ActState ActLoop BodyState BodyUds BodyCan BodySpec
open UdsFrame UdsAnswer UdsTunnel UdsTrace BodyFrame TroubleCode

/-! ## Reports -/

/-- The status bytes of the records of a report: three bytes of code, one of status. -/
def statuses : List UInt8 → List UInt8
  | _ :: _ :: _ :: status :: rest => status :: statuses rest
  | _ => []

/-- A positive response to ReadDTCInformation has no status bit outside its mask. -/
def RespectsMask (resp : List UInt8) : Prop :=
  resp.head? = some 0x59 → ∀ status ∈ statuses (resp.drop 3), status &&& resp.getD 2 0 = status

theorem respects_of_head {resp : List UInt8} (h : resp.head? ≠ some 0x59) : RespectsMask resp :=
  fun hhead => absurd hhead h

/-- Only ReadDTCInformation is answered so. -/
theorem respects_of_answer {req resp : List UInt8} (hreq : req.getD 0 0 ≠ 0x19)
    (h : IsAnswer req resp) : RespectsMask resp := by
  apply respects_of_head
  intro hhead
  rcases h with ⟨nrc, rfl⟩ | ⟨rest, rfl⟩
  · cases hhead
  · have hsid : req.getD 0 0 + 0x40 = 0x59 := Option.some.inj hhead
    have hsid : req.getD 0 0 = 0x59 - 0x40 := by rw [← hsid, UInt8.add_sub_cancel]
    exact hreq hsid

theorem respects_negative (sid nrc : UInt8) : RespectsMask [0x7F, sid, nrc] :=
  respects_of_head (by simp)

/-- A status with the two bits that ACT and BODY keep. -/
def TwoBits (status : UInt8) : Prop := status &&& 0x09 = status

theorem twoBits_zero : TwoBits 0 := by
  unfold TwoBits
  decide

/-- The bits that a check and a clear write are among them. -/
theorem twoBits_ops : ∀ status : UInt8, TwoBits status →
    TwoBits (status ||| 0x01) ∧ TwoBits ((status ||| 0x01) ||| 0x08) ∧
      TwoBits (status &&& ~~~0x01) ∧ TwoBits (status &&& ~~~0x08) := by
  unfold TwoBits
  rintro ⟨b⟩
  revert b
  decide +kernel

/-- Without the bit of the history only the other one is left. -/
theorem twoBits_current : ∀ status : UInt8, TwoBits status →
    (status &&& 0x01 = status ↔ status &&& 0x08 = 0) := by
  unfold TwoBits
  rintro ⟨b⟩
  revert b
  decide +kernel

/-! ## ACT -/

section Act

variable {s : Act}

/-- All responses so far respect their masks. -/
def ActRespects (s : Act) : Prop := ∀ resp ∈ actResponses s, RespectsMask resp

/-- Both status bytes have no other bits. -/
def ActBits (d : ActDtcs) : Prop := TwoBits d.c100Status ∧ TwoBits d.c101Status

theorem twoBits_update {status : UInt8} (h : TwoBits status) (count : Nat) (failed : Bool) :
    TwoBits (udsDiagUpdateOneDtcStatus status count failed).1 := by
  obtain ⟨hset, hboth, hreset, -⟩ := twoBits_ops status h
  cases failed with
  | false => exact hreset
  | true =>
      simp only [udsDiagUpdateOneDtcStatus, if_true]
      split
      · split <;> assumption
      · split <;> assumption

theorem actBits_update (inp : ActInputs) (h : ActBits (actDtcs s.uds)) :
    ActBits (actDtcs (udsDiagUpdate1ms inp s).uds) := by
  have htick : ∀ {d : ActDtcs} (a b : Bool), ActBits d → ActBits (tickDtcs a b d) := by
    intro d a b hd
    rw [tickDtcs]
    dsimp only
    split
    · exact ⟨twoBits_update hd.1 _ _, twoBits_update hd.2 _ _⟩
    · exact hd
  rw [update_dtcs]
  refine htick _ _ ?_
  split
  · exact ⟨(twoBits_ops _ h.1).2.2.2, (twoBits_ops _ h.2).2.2.2⟩
  · exact h

/-- A response is sent, or the buffer is busy. -/
theorem actRespects_send {resp : List UInt8} (h : ActRespects s) (hresp : RespectsMask resp)
    (hpos : 1 ≤ resp.length) (hlen : resp.length ≤ 11) (busy : Bool) :
    ActRespects (udsDiagSendSingleFrame busy resp s) := by
  cases busy with
  | true =>
      have hsame : udsDiagSendSingleFrame true resp s = s := by
        simp only [udsDiagSendSingleFrame]
        split <;> rfl
      rw [hsame]
      exact h
  | false =>
      intro r hr
      rw [actResponses_send hpos hlen] at hr
      rcases List.mem_append.mp hr with hr | hr
      · exact h r hr
      · rw [List.mem_singleton.mp hr]
        exact hresp

/-- The report of ACT. -/
theorem respects_actReport {c100 c101 : UInt8} (h100 : TwoBits c100) (h101 : TwoBits c101) :
    RespectsMask (udsDiagAppendDtc (udsDiagAppendDtc [0x59, 0x0A, 0x09]
      dtcEncoderNoSignal c100) dtcSteeringMismatch c101) := by
  intro _ status hstatus
  rcases List.mem_cons.mp hstatus with rfl | hstatus
  · exact h100
  · rw [List.mem_singleton.mp hstatus]
    exact h101

/-- **A request to ACT** is answered with respect for the mask. -/
theorem actRespects_serve (busy : Bool) (req : List UInt8) (h : ActRespects s)
    (hbits : ActBits (actDtcs s.uds)) : ActRespects (actServe busy req s) := by
  by_cases h19 : req.getD 0 0 = sidReadDtcInformation
  · have hserve : actServe busy req s = udsDiagHandleReadDTC busy req s := by
      rw [actServe_sid h19, if_neg (by decide), if_neg (by decide), if_pos rfl]
    rw [hserve, udsDiagHandleReadDTC]
    split
    · exact actRespects_send h (respects_negative _ _) (by simp) (by simp) busy
    · split
      · exact actRespects_send h (respects_negative _ _) (by simp) (by simp) busy
      · exact actRespects_send h (respects_actReport hbits.1 hbits.2)
          (by simp [udsDiagAppendDtc]) (by simp [udsDiagAppendDtc]) busy
  · rcases actServe_cases busy req s with ⟨resp, hresp, hpos, hlen, heq⟩ | hstart
    · have hserved : ActRespects (actServed req s) := by
        intro r hr
        rw [(UdsResponse.actServed_same req s).1] at hr
        exact h r hr
      rw [heq]
      exact actRespects_send hserved (respects_of_answer h19 hresp) hpos hlen busy
    · rcases hstart.routine with ⟨-, heq⟩ | ⟨-, heq⟩
      · rw [heq]
        exact h
      · rw [heq]
        exact h

/-- The result of a routine is another response. -/
theorem actRespects_routine (busy : Bool) (h : ActRespects s) :
    ActRespects (udsDiagUpdateRoutine1ms busy s) := by
  have hhead : ∀ rid result, ([sidRoutineControl + posRespOffset, 0x01, UInt8.ofNat (rid / 256),
      UInt8.ofNat rid, result] : List UInt8).head? ≠ some 0x59 :=
    fun _ _ => show some (sidRoutineControl + posRespOffset) ≠ some 0x59 by decide
  -- what a routine has written before it sends its result does not matter
  have hresult : ∀ (rid : Nat) (result : UInt8) (t : Act), t.sent = s.sent →
      ActRespects (udsDiagEndRoutine (udsDiagSendRoutineResult busy rid result t)) := by
    intro rid result t ht
    have hbefore : ActRespects t := by
      rw [ActRespects, actResponses, ht]
      exact h
    exact actRespects_send hbefore (respects_of_head (hhead rid result)) (by simp) (by simp) busy
  rw [udsDiagUpdateRoutine1ms]
  rcases s.uds.routineState with _ | _ | _
  · exact h
  · simp only [udsDiagUpdateMotorRoutine1ms]
    split
    · exact hresult _ _ _ rfl
    · exact h
  · simp only [udsDiagUpdateServoRoutine1ms]
    split
    · exact h
    · split
      · exact hresult _ _ _ rfl
      · exact h

/-- What holds along every run. -/
structure ActInv (s : ActMachine) : Prop where
  booted : BootedDiag s
  bits : ActBits (actDtcs s.act.uds)
  respects : ActRespects s.act

/-- **Step lemma.** -/
theorem actInv_step {s : ActMachine} (h : ActInv s) (e : ActEvent) : ActInv (actStep s e) := by
  obtain ⟨hbooted, hbits, hrespects⟩ := h
  refine ⟨bootedDiag_step hbooted e, ?_, ?_⟩
  · rcases act_step_cases hbooted e with ⟨-, -, hsame⟩ | ⟨inp, rfl, -, -, heq⟩
    · rw [hsame.dtcs]
      exact hbits
    · rw [heq]
      exact actBits_update inp hbits
  · rcases act_step_cases hbooted e with ⟨-, -, hsame⟩ | ⟨inp, rfl, -, -, heq⟩
    · intro resp hresp
      rw [hsame.responses] at hresp
      exact hrespects resp hresp
    · -- a request is served, a routine goes on, and the monitor sends nothing
      have hserved : ActRespects (udsDiagServeRequest inp.responseTxBusy s.act) := by
        rcases serveRequest_eq inp.responseTxBusy s.act with ⟨-, h | h⟩ | ⟨req, -, h⟩
        · rw [h]
          exact hrespects
        · rw [h]
          exact hrespects
        · rw [h]
          exact actRespects_serve _ req hrespects hbits
      intro resp hresp
      rw [heq, udsDiagUpdate1ms, (sameDiag_monitor _).responses] at hresp
      exact actRespects_routine _ hserved resp hresp

/-- **Run lemma.** -/
theorem act_respects (r : ActReset) (es : List ActEvent) : ActRespects (actRun r es).act := by
  have hreset : ActInv (actReset r) :=
    ⟨bootedDiag_reset r, ⟨twoBits_zero, twoBits_zero⟩,
      fun _ hresp => absurd hresp List.not_mem_nil⟩
  exact (run_invariant ActInv (fun _ e h => actInv_step h e) hreset es).respects

end Act

/-! ## BODY -/

section Body

variable {s : Body} {inp : BodyInputs} {req : List UInt8}

/-- The request for the report. -/
def reportRequest : List UInt8 := [0x19, 0x0A]

/-- The step sends a report while there is a history. -/
def ReportsHistory (s : Body) : BodyEvent → Prop
  | .call inp .canUpdate1ms => inp.udsTxBusy = false ∧ bodyWaiting s.can = [reportRequest] ∧
      s.control.dtc.status &&& BodyControl.dtcStatusHistoryBit ≠ 0
  | _ => False

/-- A request with this length and these bytes is the one. -/
theorem reportRequest_iff :
    req = reportRequest ↔ req.length = 2 ∧ req.getD 0 0 = 0x19 ∧ req.getD 1 0 = 0x0A := by
  constructor
  · rintro rfl
    exact ⟨rfl, rfl, rfl⟩
  · rintro ⟨hlen, h0, h1⟩
    obtain ⟨a, b, rfl⟩ := List.length_eq_two.mp hlen
    have ha : a = 0x19 := h0
    have hb : b = 0x0A := h1
    rw [ha, hb]
    rfl

/-- **A request to BODY** is answered with respect for the mask, but for a report of a
    history. -/
theorem bodyServe_respects (inp : BodyInputs) (req : List UInt8)
    (hbits : TwoBits s.control.dtc.status) :
    ∃ resp, 1 ≤ resp.length ∧ resp.length ≤ 7 ∧
      bodyServe inp req s = sendUdsPayload inp.udsTxBusy resp (bodyServed inp req s) ∧
      (RespectsMask resp ↔ ¬ (req = reportRequest ∧
        s.control.dtc.status &&& BodyControl.dtcStatusHistoryBit ≠ 0)) := by
  by_cases h19 : req.getD 0 0 = udsSidReadDtc
  · have hserve : bodyServe inp req s = handleUdsReadDtc inp.udsTxBusy req s := by
      rw [bodyServe_sid h19, if_neg (by decide), if_neg (by decide), if_pos rfl]
    have hother : bodyServed inp req s = s :=
      bodyServed_other (requestedSession_sid (by rw [h19]; decide))
        (bodyControlServed_other (not_clearsDtc_sid (by rw [h19]; decide))
          (not_readsDistance_sid (by rw [h19]; decide))
          (routineOf_sid (by rw [h19]; decide)) s.control)
    rw [hserve, hother, handleUdsReadDtc]
    by_cases hlen : req.length = 2
    · rw [if_neg (not_not.mpr hlen)]
      by_cases hsub : req.getD 1 0 = udsReadDtcAllSubfunction
      · rw [if_neg (not_not.mpr hsub)]
        refine ⟨_, by simp, by simp, rfl, ?_⟩
        have hreq : req = reportRequest := reportRequest_iff.mpr ⟨hlen, h19, hsub⟩
        -- the mask is 0x01, so the report is right when only that bit is set
        have hcurrent := twoBits_current _ hbits
        rw [not_and, not_not]
        constructor
        · intro hrespects _
          exact hcurrent.mp (hrespects rfl _ (List.mem_singleton_self _))
        · intro honly _ status hstatus
          rw [List.mem_singleton.mp hstatus]
          exact hcurrent.mpr (honly hreq)
      · rw [if_pos hsub]
        refine ⟨_, by simp, by simp, rfl, iff_of_true (respects_negative _ _) ?_⟩
        rintro ⟨hreq, -⟩
        exact hsub (reportRequest_iff.mp hreq).2.2
    · rw [if_pos hlen]
      refine ⟨_, by simp, by simp, rfl, iff_of_true (respects_negative _ _) ?_⟩
      rintro ⟨hreq, -⟩
      exact hlen (reportRequest_iff.mp hreq).1
  · obtain ⟨resp, hresp, hpos, hlen, heq⟩ := bodyServe_eq inp req s
    refine ⟨resp, hpos, hlen, heq, iff_of_true (respects_of_answer h19 hresp) ?_⟩
    rintro ⟨hreq, -⟩
    exact h19 (reportRequest_iff.mp hreq).2.1

/-- A busy buffer sends nothing. -/
theorem bodyResponses_busy (resp : List UInt8) (s : Body) :
    bodyResponses (sendUdsPayload true resp s) = bodyResponses s := by
  rw [sendUdsPayload]
  split <;> rfl

/-- A request clears the trouble code, or leaves it. -/
theorem twoBits_waitingDtc {c : BodyCanState} {d : UltrasonicDtc} (h : TwoBits d.status) :
    TwoBits (waitingDtc c d).status := by
  rw [waitingDtc]
  rcases bodyWaiting_cases c with hnone | ⟨req, hreq⟩
  · rw [hnone]
    exact h
  · rw [hreq, List.foldl_cons, List.foldl_nil, servedDtc]
    split
    · exact (twoBits_ops _ h).2.2.2
    · exact h

/-- A check sets both bits or resets one. -/
theorem twoBits_checkedDtc {d : UltrasonicDtc} (h : TwoBits d.status) (inp : BodyInputs) :
    TwoBits (checkedDtc inp d).status := by
  obtain ⟨hset, hboth, hreset, -⟩ := twoBits_ops _ h
  rw [checkedDtc]
  split
  · rw [BodyControl.countUltrasonicDtc]
    split
    · dsimp only
      split <;> split <;> assumption
    · exact hreset
  · exact h

theorem twoBits_bodyStep (h : TwoBits s.control.dtc.status) (e : BodyEvent) :
    TwoBits (bodyStep s e).control.dtc.status := by
  cases e with
  | rxIsr m =>
      show TwoBits (bodyCanRxIsrHandler m s).control.dtc.status
      rcases hc : BodySpec.accepted m with _ | c
      · rw [BodyCommand.rxIsr_rejected hc]
        split <;> exact h
      · rw [BodyCommand.rxIsr_accepted hc]
        exact h
  | call inp c =>
      cases c with
      | canUpdate1ms =>
          have hupdate : (bodyCanUpdate1ms inp s).control.dtc = waitingDtc s.can s.control.dtc :=
            congrArg Prod.fst (codeTime_canUpdate inp s)
          show TwoBits (bodyCanUpdate1ms inp s).control.dtc.status
          rw [hupdate]
          exact twoBits_waitingDtc h
      | controlUpdate1ms =>
          have hupdate : (BodyControl.update1ms inp s.control).dtc = checkedDtc inp s.control.dtc :=
            congrArg Prod.fst (codeTime_update1ms inp s.control)
          show TwoBits (BodyControl.update1ms inp s.control).dtc.status
          rw [hupdate]
          exact twoBits_checkedDtc h inp
      | reportCollision =>
          show TwoBits (reportCollisionIfPressed s).control.dtc.status
          rw [reportCollisionIfPressed]
          split <;> exact h
      | delay1ms => exact h

/-- A step without a request reports nothing. -/
theorem not_reportsHistory {e : BodyEvent} (h : bodyRequests s e = []) : ¬ ReportsHistory s e := by
  cases e with
  | rxIsr m => exact id
  | call inp c =>
      cases c with
      | canUpdate1ms =>
          rintro ⟨-, hwaiting, -⟩
          have hnone : bodyWaiting s.can = [] := h
          rw [hwaiting] at hnone
          cases hnone
      | controlUpdate1ms => exact id
      | reportCollision => exact id
      | delay1ms => exact id

/-- **Serving a request** keeps the masks respected unless it reports a history; a busy buffer
    drops the answer. -/
theorem served_respects (hbits : TwoBits s.control.dtc.status) (inp : BodyInputs)
    (req : List UInt8) :
    (∀ resp ∈ bodyResponses (bodyServe inp req s), RespectsMask resp) ↔
      (∀ resp ∈ bodyResponses s, RespectsMask resp) ∧ ¬ (inp.udsTxBusy = false ∧
        req = reportRequest ∧ s.control.dtc.status &&& BodyControl.dtcStatusHistoryBit ≠ 0) := by
  obtain ⟨resp, hpos, hlen, hserve, hrespects⟩ := bodyServe_respects inp req hbits
  have hserved : bodyResponses (bodyServed inp req s) = bodyResponses s := rfl
  rw [hserve]
  cases hbusy : inp.udsTxBusy with
  | true =>
      have hdropped : ¬ (true = false ∧ req = reportRequest ∧
          s.control.dtc.status &&& BodyControl.dtcStatusHistoryBit ≠ 0) := by
        rintro ⟨hfree, -⟩
        cases hfree
      rw [bodyResponses_busy, hserved]
      exact (and_iff_left hdropped).symm
  | false =>
      rw [bodyResponses_send hpos hlen, hserved, List.forall_mem_append,
        List.forall_mem_singleton, hrespects]
      simp

/-- **Step lemma.**  The responses go on respecting their masks unless the step reports a
    history. -/
theorem body_respects_step (hbits : TwoBits s.control.dtc.status) (e : BodyEvent) :
    (∀ resp ∈ bodyResponses (bodyStep s e), RespectsMask resp) ↔
      (∀ resp ∈ bodyResponses s, RespectsMask resp) ∧ ¬ ReportsHistory s e := by
  rcases body_step_cases s e with ⟨hnone, hsame⟩ | ⟨inp, rfl⟩
  · rw [hsame.responses]
    exact (and_iff_left (not_reportsHistory hnone)).symm
  · obtain ⟨hsent, -, -, hwaiting⟩ := bodyPrepared_kept inp s
    have hprepared : bodyResponses (bodyPrepared inp s) = bodyResponses s := by
      rw [bodyResponses, hsent, bodyResponses]
    have hdtc : (bodyTaken (bodyPrepared inp s)).control.dtc = s.control.dtc :=
      congrArg Prod.fst (codeTime_prepared inp s)
    show (∀ resp ∈ bodyResponses (bodyCanUpdate1ms inp s), RespectsMask resp) ↔ _
    rw [(sameBodyDiag_update inp s).responses]
    rcases processUds_eq inp (bodyPrepared inp s) with ⟨hnone, hsame, -⟩ | ⟨req, hreq, heq⟩
    · have hno : ¬ ReportsHistory s (.call inp .canUpdate1ms) :=
        not_reportsHistory (hwaiting.symm.trans hnone)
      rw [hsame.responses, hprepared]
      exact (and_iff_left hno).symm
    · rw [hwaiting] at hreq
      have hreports : ReportsHistory s (.call inp .canUpdate1ms) ↔ inp.udsTxBusy = false ∧
          req = reportRequest ∧
            s.control.dtc.status &&& BodyControl.dtcStatusHistoryBit ≠ 0 := by
        simp only [ReportsHistory, hreq, List.cons.injEq, and_true]
      have hserved := served_respects (s := bodyTaken (bodyPrepared inp s))
        (by rw [hdtc]; exact hbits) inp req
      rw [hdtc] at hserved
      rw [heq, hserved, hreports, ← hprepared]
      rfl

/-- **Run lemma.** -/
theorem body_respects_iff (init : BodyInputs) (es : List BodyEvent) :
    (∀ resp ∈ bodyResponses (run bodyStep (bodyReset init) es), RespectsMask resp) ↔
      AllSteps bodyStep (fun s e => ¬ ReportsHistory s e) (bodyReset init) es := by
  have hreset : ∀ resp ∈ bodyResponses (bodyReset init), RespectsMask resp :=
    fun _ hresp => absurd hresp List.not_mem_nil
  rw [log_iff (fun s => TwoBits s.control.dtc.status) (fun _ e h => twoBits_bodyStep h e)
    (fun _ e h => body_respects_step h e) twoBits_zero es]
  exact and_iff_right hreset

end Body

/-! ## MAIN -/

section Main

open MainState MainTransmit MainDcm MainLoop MainSpec MainFrame MainDoip MainRouting DiagAck
open UdsMainTrace

variable {s : Main}

/-- A full mask loses nothing. -/
theorem respects_full {resp : List UInt8} (h : resp.getD 2 0 = 0xFF) : RespectsMask resp := by
  intro _ status _
  rw [h]
  exact UInt8.and_neg_one

/-- **A request to MAIN** is answered with respect for the mask. -/
theorem udsProcessRx_respects (reqData : Payload) {reqLength : Nat} (hpos : 1 ≤ reqLength)
    (s : Main) :
    ∃ resp, RespectsMask resp ∧ resp.length ≤ 15 ∧
      udsProcessRx reqData reqLength s =
        respond resp (mainAsked (bytesOf reqData reqLength) s) := by
  by_cases h19 : reqData 0 = 0x19
  · -- both reports have the full mask
    have hserve := udsProcessRx_sid (s := s) hpos h19
    rw [if_neg (by decide), if_neg (by decide), if_pos rfl] at hserve
    have hsid : (bytesOf reqData reqLength).getD 0 0 = 0x19 := (getD_sid hpos).trans h19
    have hasked : mainAsked (bytesOf reqData reqLength) s =
        s.emit (.uds (bytesOf reqData reqLength)) :=
      mainAsked_eq (mainServed_other (requestedMainSession_sid (by rw [hsid]; decide))
        (not_clearsDtc_sid (by rw [hsid]; decide)) s.dcm) rfl
    rw [hserve, hasked, udsReadDtc]
    dsimp only
    split
    · exact ⟨_, respects_negative _ _, by simp, rfl⟩
    · split
      · exact ⟨_, respects_full rfl, by simp [dtcTable, dtcRecords], rfl⟩
      · split
        · refine ⟨_, respects_full rfl, ?_, rfl⟩
          have hfilter := List.length_filter_le
            (fun p : List UInt8 × UInt8 => p.2 &&& reqData 2 != 0) (dtcTable s.dcm)
          have hthree : (dtcTable s.dcm).length = 3 := rfl
          have hdcm : (s.emit (.uds (bytesOf reqData reqLength))).dcm = s.dcm := rfl
          rw [hdcm, List.length_append, length_dtcRecords
            fun p hp => dtcTable_codes s.dcm p (List.mem_of_mem_filter hp)]
          simp only [List.length_cons, List.length_nil]
          omega
        · exact ⟨_, respects_negative _ _, by simp, rfl⟩
  · obtain ⟨resp, hresp, -, hlen, heq⟩ := udsProcessRx_eq reqData hpos s.dcm
    have hsid : (bytesOf reqData reqLength).getD 0 0 ≠ 0x19 := by
      rw [getD_sid hpos]
      exact h19
    exact ⟨resp, respects_of_answer hsid hresp, hlen, heq s rfl⟩

/-- An output that is a response respects its mask. -/
def Respectful (o : Out) : Prop := ∀ resp, responseOut o = some resp → RespectsMask resp

theorem respectful_of_silent {o : Out} (h : Silent o) : Respectful o := by
  intro resp hresp
  rw [h.2] at hresp
  cases hresp

theorem respond_respectful {resp : List UInt8} (hresp : RespectsMask resp)
    (hlen : resp.length ≤ 15) (s : Main) : Emits Respectful s (respond resp s) := by
  rw [respond_message (by omega)]
  refine Emits.write fun pcb r hr => ?_
  rw [responseOut_message] at hr
  rw [← Option.some.inj hr]
  exact hresp

/-- What a request for MAIN brings out. -/
theorem asked_respectful {p : Pbuf} (h : AsksMain p) (hout : s.out = []) :
    ∀ o ∈ (doIPProcessRx p.payload p.len s).out, Respectful o := by
  obtain ⟨hd, hmain, hlen⟩ := h
  have hack := diagAck_reply (targetAddr p.payload) (sourceAddr p.payload) 0x00 s
  obtain ⟨resp, hresp, hmax, hserve⟩ := udsProcessRx_respects (offset p.payload 12)
    (show 1 ≤ p.len - 12 by omega)
    (doIPSendDiagAck doipPort (targetAddr p.payload) (sourceAddr p.payload) 0x00 s)
  rw [doIPProcessRx_diagnostic hd, routeDiagnostic, if_pos hmain, pduRRouteRx_doipMain, hserve]
  intro o ho
  -- the response, the call of the server, or the acknowledgement
  rcases (respond_respectful hresp hmax _).mem ho with ho | ho
  · rcases List.mem_append.mp ho with ho | ho
    · rcases hack.mem ho with ho | ho
      · rw [hout] at ho
        cases ho
      · exact respectful_of_silent (silent_of_reply ho)
    · rw [List.mem_singleton.mp ho]
      intro r hr
      cases hr
  · exact ho

/-- **Step lemma.** -/
theorem main_respects_step (s : Main) (e : MainEvent) :
    ∀ resp ∈ mainResponses s e, RespectsMask resp := by
  intro resp hresp
  obtain ⟨o, ho, hresp⟩ := List.mem_filterMap.mp hresp
  rcases (accounted s e).out with ⟨-, hsilent⟩ | ⟨p, t, h, -, -, hentered, hstep⟩
  · exact respectful_of_silent (hsilent o ho) resp hresp
  · rw [hstep] at ho
    exact asked_respectful h hentered.out o ho resp hresp

/-- **Run lemma.** -/
theorem main_respects (es : List MainEvent) (s : Main) :
    ∀ resp ∈ trace mainStep mainResponses s es, RespectsMask resp := by
  induction es generalizing s with
  | nil => exact fun _ hresp => absurd hresp List.not_mem_nil
  | cons e es ih =>
      intro resp hresp
      rcases List.mem_append.mp hresp with hresp | hresp
      · exact main_respects_step s e resp hresp
      · exact ih (mainStep s e) resp hresp

end Main

/-! ## A history to report -/

section History

variable {s : Body} {inp : BodyInputs}

/-- One pass of the main loop of BODY. -/
def mainPass (inp : BodyInputs) : List BodyEvent :=
  [.call inp .canUpdate1ms, .call inp .controlUpdate1ms, .call inp .reportCollision,
    .call inp .delay1ms]

/-- So many passes. -/
def passes (inp : BodyInputs) (n : Nat) : List BodyEvent :=
  (List.replicate n (mainPass inp)).flatten

/-- No request waits once `BodyCan_Update1ms` is done. -/
theorem canUpdate_taken (inp : BodyInputs) (s : Body) :
    bodyWaiting (bodyCanUpdate1ms inp s).can = [] := by
  have hsend : ∀ busy messageId dlc txByte (t : Body),
      (sendRawFrame busy messageId dlc txByte t).2.can.udsRequestUpdated =
        t.can.udsRequestUpdated := by
    intro busy messageId dlc txByte t
    rw [sendRawFrame]
    split <;> rfl
  have hserved : (processUdsRequestIfNeeded inp (bodyPrepared inp s)).can.udsRequestUpdated =
      false := by
    generalize bodyPrepared inp s = t
    rw [processUdsRequestIfNeeded]
    split
    · rw [handleUdsRequest_eq]
      rcases requestOf t.can.udsRequestByte with _ | req
      · rfl
      · obtain ⟨resp, -, -, -, heq⟩ := bodyServe_eq inp req (bodyTaken t)
        show (bodyServe inp req (bodyTaken t)).can.udsRequestUpdated = false
        rw [heq, sendUdsPayload]
        split
        · rfl
        · exact hsend _ _ _ _ _
    · rename_i hupdated
      exact Bool.eq_false_iff.mpr hupdated
  have hcollision : ∀ t : Body, (bodyCanSendPendingCollisionEventIfNeeded inp.collisionTxBusy
      t).can.udsRequestUpdated = t.can.udsRequestUpdated := by
    intro t
    simp only [bodyCanSendPendingCollisionEventIfNeeded, bodyCanSendCollisionEvent]
    split
    · rfl
    · split <;> split <;> exact hsend _ _ _ _ _
  have hheartbeat : ∀ t : Body, (bodyCanSendHeartbeatIfNeeded inp.heartbeatTxBusy
      t).can.udsRequestUpdated = t.can.udsRequestUpdated := by
    intro t
    simp only [bodyCanSendHeartbeatIfNeeded, bodyCanSendHeartbeat]
    split
    · rfl
    · split <;> exact hsend _ _ _ _ _
  have htaken : (bodyCanUpdate1ms inp s).can.udsRequestUpdated = false :=
    (hheartbeat _).trans ((hcollision _).trans hserved)
  rw [bodyWaiting, if_neg (Bool.eq_false_iff.mp htaken)]

/-- A pass without a request counts for the check of the trouble code. -/
theorem mainPass_dtc (inp : BodyInputs) (h : bodyWaiting s.can = []) :
    (run bodyStep s (mainPass inp)).control.dtc = checkedDtc inp s.control.dtc ∧
      bodyWaiting (run bodyStep s (mainPass inp)).can = [] := by
  have hcan : (bodyCanUpdate1ms inp s).control.dtc = s.control.dtc := by
    have hupdate := congrArg Prod.fst (codeTime_canUpdate inp s)
    have hnone : waitingDtc s.can s.control.dtc = s.control.dtc := by
      rw [waitingDtc, h, List.foldl_nil]
    exact hupdate.trans hnone
  have hcontrol : ∀ c : BodyControlState,
      (BodyControl.update1ms inp c).dtc = checkedDtc inp c.dtc :=
    fun c => congrArg Prod.fst (codeTime_update1ms inp c)
  have hreport : ∀ t : Body, (reportCollisionIfPressed t).control.dtc = t.control.dtc ∧
      bodyWaiting (reportCollisionIfPressed t).can = bodyWaiting t.can := by
    intro t
    rw [reportCollisionIfPressed]
    split <;> exact ⟨rfl, rfl⟩
  have htaken := canUpdate_taken inp s
  obtain ⟨t, ht⟩ : ∃ t, bodyCanUpdate1ms inp s = t := ⟨_, rfl⟩
  obtain ⟨u, hu⟩ : ∃ u : Body, { t with control := BodyControl.update1ms inp t.control } = u :=
    ⟨_, rfl⟩
  obtain ⟨hdtc, hwaiting⟩ := hreport u
  have hrun : run bodyStep s (mainPass inp) =
      { reportCollisionIfPressed u with
        control := BodyControl.delayUs 1000 (reportCollisionIfPressed u).control } := by
    rw [← hu, ← ht]
    rfl
  rw [ht] at hcan htaken
  rw [hrun]
  constructor
  · show (reportCollisionIfPressed u).control.dtc = checkedDtc inp s.control.dtc
    rw [hdtc, ← hu, ← hcan]
    exact hcontrol t.control
  · show bodyWaiting (reportCollisionIfPressed u).can = []
    rw [hwaiting, ← hu]
    exact htaken

/-- The passes up to the next check. -/
theorem passes_dtc (inp : BodyInputs) (n : Nat) (h : bodyWaiting s.can = [])
    (hn : s.control.dtc.checkTimerMs + n ≤ 3000) :
    (run bodyStep s (passes inp n)).control.dtc =
        { s.control.dtc with checkTimerMs := s.control.dtc.checkTimerMs + n } ∧
      bodyWaiting (run bodyStep s (passes inp n)).can = [] := by
  induction n generalizing s with
  | zero => exact ⟨rfl, h⟩
  | succ n ih =>
      have hidle : ¬ Checks s.control.dtc := by
        have hperiod : BodyControl.dtcCheckPeriodMs = 3000 := rfl
        rw [Checks]
        omega
      obtain ⟨hdtc, hwaiting⟩ := mainPass_dtc inp h
      rw [checkedDtc, if_neg hidle] at hdtc
      have hpasses : passes inp (n + 1) = mainPass inp ++ passes inp n := by
        rw [passes, List.replicate_succ, List.flatten_cons]
        rfl
      have hroom : s.control.dtc.checkTimerMs + 1 + n ≤ 3000 := by omega
      have hnext := ih hwaiting (by rw [hdtc]; exact hroom)
      rw [hpasses, run_append, hnext.1, hdtc]
      refine ⟨?_, hnext.2⟩
      show UltrasonicDtc.mk _ _ _ = UltrasonicDtc.mk _ _ _
      rw [Nat.add_assoc, Nat.add_comm 1 n]

/-- **A check of the sensor** comes with the last of 3001 passes. -/
theorem period_dtc (inp : BodyInputs) (h : bodyWaiting s.can = [])
    (hstart : s.control.dtc.checkTimerMs = 0) :
    (run bodyStep s (passes inp 3001)).control.dtc =
        BodyControl.countUltrasonicDtc
          (echoFails inp.dtcEcho BodyControl.ultrasonicDiagEchoTimeoutUs) s.control.dtc ∧
      bodyWaiting (run bodyStep s (passes inp 3001)).can = [] := by
  have hpasses : passes inp 3001 = passes inp 3000 ++ mainPass inp := by
    rw [passes, List.replicate_succ', List.flatten_append, List.flatten_singleton]
    rfl
  obtain ⟨hdtc, hwaiting⟩ := passes_dtc inp 3000 h (by omega)
  obtain ⟨hlast, hwaiting⟩ := mainPass_dtc inp hwaiting
  have hchecks : Checks (run bodyStep s (passes inp 3000)).control.dtc := by
    rw [hdtc, hstart]
    exact Nat.le_refl 3000
  rw [hpasses, run_append]
  refine ⟨?_, hwaiting⟩
  rw [hlast, checkedDtc, if_pos hchecks, hdtc]
  show BodyControl.countUltrasonicDtc _ { s.control.dtc with checkTimerMs := 0 } = _
  rw [← hstart]

/-- Inputs at rest, with this echo for the check of the sensor. -/
def sensorInputs (dtcEcho : UltrasonicEcho) : BodyInputs where
  feedback := fun _ => ⟨false, false, false, false⟩
  buttonHigh := true
  periodicEcho := dtcEcho
  dtcEcho := dtcEcho
  requestEcho := dtcEcho
  udsTxBusy := false
  collisionTxBusy := false
  heartbeatTxBusy := false

/-- No echo comes back; one comes back from 17 cm. -/
def deaf : BodyInputs := sensorInputs ⟨0, 100000, 0⟩
def hearing : BodyInputs := sensorInputs ⟨0, 100, 1000⟩

/-- The sensor fails for three checks and then works again. -/
def recoveredRun : List BodyEvent :=
  passes deaf 3001 ++ (passes deaf 3001 ++ (passes deaf 3001 ++ passes hearing 3001))

/-- The request for the report. -/
def reportFrame : CanMessage := fdMessage bodyCanUdsReqId 8 [2, 0x19, 0x0A]

/-- After it the history is there and the fault is not. -/
theorem recovered_dtc :
    (run bodyStep (bodyReset hearing) recoveredRun).control.dtc = ⟨0x08, 0, 0⟩ := by
  have hfails : echoFails deaf.dtcEcho BodyControl.ultrasonicDiagEchoTimeoutUs = true := by decide
  have hworks : echoFails hearing.dtcEcho BodyControl.ultrasonicDiagEchoTimeoutUs = false := by
    decide
  have hcount : ∀ (failed : Bool) (d : UltrasonicDtc), d.checkTimerMs = 0 →
      (BodyControl.countUltrasonicDtc failed d).checkTimerMs = 0 := by
    intro failed d hd
    cases failed <;> exact hd
  obtain ⟨h1, w1⟩ := period_dtc (s := bodyReset hearing) deaf rfl rfl
  obtain ⟨h2, w2⟩ := period_dtc deaf w1 (by rw [h1]; exact hcount _ _ rfl)
  rw [h1] at h2
  obtain ⟨h3, w3⟩ := period_dtc deaf w2 (by rw [h2]; exact hcount _ _ (hcount _ _ rfl))
  rw [h2] at h3
  obtain ⟨h4, -⟩ := period_dtc hearing w3
    (by rw [h3]; exact hcount _ _ (hcount _ _ (hcount _ _ rfl)))
  rw [h3] at h4
  rw [recoveredRun, run_append, run_append, run_append, h4, hfails, hworks]
  decide

/-- The request arrives while there is a history. -/
theorem reportsHistory_request
    (h : s.control.dtc.status &&& BodyControl.dtcStatusHistoryBit ≠ 0) :
    ReportsHistory (bodyStep s (.rxIsr reportFrame)) (.call hearing .canUpdate1ms) := by
  have hwaiting : requestOf (rxByte reportFrame) = some reportRequest := by decide
  refine ⟨rfl, ?_, h⟩
  show (requestOf (rxByte reportFrame)).toList = [reportRequest]
  rw [hwaiting]
  rfl

end History

/-! ## Main result -/

/-- **Reports respect their masks** in every run of ACT and of MAIN; in a run of BODY they do
    exactly when no step sends a report while the history bit is set. -/
theorem reports_respect_masks (r : ActReset) (acts : List ActEvent) (init : BodyInputs)
    (bodies : List BodyEvent) (mains : List MainLoop.MainEvent) :
    (∀ resp ∈ actResponses (actRun r acts).act, RespectsMask resp) ∧
    (∀ resp ∈ trace MainLoop.mainStep UdsMainTrace.mainResponses MainLoop.mainReset mains,
      RespectsMask resp) ∧
    ((∀ resp ∈ bodyResponses (run bodyStep (bodyReset init) bodies), RespectsMask resp) ↔
      AllSteps bodyStep (fun s e => ¬ ReportsHistory s e) (bodyReset init) bodies) :=
  ⟨act_respects r acts, main_respects mains _, body_respects_iff init bodies⟩

/-- **BODY reports the history of a fault outside its mask.**  After three failed checks and a
    good one the status is 0x08, and the mask of the report is 0x01. -/
theorem body_report_loses_history :
    ¬ ∀ resp ∈ bodyResponses (run bodyStep (bodyReset hearing)
        (recoveredRun ++ [.rxIsr reportFrame, .call hearing .canUpdate1ms])),
      RespectsMask resp := by
  intro hall
  have hsteps := ((body_respects_iff hearing _).mp hall)
  obtain ⟨-, -, hlast, -⟩ := allSteps_append.mp hsteps
  refine hlast (reportsHistory_request ?_)
  rw [recovered_dtc]
  decide

end Availability
