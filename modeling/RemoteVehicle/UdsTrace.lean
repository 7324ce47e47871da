import RemoteVehicle.ActFrameProofs
import RemoteVehicle.BodyCommandProofs
import RemoteVehicle.UdsAnswer
import RemoteVehicle.UdsTunnelProofs

/-!
# Requests and responses along a run

What a run of an ECU has to do with diagnostics is two lists: the requests that its server
took, in the order in which it took them, and the responses that left.  The requests are a
trace (`actRequests`, `bodyRequests`); the responses are read out of the frames that were
sent (`responseOf`).

`act_step_cases` and `body_step_cases` say what a step of ACT or BODY does to diagnostics:
nothing, or one round of serving with the request that was waiting.
-/

namespace UdsTrace

open ActUdsDiag hiding word16
open Runs CanFrame ActState ActCan ActLoop ActSpec ActFrame
open BodyState BodyUds BodyCan BodySpec UdsFrame UdsAnswer UdsTunnel

/-! ## Responses -/

/-- The payload of a response frame with this identifier. -/
def responseOf (canId : Nat) (m : CanMessage) : Option (List UInt8) :=
  if m.messageId = canId then
    some (((frameBytes m).drop 1).take ((frameBytes m).getD 0 0 &&& 0x0F).toNat)
  else none

/-- **Reading a response undoes sending it.** -/
theorem responseOf_responseFrame (ecu : Ecu) {resp : List UInt8}
    (hlen : resp.length ≤ maxResponse ecu) :
    responseOf (responseId ecu) (responseFrame ecu resp) = some resp := by
  have hlen : resp.length ≤ 11 := by
    have hmax : maxResponse ecu ≤ 11 := by cases ecu <;> decide
    omega
  have hid : (responseFrame ecu resp).messageId = responseId ecu := by cases ecu <;> rfl
  have hlength : ((frameBytes (responseFrame ecu resp)).getD 0 0 &&& 0x0F).toNat =
      resp.length := by
    rw [frameBytes_response ecu resp (by decide)]
    exact (lengthByte_spec resp.length (by omega)).2
  rw [responseOf, if_pos hid, hlength]
  refine congrArg some (List.ext_getElem ?_ ?_)
  · simp only [List.length_take, List.length_drop, frameBytes, List.length_cons, List.length_nil]
    omega
  · intro i hi hb
    have hbyte := frameBytes_response ecu resp (i := i + 1) (by omega)
    rw [List.getElem_take, List.getElem_drop, ← List.getD_eq_getElem _ 0, Nat.add_comm, hbyte]
    exact List.getD_eq_getElem resp 0 hb

/-- The responses among the sent frames. -/
def actResponses (s : Act) : List (List UInt8) :=
  s.sent.filterMap fun p => responseOf udsDiagResCanId p.2

def bodyResponses (s : Body) : List (List UInt8) :=
  s.sent.filterMap fun p => responseOf bodyCanUdsRespId p.2

/-- A response that is sent on a free buffer joins the others. -/
theorem actResponses_send {resp : List UInt8} (hpos : 1 ≤ resp.length)
    (hlen : resp.length ≤ 11) (s : Act) :
    actResponses (udsDiagSendSingleFrame false resp s) = actResponses s ++ [resp] := by
  obtain ⟨buffer, hsent⟩ := responseLeaves .act hpos hlen s
  have hresp : responseOf udsDiagResCanId (responseFrame .act resp) = some resp :=
    responseOf_responseFrame .act hlen
  rw [actResponses, hsent, List.filterMap_append, ← actResponses]
  simp only [List.filterMap_cons, hresp, List.filterMap_nil]

theorem bodyResponses_send {resp : List UInt8} (hpos : 1 ≤ resp.length)
    (hlen : resp.length ≤ 7) (s : Body) :
    bodyResponses (sendUdsPayload false resp s) = bodyResponses s ++ [resp] := by
  obtain ⟨buffer, hsent⟩ := responseLeaves .body hpos hlen s
  have hresp : responseOf bodyCanUdsRespId (responseFrame .body resp) = some resp :=
    responseOf_responseFrame .body hlen
  rw [bodyResponses, hsent, List.filterMap_append, ← bodyResponses]
  simp only [List.filterMap_cons, hresp, List.filterMap_nil]

/-! ## ACT -/

/-- The request that waits for the server, if it is well formed. -/
def actWaiting (u : UdsDiag) : List (List UInt8) :=
  if u.reqPending = true then (requestOf u.reqData).toList else []

/-- The request that a step of ACT serves. -/
def actRequests (s : ActMachine) : ActEvent → List (List UInt8)
  | .rxIsr _ => []
  | .call _ => if s.pc = .udsUpdate then actWaiting s.act.uds else []

/-- The request buffer is empty. -/
def actTaken (s : Act) : Act := { s with uds := { s.uds with reqPending := false } }

/-- **Serving**: nothing well formed waits, or one request is served. -/
theorem serveRequest_eq (busy : Bool) (s : Act) :
    (actWaiting s.uds = [] ∧ (udsDiagServeRequest busy s = s ∨
      udsDiagServeRequest busy s = actTaken s)) ∨
    ∃ req, actWaiting s.uds = [req] ∧
      udsDiagServeRequest busy s = actServe busy req (actTaken s) := by
  rw [udsDiagServeRequest, actWaiting]
  split
  · rename_i hpending
    rw [udsDiagProcessRequest_eq]
    rcases hreq : requestOf s.uds.reqData with _ | req
    · exact Or.inl ⟨rfl, Or.inr rfl⟩
    · exact Or.inr ⟨req, rfl, rfl⟩
  · exact Or.inl ⟨rfl, Or.inl rfl⟩

/-- Session, trouble codes, routine and responses: what diagnostics is about. -/
structure SameDiag (s t : Act) : Prop where
  session : t.uds.diagSession = s.uds.diagSession
  routine : t.uds.routineState = s.uds.routineState
  responses : actResponses t = actResponses s

/-- The trouble codes with their timers. -/
structure ActDtcs where
  c100Status : UInt8
  c100FailCount : Nat
  encoderTimerMs : Nat
  c101Status : UInt8
  c101FailCount : Nat
  steeringTimerMs : Nat
  periodTimerMs : Nat
deriving DecidableEq, Repr

def actDtcs (u : UdsDiag) : ActDtcs where
  c100Status := u.dtcC100Status
  c100FailCount := u.dtcC100ConsecutiveFailCount
  encoderTimerMs := u.dtcEncoderNoSignalTimerMs
  c101Status := u.dtcC101Status
  c101FailCount := u.dtcC101ConsecutiveFailCount
  steeringTimerMs := u.dtcSteeringMismatchTimerMs
  periodTimerMs := u.dtcMonitorPeriodTimerMs

/-- Nor do the trouble codes change. -/
structure Untouched (s t : Act) : Prop extends SameDiag s t where
  dtcs : actDtcs t.uds = actDtcs s.uds

theorem untouched_taken (s : Act) : Untouched s (actTaken s) := ⟨⟨rfl, rfl, rfl⟩, rfl⟩

/-- The monitor writes its own variables only. -/
theorem sameDiag_monitor (s : Act) : SameDiag s (udsDiagUpdateDtcMonitor1ms s) := by
  simp only [udsDiagUpdateDtcMonitor1ms]
  split <;> exact ⟨rfl, rfl, rfl⟩

theorem untouched_rxIsr (m : CanMessage) (s : Act) : Untouched s (actCanRxIsrHandler m s) := by
  rcases rxIsr_cases m s with ⟨c, -, h⟩ | ⟨-, h | h⟩
  · rw [h]
    exact ⟨⟨rfl, rfl, rfl⟩, rfl⟩
  · rw [h]
    exact ⟨⟨rfl, rfl, rfl⟩, rfl⟩
  · rw [h]
    exact ⟨⟨rfl, rfl, rfl⟩, rfl⟩

theorem untouched_canUpdate (s : Act) : Untouched s (actCanUpdate100us s) := by
  obtain ⟨_, _, _, hupdate⟩ := update_drives s
  rw [hupdate]
  exact ⟨⟨rfl, rfl, rfl⟩, rfl⟩

/-- The status message is no response. -/
theorem untouched_status (busy : Bool) (s : Act) : Untouched s (appSendStatusIfNeeded busy s) := by
  have hno : ∀ dlc txByte,
      responseOf udsDiagResCanId (fdMessage actStatusCanId dlc txByte) = none :=
    fun dlc txByte => if_neg (by show actStatusCanId ≠ udsDiagResCanId; decide)
  simp only [appSendStatusIfNeeded, canCommSendActStatus]
  split
  · exact ⟨⟨rfl, rfl, rfl⟩, rfl⟩
  · split
    · exact ⟨⟨rfl, rfl, rfl⟩, rfl⟩
    · refine ⟨⟨rfl, rfl, ?_⟩, rfl⟩
      simp only [actResponses, sendMessage, Bool.false_eq_true, if_false, List.filterMap_append,
        List.filterMap_cons, List.filterMap_nil, hno, List.append_nil]

/-- A call of the loop that is not the diagnostic one. -/
theorem untouched_loopCall (inp : ActInputs) {c : LoopCall} (hc : c ≠ .udsUpdate1ms) (s : Act) :
    Untouched s (loopCall inp c s) := by
  cases c with
  | udsUpdate1ms => exact absurd rfl hc
  | canUpdate100us => exact untouched_canUpdate s
  | sendStatusIfNeeded => exact untouched_status inp.statusTxBusy s
  | motorUpdate => exact ⟨⟨rfl, rfl, rfl⟩, rfl⟩
  | encoderUpdate1ms => exact ⟨⟨rfl, rfl, rfl⟩, rfl⟩
  | potUpdate1ms => exact ⟨⟨rfl, rfl, rfl⟩, rfl⟩
  | steeringTimer => exact ⟨⟨rfl, rfl, rfl⟩, rfl⟩
  | pulseHigh => exact ⟨⟨rfl, rfl, rfl⟩, rfl⟩
  | pulseRest us => exact ⟨⟨rfl, rfl, rfl⟩, rfl⟩

theorem untouched_bootCall {c : BootCall} (hc : c ≠ .udsDiagInit) (s : Act) :
    Untouched s (bootCall c s) := by
  cases c with
  | udsDiagInit => exact absurd rfl hc
  | setDutyPercent => exact ⟨⟨rfl, rfl, rfl⟩, rfl⟩
  | coast => exact ⟨⟨rfl, rfl, rfl⟩, rfl⟩
  | center => exact ⟨⟨rfl, rfl, rfl⟩, rfl⟩
  | resetCount => exact ⟨⟨rfl, rfl, rfl⟩, rfl⟩

/-- `UdsDiag_Init` has not been called yet, and diagnostics is as the loader left it. -/
def BootedDiag (s : ActMachine) : Prop :=
  s.pc = .boot .udsDiagInit →
    s.act.uds.diagSession = sessionDefault ∧ s.act.uds.routineState = .none ∧
      actDtcs s.act.uds = ⟨0, 0, 0, 0, 0, 0, 0⟩

/-- The program never comes back to `UdsDiag_Init`. -/
theorem nextPc_ne_init (s : ActMachine) : nextPc s ≠ .boot .udsDiagInit := by
  obtain ⟨pc, act⟩ := s
  cases pc with
  | boot c => cases c <;> simp [nextPc, afterBoot]
  | canUpdate i =>
      simp only [nextPc]
      split <;> simp
  | udsUpdate => simp [nextPc]
  | motorUpdate => simp [nextPc]
  | encoderUpdate => simp [nextPc]
  | potUpdate => simp [nextPc]
  | statusUpdate => simp [nextPc]
  | steeringTimer =>
      simp only [nextPc]
      split <;> simp
  | pulseHigh k => simp [nextPc]
  | pulseLow k us =>
      simp only [nextPc]
      split
      · simp
      · rcases k with ⟨_ | n⟩ | _ <;> simp [afterPulse]
  | pulseEncoder k us => simp [nextPc]

theorem bootedDiag_reset (r : ActReset) : BootedDiag (actReset r) := fun _ => ⟨rfl, rfl, rfl⟩

theorem bootedDiag_step {s : ActMachine} (h : BootedDiag s) (e : ActEvent) :
    BootedDiag (actStep s e) := by
  cases e with
  | rxIsr m =>
      intro hpc
      have hsame := untouched_rxIsr m s.act
      obtain ⟨hsession, hroutine, hdtcs⟩ := h hpc
      exact ⟨hsame.session.trans hsession, hsame.routine.trans hroutine, hsame.dtcs.trans hdtcs⟩
  | call inp => exact fun hpc => absurd hpc (nextPc_ne_init s)

/-- `UdsDiag_Update1ms` has its own position. -/
theorem callAt_udsUpdate {pc : ActPc} : callAt pc = .inr .udsUpdate1ms ↔ pc = .udsUpdate := by
  cases pc with
  | pulseLow k us =>
      simp only [callAt, reduceCtorEq, iff_false]
      split <;> simp
  | _ => simp [callAt]

/-- The step is a `UdsDiag_Update1ms`. -/
def Serves (s : ActMachine) (e : ActEvent) : Prop := s.pc = .udsUpdate ∧ ∃ inp, e = .call inp

/-- **A step of ACT** leaves diagnostics alone or is a `UdsDiag_Update1ms`. -/
theorem act_step_cases {s : ActMachine} (h : BootedDiag s) (e : ActEvent) :
    (¬ Serves s e ∧ actRequests s e = [] ∧ Untouched s.act (actStep s e).act) ∨
    ∃ inp, e = .call inp ∧ s.pc = .udsUpdate ∧ actRequests s e = actWaiting s.act.uds ∧
      (actStep s e).act = udsDiagUpdate1ms inp s.act := by
  cases e with
  | rxIsr m =>
      exact Or.inl ⟨fun ⟨_, _, he⟩ => ActEvent.noConfusion he, rfl, untouched_rxIsr m s.act⟩
  | call inp =>
      by_cases hpc : s.pc = .udsUpdate
      · have hact : (actStep s (.call inp)).act = udsDiagUpdate1ms inp s.act := by
          simp only [actStep, mainStep, callAt_udsUpdate.mpr hpc]
          rfl
        exact Or.inr ⟨inp, rfl, hpc, if_pos hpc, hact⟩
      · refine Or.inl ⟨fun h => hpc h.1, if_neg hpc, ?_⟩
        rcases hcall : callAt s.pc with c | c <;> simp only [actStep, mainStep, hcall]
        · by_cases hc : c = .udsDiagInit
          · -- the boot call writes what is there since the reset
            have hinit : s.pc = .boot .udsDiagInit := by
              obtain ⟨pc, act⟩ := s
              cases pc <;> simp_all [callAt]
            obtain ⟨hsession, hroutine, hdtcs⟩ := h hinit
            subst hc
            exact ⟨⟨hsession.symm, hroutine.symm, rfl⟩, hdtcs.symm⟩
          · exact untouched_bootCall hc s.act
        · have hne : c ≠ .udsUpdate1ms := fun he => hpc (callAt_udsUpdate.mp (he ▸ hcall))
          exact untouched_loopCall inp hne s.act

/-! ## BODY -/

/-- The request that waits for the server, if it is well formed. -/
def bodyWaiting (c : BodyCanState) : List (List UInt8) :=
  if c.udsRequestUpdated = true then (requestOf c.udsRequestByte).toList else []

/-- The request that a step of BODY serves. -/
def bodyRequests (s : Body) : BodyEvent → List (List UInt8)
  | .call _ .canUpdate1ms => bodyWaiting s.can
  | _ => []

/-- The request buffer is empty. -/
def bodyTaken (s : Body) : Body := { s with can := { s.can with udsRequestUpdated := false } }

/-- The state in which `BodyCan_Update1ms` looks at the request. -/
def bodyPrepared (inp : BodyInputs) (s : Body) : Body :=
  applyUpdated inp (checkTimeout inp (BodyCan.countTimeout s))

/-- Session and heartbeat counter stay, and only frames with these identifiers are sent. -/
structure Adds (P : Nat → Prop) (s t : Body) : Prop where
  session : t.can.udsSession = s.can.udsSession
  timer : t.can.heartbeatTxTimerMs = s.can.heartbeatTxTimerMs
  sent : ∃ more, t.sent = s.sent ++ more ∧ ∀ p ∈ more, P p.2.messageId

section Adds

variable {P : Nat → Prop} {s t u : Body}

theorem Adds.same (hsession : t.can.udsSession = s.can.udsSession)
    (htimer : t.can.heartbeatTxTimerMs = s.can.heartbeatTxTimerMs) (hsent : t.sent = s.sent) :
    Adds P s t :=
  ⟨hsession, htimer, [], by rw [hsent, List.append_nil], by simp⟩

theorem Adds.trans (h : Adds P s t) (h' : Adds P t u) : Adds P s u := by
  obtain ⟨more, hmore, hid⟩ := h.sent
  obtain ⟨last, hlast, hid'⟩ := h'.sent
  refine ⟨h'.session.trans h.session, h'.timer.trans h.timer, more ++ last, ?_, ?_⟩
  · rw [hlast, hmore, List.append_assoc]
  · intro p hp
    rcases List.mem_append.mp hp with hp | hp
    · exact hid p hp
    · exact hid' p hp

theorem adds_sendRaw (busy : Bool) {messageId dlc : Nat} (hid : P messageId)
    (txByte : List UInt8) (s : Body) : Adds P s (sendRawFrame busy messageId dlc txByte s).2 := by
  rw [sendRawFrame]
  split
  · exact Adds.same rfl rfl rfl
  · refine ⟨rfl, rfl, [_], rfl, ?_⟩
    intro p hp
    obtain rfl := List.mem_singleton.mp hp
    exact hid

theorem adds_rxIsr (m : CanMessage) (s : Body) : Adds P s (bodyCanRxIsrHandler m s) := by
  rcases hc : BodySpec.accepted m with _ | c
  · rw [BodyCommand.rxIsr_rejected hc]
    split <;> exact Adds.same rfl rfl rfl
  · rw [BodyCommand.rxIsr_accepted hc]
    exact Adds.same rfl rfl rfl

/-- The command path keeps request, session and heartbeat counter, and sends nothing. -/
theorem bodyPrepared_kept (inp : BodyInputs) (s : Body) :
    (bodyPrepared inp s).sent = s.sent ∧
      (bodyPrepared inp s).can.udsSession = s.can.udsSession ∧
      (bodyPrepared inp s).can.heartbeatTxTimerMs = s.can.heartbeatTxTimerMs ∧
      bodyWaiting (bodyPrepared inp s).can = bodyWaiting s.can := by
  have hcheck : (checkTimeout inp (BodyCan.countTimeout s)).sent = s.sent ∧
      (checkTimeout inp (BodyCan.countTimeout s)).can.udsSession = s.can.udsSession ∧
      (checkTimeout inp (BodyCan.countTimeout s)).can.heartbeatTxTimerMs =
        s.can.heartbeatTxTimerMs ∧
      bodyWaiting (checkTimeout inp (BodyCan.countTimeout s)).can = bodyWaiting s.can := by
    rw [checkTimeout]
    split <;> exact ⟨rfl, rfl, rfl, rfl⟩
  rw [bodyPrepared, applyUpdated]
  split
  · rw [bodyCanApplyBodyCommand]
    split <;> exact hcheck
  · exact hcheck

theorem adds_prepared (inp : BodyInputs) (s : Body) : Adds P s (bodyPrepared inp s) := by
  obtain ⟨hsent, hsession, htimer, -⟩ := bodyPrepared_kept inp s
  exact Adds.same hsession htimer hsent

theorem adds_collision (hid : P bodyCanCollisionEventId) (busy : Bool) (s : Body) :
    Adds P s (bodyCanSendPendingCollisionEventIfNeeded busy s) := by
  have hsend : ∀ time, Adds P s (bodyCanSendCollisionEvent busy time s) := by
    intro time
    simp only [bodyCanSendCollisionEvent]
    split
    · exact (adds_sendRaw busy hid _ s).trans (Adds.same rfl rfl rfl)
    · exact adds_sendRaw busy hid _ s
  simp only [bodyCanSendPendingCollisionEventIfNeeded]
  split
  · exact Adds.same rfl rfl rfl
  · split
    · exact (hsend _).trans (Adds.same rfl rfl rfl)
    · exact hsend _

end Adds

/-- Session and responses. -/
structure SameBodyDiag (s t : Body) : Prop where
  session : t.can.udsSession = s.can.udsSession
  responses : bodyResponses t = bodyResponses s

theorem SameBodyDiag.trans {s t u : Body} (h : SameBodyDiag s t) (h' : SameBodyDiag t u) :
    SameBodyDiag s u := ⟨h'.session.trans h.session, h'.responses.trans h.responses⟩

/-- Other frames are no responses. -/
theorem Adds.sameBodyDiag {s t : Body} (h : Adds (· ≠ bodyCanUdsRespId) s t) :
    SameBodyDiag s t := by
  obtain ⟨more, hmore, hid⟩ := h.sent
  have hnone : more.filterMap (fun p => responseOf bodyCanUdsRespId p.2) = [] := by
    rw [List.filterMap_eq_nil_iff]
    intro p hp
    exact if_neg (hid p hp)
  refine ⟨h.session, ?_⟩
  rw [bodyResponses, hmore, List.filterMap_append, hnone, List.append_nil]
  rfl

/-- **Serving**: nothing well formed waits, or one request is served. -/
theorem processUds_eq (inp : BodyInputs) (s : Body) :
    (bodyWaiting s.can = [] ∧ SameBodyDiag s (processUdsRequestIfNeeded inp s) ∧
      (processUdsRequestIfNeeded inp s).control = s.control) ∨
    ∃ req, bodyWaiting s.can = [req] ∧
      processUdsRequestIfNeeded inp s = bodyServe inp req (bodyTaken s) := by
  rw [processUdsRequestIfNeeded, bodyWaiting]
  split
  · rw [handleUdsRequest_eq]
    rcases hreq : requestOf s.can.udsRequestByte with _ | req
    · exact Or.inl ⟨rfl, ⟨rfl, rfl⟩, rfl⟩
    · exact Or.inr ⟨req, rfl, rfl⟩
  · exact Or.inl ⟨rfl, ⟨rfl, rfl⟩, rfl⟩

/-- The heartbeat is no response. -/
theorem sameBodyDiag_heartbeat (busy : Bool) (s : Body) :
    SameBodyDiag s (bodyCanSendHeartbeatIfNeeded busy s) := by
  have hid : bodyCanHeartbeatId ≠ bodyCanUdsRespId := by decide
  have hsend : ∀ t, SameBodyDiag t (bodyCanSendHeartbeat busy t) := by
    intro t
    have hraw := (@adds_sendRaw (· ≠ bodyCanUdsRespId) busy bodyCanHeartbeatId 1 hid
      [t.can.txHeartbeatAliveCounter] t).sameBodyDiag
    simp only [bodyCanSendHeartbeat]
    split
    · exact ⟨hraw.session, hraw.responses⟩
    · exact hraw
  simp only [bodyCanSendHeartbeatIfNeeded]
  split
  · exact ⟨rfl, rfl⟩
  · obtain ⟨hsession, hresponses⟩ := hsend { s with can := { s.can with heartbeatTxTimerMs := 0 } }
    exact ⟨hsession, hresponses⟩

/-- What follows the request in `BodyCan_Update1ms`. -/
theorem sameBodyDiag_update (inp : BodyInputs) (s : Body) :
    SameBodyDiag (processUdsRequestIfNeeded inp (bodyPrepared inp s)) (bodyCanUpdate1ms inp s) :=
  (adds_collision (by decide) inp.collisionTxBusy _).sameBodyDiag.trans
    (sameBodyDiag_heartbeat inp.heartbeatTxBusy _)

/-- **A step of BODY** leaves diagnostics alone or is a `BodyCan_Update1ms`. -/
theorem body_step_cases (s : Body) (e : BodyEvent) :
    (bodyRequests s e = [] ∧ SameBodyDiag s (bodyStep s e)) ∨
      ∃ inp, e = .call inp .canUpdate1ms := by
  cases e with
  | rxIsr m => exact Or.inl ⟨rfl, (adds_rxIsr m s).sameBodyDiag⟩
  | call inp c =>
      cases c with
      | canUpdate1ms => exact Or.inr ⟨inp, rfl⟩
      | controlUpdate1ms => exact Or.inl ⟨rfl, rfl, rfl⟩
      | delay1ms => exact Or.inl ⟨rfl, rfl, rfl⟩
      | reportCollision =>
          refine Or.inl ⟨rfl, ?_⟩
          show SameBodyDiag s (reportCollisionIfPressed s)
          rw [reportCollisionIfPressed]
          split <;> exact ⟨rfl, rfl⟩

end UdsTrace
