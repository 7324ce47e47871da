import RemoteVehicle.PolledTimer
import RemoteVehicle.SpeedChainProofs

/-!
# What MAIN sends by itself

Three timers of MAIN run side by side, each with a time stamp of its own: the service offers
every second, the two command frames every 20 ms, the status datagram every 50 ms.  Each is an
instance of `PolledTimer`; what is left to show is that nothing else writes their stamps.
-/

namespace MainPeriod

open Runs TickClock PolledTimer CanFrame MainState MainTransmit MainDcm MainCom MainRouting MainDoip
open MainTcp MainLoop MainSpec MainFrame SpeedChain

/-! ## The timers -/

def isSd : MainCall → Bool
  | .sdMainFunction => true
  | _ => false

def isTx : MainCall → Bool
  | .comTxMainFunction => true
  | _ => false

/-- The timer of `Sd_MainFunction`. -/
def offerTimer : Timer Main MainEvent where
  period := 1000
  time e := e.env.now
  polls e := isSd e.call
  last s := s.sd.lastOfferTime

/-- The two timers of `COM_Tx_MainFunction`. -/
def commandTimer : Timer Main MainEvent where
  period := 20
  time e := e.env.now
  polls e := isTx e.call
  last s := s.com.times.lastTime20ms

def statusTimer : Timer Main MainEvent where
  period := 50
  time e := e.env.now
  polls e := isTx e.call
  last s := s.com.times.lastTime50ms

/-! ## Who writes the stamps -/

section Stamps

variable {s s' s'' : Main} {P : Out → Prop}

/-- Service discovery and the stamps of the transmission stay. -/
structure StampsKept (s s' : Main) : Prop where
  sd : s'.sd = s.sd
  t20 : s'.com.times.lastTime20ms = s.com.times.lastTime20ms
  t50 : s'.com.times.lastTime50ms = s.com.times.lastTime50ms

theorem StampsKept.trans (h : StampsKept s s') (h' : StampsKept s' s'') : StampsKept s s'' :=
  ⟨h'.sd.trans h.sd, h'.t20.trans h.t20, h'.t50.trans h.t50⟩

theorem StampsKept.ofEmits (h : Emits P s s') : StampsKept s s' := by
  obtain ⟨outs, rfl, -⟩ := h
  exact ⟨rfl, rfl, rfl⟩

theorem stampsKept_diagnostic (payload : Payload) (length : Nat) (s : Main) :
    StampsKept s (doIPProcessDiagnostic doipPort payload length s) := by
  have hclose : ∀ s, StampsKept s (soAdCloseSocket doipPort s) := fun _ => ⟨rfl, rfl, rfl⟩
  rw [doIPProcessDiagnostic]
  split
  · exact ⟨rfl, rfl, rfl⟩
  · split
    · exact (StampsKept.ofEmits (diagNack_reply _ _ _ s)).trans (hclose _)
    · split
      · exact StampsKept.ofEmits (diagNack_reply _ _ _ s)
      · refine (StampsKept.ofEmits
          (diagAck_reply (targetAddr payload) (sourceAddr payload) 0x00 s)).trans ?_
        dsimp only
        rw [routeDiagnostic]
        split
        · obtain ⟨dcm, hanswers⟩ := udsProcessRx_answers (offset payload 12) (length - 12)
            (doIPSendDiagAck doipPort (targetAddr payload) (sourceAddr payload) 0x00 s)
          have hkept := StampsKept.ofEmits hanswers
          exact ⟨hkept.sd, hkept.t20, hkept.t50⟩
        · split
          · exact StampsKept.ofEmits (canTpTransmit_emits 0x700 _ _ _)
          · split
            · exact StampsKept.ofEmits (canTpTransmit_emits 0x710 _ _ _)
            · exact ⟨rfl, rfl, rfl⟩

theorem stampsKept_activation (payload : Payload) (length : Nat) (s : Main) :
    StampsKept s (doIPProcessRoutingActivation doipPort payload length s) := by
  have hclose : ∀ s, StampsKept s (soAdCloseSocket doipPort s) := fun _ => ⟨rfl, rfl, rfl⟩
  rw [doIPProcessRoutingActivation]
  dsimp only
  split
  · exact ⟨rfl, rfl, rfl⟩
  · split
    · refine StampsKept.trans ?_ (StampsKept.ofEmits (activationResponse_reply _ _ _))
      rw [callbackDiagRoutingActivated]
      split <;> exact ⟨rfl, rfl, rfl⟩
    · exact (StampsKept.ofEmits (activationResponse_reply _ _ s)).trans (hclose _)

theorem stampsKept_doip (payload : Payload) (length : Nat) (s : Main) :
    StampsKept s (doIPProcessRx payload length s) := by
  have hclose : ∀ s, StampsKept s (soAdCloseSocket doipPort s) := fun _ => ⟨rfl, rfl, rfl⟩
  rw [doIPProcessRx]
  split
  · exact ⟨rfl, rfl, rfl⟩
  · split
    · exact (StampsKept.ofEmits (genericNack_reply _ s)).trans (hclose _)
    · rw [doIPDispatch]
      split
      · exact stampsKept_diagnostic payload length s
      · split
        · exact stampsKept_activation payload length s
        · exact StampsKept.ofEmits (genericNack_reply _ s)

theorem stampsKept_someIp (payload : Payload) (length : Nat) (s : Main) :
    StampsKept s (someIpProcessRx payload length s) := by
  rw [someIpProcessRx]
  split
  · have hset : StampsKept s (swcBuzzerControlIndication (payload 17) s) := ⟨rfl, rfl, rfl⟩
    refine hset.trans ?_
    rw [someIpSendResponse, pduRRouteTx_someip]
    exact StampsKept.ofEmits (soAdIfTransmit_udp (by decide) _ _ _)
  · exact ⟨rfl, rfl, rfl⟩

theorem stampsKept_udp (localPort : Nat) (p : Pbuf) (addr : IpAddr) (port : Nat) (s : Main) :
    StampsKept s (udpReceiveRecv localPort p addr port s) := by
  have hudp : ∀ u, StampsKept s { s with udp := u } := fun _ => ⟨rfl, rfl, rfl⟩
  rw [udpReceiveRecv]
  by_cases hctr : localPort = 5000
  · subst hctr
    exact ⟨rfl, rfl, rfl⟩
  by_cases hsomeip : localPort = 30492
  · subst hsomeip
    rw [soAdRxIndication_someip]
    exact (hudp _).trans (stampsKept_someIp _ _ _)
  by_cases hdoip : localPort = 13400
  · subst hdoip
    rw [soAdRxIndication_doip]
    exact (hudp _).trans (stampsKept_doip _ _ _)
  · rw [soAdRxIndication_other hctr hsomeip hdoip]
    exact hudp _

theorem stampsKept_lwip (c : LwipCall) (s : Main) : StampsKept s (lwipCall c s) := by
  cases c with
  | udpRecv localPort p addr port => exact stampsKept_udp localPort p addr port s
  | tcpAccept newpcb => exact ⟨rfl, rfl, rfl⟩
  | tcpRecv tpcb p rest =>
      simp only [lwipCall]
      split
      · exact stampsKept_doip p.payload p.len s
      · exact ⟨rfl, rfl, rfl⟩
  | tcpFin tpcb =>
      simp only [lwipCall]
      split
      · rw [tcpServerRecvFin, callbackDiagRoutingDeactivated]
        split <;> exact ⟨rfl, rfl, rfl⟩
      · exact ⟨rfl, rfl, rfl⟩
  | tcpErr tpcb =>
      simp only [lwipCall]
      split <;> exact ⟨rfl, rfl, rfl⟩

theorem stampsKept_can (m : CanRx) (s : Main) :
    StampsKept s (canReadMessage m.messageId m.dataLengthCode m.messageData s) := by
  by_cases hstat : m.messageId = 0x200
  · rw [hstat]
    exact ⟨rfl, rfl, rfl⟩
  by_cases hbody : m.messageId = 0x310
  · rw [hbody]
    exact ⟨rfl, rfl, rfl⟩
  · exact StampsKept.ofEmits (canReadMessage_other hstat hbody s)

theorem stampsKept_timeOut (s : Main) : StampsKept s (comTimeOut s) := by
  have hpc : ∀ t s, StampsKept s (pcTimeOut t s) := by
    intro t s
    rw [pcTimeOut]
    split <;> exact ⟨rfl, rfl, rfl⟩
  have hact : ∀ t s, StampsKept s (actTimeOut t s) := by
    intro t s
    rw [actTimeOut]
    split <;> exact ⟨rfl, rfl, rfl⟩
  have hbody : ∀ t s, StampsKept s (bodyTimeOut t s) := by
    intro t s
    rw [bodyTimeOut]
    split <;> exact ⟨rfl, rfl, rfl⟩
  exact ((hpc _ s).trans (hact _ _)).trans (hbody _ _)

/-- **Calls without a timer of their own.** -/
theorem stampsKept_step {e : MainEvent} (hsd : isSd e.call = false) (htx : isTx e.call = false)
    (s : Main) : StampsKept s (mainStep s e) := by
  obtain ⟨env, call⟩ := e
  have henter : StampsKept s (Main.enter env s) := ⟨rfl, rfl, rfl⟩
  refine henter.trans ?_
  cases call with
  | lwip c => exact stampsKept_lwip c (Main.enter env s)
  | canRead m => exact stampsKept_can m (Main.enter env s)
  | comTimeOut => exact stampsKept_timeOut (Main.enter env s)
  | comTxMainFunction => cases htx
  | sdMainFunction => cases hsd
  | soAdMainFunction =>
      show StampsKept (Main.enter env s) (soAdMainFunction (Main.enter env s))
      rw [soAdMainFunction]
      split <;> exact ⟨rfl, rfl, rfl⟩

end Stamps

/-! ## The polls -/

section Polls

variable (env : Env) (s : Main)

/-- `Sd_MainFunction` sends an offer when it is due; it renews the stamp and the session. -/
theorem sd_poll : mainStep s ⟨env, .sdMainFunction⟩ =
    if offerTimer.fires s ⟨env, .sdMainFunction⟩ then
      { Main.enter env s with
        sd := ⟨s.sd.sessionId + 1, stamp env.now⟩
        out := [.udp ⟨224, 224, 224, 245⟩ 30490 (sdOffer s.sd.sessionId)] }
    else Main.enter env s := by
  show sdMainFunction (Main.enter env s) = _
  rw [sdMainFunction]
  by_cases hdue : 1000 ≤ stamp env.now - s.sd.lastOfferTime
  · have hfires : offerTimer.fires s ⟨env, .sdMainFunction⟩ = true :=
      Bool.and_eq_true_iff.mpr ⟨rfl, decide_eq_true hdue⟩
    have hwhen : 1000 ≤ getSystemTimeMs (Main.enter env s) - (Main.enter env s).sd.lastOfferTime :=
      hdue
    have hlength : ¬ (sdOffer (Main.enter env s).sd.sessionId).length = 0 := by
      show ¬ 56 = 0
      decide
    rw [if_pos hwhen, if_pos hfires, sdSendOfferService, udpSendWithPcb]
    dsimp only [enter_out]
    rw [if_neg hlength, bytesOf_ofList]
    rfl
  · have hfires : ¬ offerTimer.fires s ⟨env, .sdMainFunction⟩ = true := by
      intro hf
      exact hdue (of_decide_eq_true (Bool.and_eq_true_iff.mp hf).2)
    have hwhen : ¬ 1000 ≤ getSystemTimeMs (Main.enter env s) -
      (Main.enter env s).sd.lastOfferTime := hdue
    rw [if_neg hwhen, if_neg hfires]

theorem pick_decide (p : Prop) [Decidable p] (a b : UInt32) :
    (if p then a else b) = if decide p = true then a else b := by
  by_cases h : p
  · rw [if_pos h, if_pos (decide_eq_true h)]
  · rw [if_neg h, if_neg (by rwa [decide_eq_true_iff])]

/-- The stamps after its two parts. -/
theorem commands_stamps (now : UInt32) (s : Main) : (comTx20ms now s).sd = s.sd ∧
    (comTx20ms now s).com.times.lastTime20ms =
      (if 20 ≤ now - s.com.times.lastTime20ms then now else s.com.times.lastTime20ms) ∧
    (comTx20ms now s).com.times.lastTime50ms = s.com.times.lastTime50ms := by
  have hsent : StampsKept s (comTxCtrBodyCan (comTxCtrActCan s)) :=
    (StampsKept.ofEmits (comTxCtrActCan_emits s)).trans
      (StampsKept.ofEmits (comTxCtrBodyCan_emits _))
  rw [comTx20ms]
  by_cases hdue : 20 ≤ now - s.com.times.lastTime20ms
  · rw [if_pos hdue, if_pos hdue]
    exact ⟨hsent.sd, rfl, hsent.t50⟩
  · rw [if_neg hdue, if_neg hdue]
    exact ⟨rfl, rfl, rfl⟩

theorem status_stamps (now : UInt32) (s : Main) : (comTx50ms now s).sd = s.sd ∧
    (comTx50ms now s).com.times.lastTime20ms = s.com.times.lastTime20ms ∧
    (comTx50ms now s).com.times.lastTime50ms =
      if 50 ≤ now - s.com.times.lastTime50ms then now else s.com.times.lastTime50ms := by
  rw [comTx50ms]
  by_cases hdue : 50 ≤ now - s.com.times.lastTime50ms
  · rw [if_pos hdue, if_pos hdue]
    exact ⟨rfl, rfl, rfl⟩
  · rw [if_neg hdue, if_neg hdue]
    exact ⟨rfl, rfl, rfl⟩

/-- The stamps after `COM_Tx_MainFunction`. -/
theorem tx_stamps :
    (mainStep s ⟨env, .comTxMainFunction⟩).sd = s.sd ∧
    (mainStep s ⟨env, .comTxMainFunction⟩).com.times.lastTime20ms =
      (if commandTimer.fires s ⟨env, .comTxMainFunction⟩ then stamp env.now
        else s.com.times.lastTime20ms) ∧
    (mainStep s ⟨env, .comTxMainFunction⟩).com.times.lastTime50ms =
      if statusTimer.fires s ⟨env, .comTxMainFunction⟩ then stamp env.now
        else s.com.times.lastTime50ms := by
  have hstep : mainStep s ⟨env, .comTxMainFunction⟩ =
      comTx50ms (stamp env.now) (comTx20ms (stamp env.now) (Main.enter env s)) := rfl
  obtain ⟨hsd₁, h20₁, h50₁⟩ := commands_stamps (stamp env.now) (Main.enter env s)
  obtain ⟨hsd₂, h20₂, h50₂⟩ :=
    status_stamps (stamp env.now) (comTx20ms (stamp env.now) (Main.enter env s))
  rw [hstep]
  refine ⟨hsd₂.trans hsd₁, ?_, ?_⟩
  · rw [h20₂, h20₁]
    exact pick_decide _ _ _
  · rw [h50₂, h50₁]
    exact pick_decide _ _ _

end Polls

/-! ## Three timers -/

theorem fires_other {T : Timer Main MainEvent} {s : Main} {e : MainEvent}
    (h : T.polls e = false) : T.fires s e = false := by
  rw [Timer.fires, h]
  rfl

theorem call_cases (e : MainEvent) :
    (∃ env, e = ⟨env, .sdMainFunction⟩) ∨ (∃ env, e = ⟨env, .comTxMainFunction⟩) ∨
      (isSd e.call = false ∧ isTx e.call = false) := by
  obtain ⟨env, call⟩ := e
  cases call with
  | sdMainFunction => exact Or.inl ⟨env, rfl⟩
  | comTxMainFunction => exact Or.inr (Or.inl ⟨env, rfl⟩)
  | _ => exact Or.inr (Or.inr ⟨rfl, rfl⟩)

theorem offerTimer_obeyed : offerTimer.Obeyed mainStep where
  keeps := by
    intro s e hf
    rcases call_cases e with ⟨env, rfl⟩ | ⟨env, rfl⟩ | ⟨hsd, htx⟩
    · rw [sd_poll, if_neg (Bool.eq_false_iff.mp hf)]
      rfl
    · exact congrArg Sd.lastOfferTime (tx_stamps env s).1
    · exact congrArg Sd.lastOfferTime (stampsKept_step hsd htx s).sd
  restarts := by
    intro s e hf
    rcases call_cases e with ⟨env, rfl⟩ | ⟨env, rfl⟩ | ⟨hsd, htx⟩
    · rw [sd_poll, if_pos hf]
      rfl
    · cases hf
    · rw [fires_other hsd] at hf
      cases hf

theorem commandTimer_obeyed : commandTimer.Obeyed mainStep where
  keeps := by
    intro s e hf
    rcases call_cases e with ⟨env, rfl⟩ | ⟨env, rfl⟩ | ⟨hsd, htx⟩
    · show (mainStep s ⟨env, .sdMainFunction⟩).com.times.lastTime20ms = _
      rw [sd_poll]
      split <;> rfl
    · refine (tx_stamps env s).2.1.trans ?_
      rw [if_neg (Bool.eq_false_iff.mp hf)]
      rfl
    · exact (stampsKept_step hsd htx s).t20
  restarts := by
    intro s e hf
    rcases call_cases e with ⟨env, rfl⟩ | ⟨env, rfl⟩ | ⟨hsd, htx⟩
    · cases hf
    · exact (tx_stamps env s).2.1.trans (if_pos hf)
    · rw [fires_other htx] at hf
      cases hf

theorem statusTimer_obeyed : statusTimer.Obeyed mainStep where
  keeps := by
    intro s e hf
    rcases call_cases e with ⟨env, rfl⟩ | ⟨env, rfl⟩ | ⟨hsd, htx⟩
    · show (mainStep s ⟨env, .sdMainFunction⟩).com.times.lastTime50ms = _
      rw [sd_poll]
      split <;> rfl
    · refine (tx_stamps env s).2.2.trans ?_
      rw [if_neg (Bool.eq_false_iff.mp hf)]
      rfl
    · exact (stampsKept_step hsd htx s).t50
  restarts := by
    intro s e hf
    rcases call_cases e with ⟨env, rfl⟩ | ⟨env, rfl⟩ | ⟨hsd, htx⟩
    · cases hf
    · exact (tx_stamps env s).2.2.trans (if_pos hf)
    · rw [fires_other htx] at hf
      cases hf

/-! ## What is sent -/

section Sent

/-- The offers of a call, with their time. -/
def offersSent (s : Main) (e : MainEvent) : List (Nat × Out) :=
  if isSd e.call then (mainStep s e).out.map fun o => (e.env.now, o) else []

/-- The frames with one identifier that the cyclic transmission hands out. -/
def framesSent (canId : Nat) (s : Main) (e : MainEvent) : List (Nat × CanMessage) :=
  if isTx e.call then
    ((framesOf (mainStep s e).out).filter fun m => m.messageId == canId).map fun m =>
      (e.env.now, m)
  else []

/-- The status datagrams. -/
def statusSent (s : Main) (e : MainEvent) : List (Nat × List UInt8) :=
  (statusDatagrams s e).map fun data => (e.env.now, data)

/-- An offer with this session. -/
def offer (sessionId : UInt16) : Out := .udp ⟨224, 224, 224, 245⟩ 30490 (sdOffer sessionId)

theorem offersSent_eq (s : Main) (e : MainEvent) : offersSent s e =
    if offerTimer.fires s e then [(e.env.now, offer s.sd.sessionId)] else [] := by
  rw [offersSent]
  rcases call_cases e with ⟨env, rfl⟩ | ⟨env, rfl⟩ | ⟨hsd, -⟩
  · show (mainStep s ⟨env, .sdMainFunction⟩).out.map (fun o => (env.now, o)) = _
    rw [sd_poll]
    by_cases hf : offerTimer.fires s ⟨env, .sdMainFunction⟩ = true
    · rw [if_pos hf, if_pos hf]
      rfl
    · rw [if_neg hf, if_neg hf]
      rfl
  · rfl
  · have hf : offerTimer.fires s e = false := fires_other hsd
    rw [hsd, hf]
    rfl

/-- The session of the next offer. -/
theorem session_step (s : Main) (e : MainEvent) : (mainStep s e).sd.sessionId =
    if offerTimer.fires s e then s.sd.sessionId + 1 else s.sd.sessionId := by
  rcases call_cases e with ⟨env, rfl⟩ | ⟨env, rfl⟩ | ⟨hsd, htx⟩
  · rw [sd_poll]
    by_cases hf : offerTimer.fires s ⟨env, .sdMainFunction⟩ = true
    · rw [if_pos hf, if_pos hf]
    · rw [if_neg hf, if_neg hf]
      rfl
  · exact congrArg Sd.sessionId (tx_stamps env s).1
  · have hf : offerTimer.fires s e = false := fires_other hsd
    rw [hf]
    exact congrArg Sd.sessionId (stampsKept_step hsd htx s).sd

/-- With free buffers, the command frames go out in one piece. -/
theorem commands_out (now : UInt32) {s : Main} (hact : s.env.canBusy 0x100 = false)
    (hbody : s.env.canBusy 0x110 = false) : (comTx20ms now s).out =
      if 20 ≤ now - s.com.times.lastTime20ms then
        s.out ++ [.can (actFrame (relay s)), .can (bodyFrame (relay s))]
      else s.out := by
  rw [comTx20ms]
  by_cases hdue : 20 ≤ now - s.com.times.lastTime20ms
  · have hfirst : comTxCtrActCan s = s.emit (.can (actFrame (relay s))) := by
      rw [comTxCtrActCan, pduRRouteTx_act, canIfTransmit_free (by simp) (by decide) hact]
      rfl
    have hnext : comTxCtrBodyCan (s.emit (.can (actFrame (relay s)))) =
        (s.emit (.can (actFrame (relay s)))).emit (.can (bodyFrame (relay s))) := by
      have hfree : (s.emit (.can (actFrame (relay s)))).env.canBusy 0x110 = false := hbody
      rw [comTxCtrBodyCan, pduRRouteTx_body, canIfTransmit_free (by simp) (by decide) hfree]
      rfl
    rw [if_pos hdue, if_pos hdue, hfirst, hnext]
    exact List.append_assoc s.out _ _
  · rw [if_neg hdue, if_neg hdue]

theorem tx_out {env : Env} (s : Main) (hact : env.canBusy 0x100 = false)
    (hbody : env.canBusy 0x110 = false) :
    framesOf (mainStep s ⟨env, .comTxMainFunction⟩).out =
      if commandTimer.fires s ⟨env, .comTxMainFunction⟩ then
        [actFrame (relay s), bodyFrame (relay s)]
      else [] := by
  have hsecond : ∀ now s, framesOf (comTx50ms now s).out = framesOf s.out := by
    intro now s
    rw [comTx50ms]
    split
    · show framesOf (comTxStatUdp s).out = framesOf s.out
      rw [(comTxStatUdp_out s).1, framesOf, framesOf, List.filterMap_append]
      exact List.append_nil _
    · rfl
  have hstep : mainStep s ⟨env, .comTxMainFunction⟩ =
      comTx50ms (stamp env.now) (comTx20ms (stamp env.now) (Main.enter env s)) := rfl
  have hfirst := commands_out (s := Main.enter env s) (stamp env.now) hact hbody
  rw [hstep, hsecond, hfirst]
  by_cases hf : commandTimer.fires s ⟨env, .comTxMainFunction⟩ = true
  · have hdue : 20 ≤ stamp env.now - (Main.enter env s).com.times.lastTime20ms :=
      of_decide_eq_true (Bool.and_eq_true_iff.mp hf).2
    rw [if_pos hf, if_pos hdue]
    rfl
  · have hdue : ¬ 20 ≤ stamp env.now - (Main.enter env s).com.times.lastTime20ms := fun hdue =>
      hf (Bool.and_eq_true_iff.mpr ⟨rfl, decide_eq_true hdue⟩)
    rw [if_neg hf, if_neg hdue]
    rfl

/-- One frame to ACT and one to BODY at each firing. -/
theorem framesSent_times {canId : Nat} (hid : canId = 0x100 ∨ canId = 0x110) (s : Main)
    {e : MainEvent} (hact : e.env.canBusy 0x100 = false) (hbody : e.env.canBusy 0x110 = false) :
    (framesSent canId s e).map Prod.fst = commandTimer.fired s e := by
  rw [framesSent, Timer.fired]
  rcases call_cases e with ⟨env, rfl⟩ | ⟨env, rfl⟩ | ⟨hsd, htx⟩
  · rfl
  · show List.map Prod.fst (List.map (fun m => (env.now, m)) (List.filter
      (fun m => m.messageId == canId) (framesOf (mainStep s ⟨env, .comTxMainFunction⟩).out))) = _
    rw [tx_out s hact hbody]
    by_cases hf : commandTimer.fires s ⟨env, .comTxMainFunction⟩ = true
    · rw [if_pos hf, if_pos hf]
      rcases hid with rfl | rfl <;> rfl
    · rw [if_neg hf, if_neg hf]
      rfl
  · have hf : commandTimer.fires s e = false := fires_other htx
    rw [htx, hf]
    rfl

/-- The status datagram, when it is due. -/
theorem statusSent_eq (s : Main) (e : MainEvent) : statusSent s e =
    if statusTimer.fires s e then [(e.env.now, statUdpBytes s.com)] else [] := by
  rcases call_cases e with ⟨env, rfl⟩ | ⟨env, rfl⟩ | ⟨-, htx⟩
  · rfl
  · obtain ⟨t, ht, hkept, hnone, h50⟩ : ∃ t : Main,
        mainStep s ⟨env, .comTxMainFunction⟩ = comTx50ms (stamp env.now) t ∧
        StatusKept s t ∧ t.out.flatMap statusBytes = [] ∧
        t.com.times.lastTime50ms = s.com.times.lastTime50ms := by
      have hkept := statusKept_20ms (stamp env.now) (Main.enter env s)
      exact ⟨_, rfl, ⟨hkept.stat, hkept.cnt⟩, statusBytes_commands _ _,
        (commands_stamps (stamp env.now) (Main.enter env s)).2.2⟩
    have hbytes : statUdpBytes t.com = statUdpBytes s.com := by
      rw [statUdpBytes, hkept.stat, hkept.cnt, statUdpBytes]
    show List.map (fun data => (env.now, data))
      ((mainStep s ⟨env, .comTxMainFunction⟩).out.flatMap statusBytes) = _
    rw [ht, comTx50ms]
    by_cases hf : statusTimer.fires s ⟨env, .comTxMainFunction⟩ = true
    · have hdue : 50 ≤ stamp env.now - t.com.times.lastTime50ms := by
        rw [h50]
        exact of_decide_eq_true (Bool.and_eq_true_iff.mp hf).2
      rw [if_pos hf, if_pos hdue]
      show List.map _ ((comTxStatUdp t).out.flatMap statusBytes) = _
      rw [(comTxStatUdp_out t).1, List.flatMap_append, hnone, hbytes]
      rfl
    · have hdue : ¬ 50 ≤ stamp env.now - t.com.times.lastTime50ms := by
        rw [h50]
        exact fun hdue => hf (Bool.and_eq_true_iff.mpr ⟨rfl, decide_eq_true hdue⟩)
      rw [if_neg hf, if_neg hdue, hnone]
      rfl
  · have hf : statusTimer.fires s e = false := fires_other htx
    have hnone : statusDatagrams s e = [] := by
      obtain ⟨env, call⟩ := e
      cases call with
      | comTxMainFunction => cases htx
      | _ => rfl
    rw [statusSent, hnone, hf]
    rfl

/-- The number of the next status datagram. -/
theorem count_step (s : Main) (e : MainEvent) : (mainStep s e).com.statCnt =
    if statusTimer.fires s e then s.com.statCnt + 1 else s.com.statCnt := by
  by_cases hstat : ∃ env m, e = ⟨env, .canRead m⟩ ∧ m.messageId = 0x200
  · obtain ⟨env, m, rfl, hid⟩ := hstat
    have hkept : (canReadMessage m.messageId m.dataLengthCode m.messageData
        (Main.enter env s)).com.statCnt = s.com.statCnt := by
      rw [hid]
      rfl
    exact hkept
  · have hother : ∀ m, e.call = .canRead m → m.messageId ≠ 0x200 := by
      intro m hcall hid
      exact hstat ⟨e.env, m, by rw [← hcall], hid⟩
    have hsent := statusSent_eq s e
    cases statusEffect_step s hother with
    | kept hkept hnone =>
        rw [statusSent, hnone] at hsent
        have hf : ¬ statusTimer.fires s e = true := by
          intro hf
          rw [if_pos hf] at hsent
          cases hsent
        rw [if_neg hf]
        exact hkept.cnt
    | sent hstat hcnt hdata =>
        rw [statusSent, hdata] at hsent
        have hf : statusTimer.fires s e = true := by
          by_contra hf
          rw [if_neg hf] at hsent
          cases hsent
        rw [if_pos hf]
        exact hcnt

end Sent

/-! ## A whole run -/

section Run

variable {gap : Nat} {es : List MainEvent}

/-- At reset all stamps are those of time zero. -/
theorem set_reset {T : Timer Main MainEvent} (hperiod : 0 < T.period.toNat)
    (hlast : T.last mainReset = 0) : T.Set gap 0 mainReset ⟨0, 0⟩ :=
  ⟨hlast, Nat.le_refl _, Nat.lt_add_left 0 hperiod, Nat.le_refl _, Nat.zero_le _⟩

/-- The entries of a log that one timer fills are numbered. -/
theorem numbered {O : Type} {T : Timer Main MainEvent} {f : Main → MainEvent → List (Nat × O)}
    (number : Main → Nat → Prop) (payload : Nat → O → Prop) (h0 : number mainReset 0)
    (hf : ∀ n s e, number s n → (T.fires s e = true ∧ number (mainStep s e) (n + 1) ∧
        ∃ o, f s e = [(e.env.now, o)] ∧ payload n o) ∨
      (T.fires s e = false ∧ number (mainStep s e) n ∧ f s e = []))
    {i t : Nat} {o : O} (hget : (trace mainStep f mainReset es)[i]? = some (t, o)) :
    payload i o := by
  have hindexed := trace_indexed (fun n s => number s n) (fun n p => payload n p.2)
    (fun n s e hn => ?_) h0 hget
  · rw [Nat.zero_add] at hindexed
    exact hindexed
  · rcases hf n s e hn with ⟨-, hnext, o, hsent, hp⟩ | ⟨-, hnext, hsent⟩
    · exact Or.inr ⟨_, hsent, hp, hnext⟩
    · exact Or.inl ⟨hsent, hnext⟩

/-- The log of a timer is paced. -/
theorem paced {O : Type} {T : Timer Main MainEvent} {f : Main → MainEvent → List (Nat × O)}
    (hobey : T.Obeyed mainStep) (hgap : T.period.toNat + gap ≤ 2 ^ 32)
    (hperiod : 0 < T.period.toNat) (hlast : T.last mainReset = 0)
    (hes : T.Regular gap ⟨0, 0⟩ es)
    (hf : ∀ s, ∀ e ∈ es, (f s e).map Prod.fst = T.fired s e) :
    Paced T.period.toNat gap ((es.map T.time).getLastD 0)
      ((trace mainStep f mainReset es).map Prod.fst) := by
  have hrun := firings_run hobey hgap hperiod (set_reset hperiod hlast) hes
  rw [now_run] at hrun
  rw [Paced, trace_times hf]
  exact hrun

/-- The time of the last call. -/
def lastCall (es : List MainEvent) : Nat := (es.map fun e => e.env.now).getLastD 0

/-- Offers every second with the next session, command frames to ACT and to BODY every 20 ms,
    status datagrams every 50 ms with the next number; each at most `gap` late, and the last of
    each no older. -/
structure Periods (gap : Nat) (es : List MainEvent) : Prop where
  offers : Paced 1000 gap (lastCall es) ((trace mainStep offersSent mainReset es).map Prod.fst)
  sessions : ∀ i t o, (trace mainStep offersSent mainReset es)[i]? = some (t, o) →
    o = offer (UInt16.ofNat (i + 1))
  commands : ∀ canId, canId = 0x100 ∨ canId = 0x110 → Paced 20 gap (lastCall es)
    ((trace mainStep (framesSent canId) mainReset es).map Prod.fst)
  status : Paced 50 gap (lastCall es) ((trace mainStep statusSent mainReset es).map Prod.fst)
  numbers : ∀ i t data, (trace mainStep statusSent mainReset es)[i]? = some (t, data) →
    data.head? = some (UInt8.ofNat i)

/-- **WHAT MAIN SENDS BY ITSELF**, in every run in which `Sd_MainFunction` and
    `COM_Tx_MainFunction` are called again within `gap` and find free buffers, however long it
    takes, whatever the counter has wrapped meanwhile and whatever else happens. -/
theorem main_periods (hgap : 1000 + gap ≤ 2 ^ 32) (hsd : offerTimer.Regular gap ⟨0, 0⟩ es)
    (htx : commandTimer.Regular gap ⟨0, 0⟩ es)
    (hfree : ∀ e ∈ es, e.env.canBusy 0x100 = false ∧ e.env.canBusy 0x110 = false) :
    Periods gap es := by
  have hoffer : ∀ s, ∀ e ∈ es, (offersSent s e).map Prod.fst = offerTimer.fired s e := by
    intro s e _
    rw [offersSent_eq, Timer.fired]
    split <;> rfl
  have hstatus : ∀ s, ∀ e ∈ es, (statusSent s e).map Prod.fst = statusTimer.fired s e := by
    intro s e _
    rw [statusSent_eq, Timer.fired]
    split <;> rfl
  have hstatusGap : statusTimer.period.toNat + gap ≤ 2 ^ 32 := by
    show 50 + gap ≤ 2 ^ 32
    omega
  have hcommandGap : commandTimer.period.toNat + gap ≤ 2 ^ 32 := by
    show 20 + gap ≤ 2 ^ 32
    omega
  refine ⟨?_, ?_, ?_, ?_, ?_⟩
  · exact paced offerTimer_obeyed hgap (by decide) rfl hsd hoffer
  · intro i t o hget
    refine numbered (T := offerTimer) (fun s n => s.sd.sessionId = UInt16.ofNat (n + 1))
      (fun n o => o = offer (UInt16.ofNat (n + 1))) rfl (fun n s e hn => ?_) hget
    have hsession := session_step s e
    rw [offersSent_eq]
    cases hf : offerTimer.fires s e with
    | true =>
        rw [hf, if_pos rfl, hn] at hsession
        refine Or.inl ⟨rfl, hsession.trans ?_, _, if_pos rfl, congrArg offer hn⟩
        rw [UInt16.ofNat_add (n + 1)]
        rfl
    | false =>
        rw [hf] at hsession
        exact Or.inr ⟨rfl, hsession.trans hn, rfl⟩
  · intro canId hid
    refine paced commandTimer_obeyed hcommandGap (by decide) rfl htx fun s e he => ?_
    exact framesSent_times hid s (hfree e he).1 (hfree e he).2
  · exact paced statusTimer_obeyed hstatusGap (by decide) rfl htx hstatus
  · intro i t data hget
    refine numbered (T := statusTimer) (fun s n => s.com.statCnt = UInt8.ofNat n)
      (fun n data => data.head? = some (UInt8.ofNat n)) rfl (fun n s e hn => ?_) hget
    have hcount := count_step s e
    rw [statusSent_eq]
    cases hf : statusTimer.fires s e with
    | true =>
        rw [hf, if_pos rfl, hn] at hcount
        refine Or.inl ⟨rfl, hcount.trans ?_, _, if_pos rfl, congrArg some hn⟩
        rw [UInt8.ofNat_add]
        rfl
    | false =>
        rw [hf] at hcount
        exact Or.inr ⟨rfl, hcount.trans hn, rfl⟩

/-- Both functions called every five milliseconds for three seconds. -/
def everyFive : List MainEvent :=
  (List.range 600).flatMap fun i =>
    [⟨freeEnv (5 * i), .comTxMainFunction⟩, ⟨freeEnv (5 * i), .sdMainFunction⟩]

theorem main_periods_five : Periods 5 everyFive ∧
    (trace mainStep offersSent mainReset everyFive).map Prod.fst = [1000, 2000] := by
  refine ⟨main_periods (by decide) (by decide +kernel) (by decide +kernel) ?_, by decide +kernel⟩
  intro e he
  obtain ⟨i, -, hi⟩ := List.mem_flatMap.mp he
  rcases List.mem_cons.mp hi with rfl | hi
  · exact ⟨rfl, rfl⟩
  · obtain rfl := List.mem_singleton.mp hi
    exact ⟨rfl, rfl⟩

end Run

end MainPeriod
