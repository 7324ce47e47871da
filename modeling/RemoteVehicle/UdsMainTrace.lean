import RemoteVehicle.DiagAckProofs

/-!
# Requests and responses of MAIN

What the own server of MAIN was asked and what it answered is in the outputs of a step: the
calls of `Uds_ProcessRx`, and the diagnostic messages with MAIN's source address on the
connection.  Everything else that leaves MAIN is neither (`Silent`): acknowledgements and
refusals have another payload type, and the responses that MAIN tunnels have the address
of their ECU.

`main_step_cases` says that a step asks the server at most once, and what the answer is.
`accounted` says what a step does to the trouble codes and the session.
-/

namespace UdsMainTrace

open CanFrame UdsFrame UdsAnswer UdsTunnel
open MainState MainTransmit MainDcm MainCom MainRouting MainDoip MainTcp MainLoop MainSpec
open MainFrame DiagAck

/-! ## Reading outputs -/

/-- A request that has reached the server; the empty one is not answered. -/
def requestOut : Out → Option (List UInt8)
  | .uds req => if req = [] then none else some req
  | _ => none

/-- A response of the server. -/
def responseOut : Out → Option (List UInt8)
  | .tcp _ data =>
      if payloadType (ofList data) = diagnosticMessage ∧ sourceAddr (ofList data) = myTargetAddress
      then some (data.drop 12) else none
  | _ => none

/-- The requests that the server took in a step, and its responses. -/
def mainRequests (s : Main) (e : MainEvent) : List (List UInt8) :=
  (mainStep s e).out.filterMap requestOut

def mainResponses (s : Main) (e : MainEvent) : List (List UInt8) :=
  (mainStep s e).out.filterMap responseOut

/-- **Reading a response undoes sending it.** -/
theorem responseOut_message (pcb : Pcb) (resp : List UInt8) :
    responseOut (.tcp pcb (doipMessage 0x0001 resp)) = some resp := by
  have hsource : sourceAddr (ofList (doipMessage 0x0001 resp)) = myTargetAddress := by
    show word16 (highByte 0x0001) (lowByte 0x0001) = 0x0001
    exact word16_highByte_lowByte 0x0001
  exact if_pos ⟨payloadType_doipMessage 0x0001 resp, hsource⟩

/-! ## Silence -/

/-- Neither a request nor a response. -/
def Silent (o : Out) : Prop := requestOut o = none ∧ responseOut o = none

theorem silent_of_reply {o : Out} (h : IsReply o) : Silent o := by
  obtain ⟨pcb, data, rfl, htype⟩ := h
  exact ⟨rfl, if_neg fun hresp => htype hresp.1⟩

theorem silent_of_udp {o : Out} (h : IsUdp o) : Silent o := by
  obtain ⟨addr, port, data, rfl⟩ := h
  exact ⟨rfl, rfl⟩

theorem silent_can (m : CanMessage) : Silent (.can m) := ⟨rfl, rfl⟩

theorem silent_of_command {r : Relay} {o : Out} (h : IsCommand r o) : Silent o := by
  rcases h with rfl | rfl
  · exact silent_can _
  · exact silent_can _

theorem silent_of_isCan {canId : Nat} {o : Out} (h : IsCan canId o) : Silent o := by
  obtain ⟨m, rfl, -⟩ := h
  exact silent_can m

/-- What MAIN tunnels has another source address. -/
theorem silent_tunnelled (pcb : Pcb) {ecu : Ecu} (body : List UInt8) :
    Silent (.tcp pcb (doipMessage (address ecu) body)) := by
  refine ⟨rfl, if_neg ?_⟩
  rintro ⟨-, hsource⟩
  have hsource : word16 (highByte (address ecu)) (lowByte (address ecu)) = myTargetAddress :=
    hsource
  rw [word16_highByte_lowByte] at hsource
  cases ecu <;> exact absurd hsource (by decide)

theorem filterMap_silent {outs : List Out} (h : ∀ o ∈ outs, Silent o) :
    outs.filterMap requestOut = [] ∧ outs.filterMap responseOut = [] := by
  constructor
  · exact List.filterMap_eq_nil_iff.mpr fun o ho => (h o ho).1
  · exact List.filterMap_eq_nil_iff.mpr fun o ho => (h o ho).2

theorem written_ack_silent (p : Pbuf) (s : Main) : ∀ o ∈ s.written (ackBytes p), Silent o := by
  intro o ho
  obtain ⟨pcb, rfl⟩ := tcp_of_written ho
  exact silent_of_reply ⟨pcb, _, rfl, by rw [payloadType_ack]; decide⟩

/-- A response that is taken is read back. -/
theorem written_response (resp : List UInt8) (s : Main) :
    (s.written (doipMessage 0x0001 resp)).filterMap requestOut = [] ∧
      (s.written (doipMessage 0x0001 resp)).filterMap responseOut =
        (s.taker (doipMessage 0x0001 resp)).toList.map fun _ => resp := by
  rcases htaker : s.taker (doipMessage 0x0001 resp) with _ | pcb
  · rw [written_refused htaker]
    exact ⟨rfl, rfl⟩
  · rw [written_taken htaker]
    exact ⟨rfl, List.filterMap_cons_some (responseOut_message pcb resp)⟩

/-- A call whose outputs are of a silent kind is silent. -/
theorem silent_sends {P : Out → Prop} {s s' : Main} (h : ∀ o ∈ s'.out, o ∈ s.out ∨ P o)
    (hs : s.out = []) (hP : ∀ o, P o → Silent o) : ∀ o ∈ s'.out, Silent o := by
  intro o ho
  rcases h o ho with hold | hnew
  · rw [hs] at hold
    exact absurd hold List.not_mem_nil
  · exact hP o hnew

/-! ## CAN -/

theorem doIPProcessTx_silent (ecu : Ecu) (udsData : Payload) {udsLength : Nat}
    (hlen : udsLength ≤ 15) (s : Main) :
    Emits Silent s (doIPProcessTx (address ecu) udsData udsLength s) := by
  rw [doIPProcessTx_message (by omega)]
  exact Emits.write fun pcb => silent_tunnelled pcb _

theorem canTpRxIndication_silent (canId : Nat) (payload : Payload) (length : Nat) (s : Main) :
    Emits Silent s (canTpRxIndication canId payload length s) := by
  obtain heq | ⟨target, htarget, udsData, udsLength, hlen, heq⟩ :=
    canTpRxIndication_cases canId payload length s
  · rw [heq]
    exact Emits.refl _ s
  · rw [heq]
    -- the addresses are those of the two ECUs
    rcases List.mem_pair.mp htarget with rfl | rfl
    · exact doIPProcessTx_silent .act udsData hlen s
    · exact doIPProcessTx_silent .body udsData hlen s

/-- What a CAN message does to the trouble codes. -/
def receivedDcm (messageId : Nat) (d : Dcm) : Dcm :=
  if messageId = 0x200 then { d with act := Dtc.recovered d.act }
  else if messageId = 0x310 then { d with body := Dtc.recovered d.body }
  else d

/-- **A CAN message** is silent. -/
theorem canReadMessage_silent (m : CanRx) (s : Main) (hs : s.out = []) :
    (∀ o ∈ (canReadMessage m.messageId m.dataLengthCode m.messageData s).out, Silent o) ∧
      (canReadMessage m.messageId m.dataLengthCode m.messageData s).dcm =
        receivedDcm m.messageId s.dcm := by
  obtain ⟨messageId, dataLengthCode, messageData⟩ := m
  have hnone : ∀ o ∈ s.out, Silent o := by simp [hs]
  have hemits : ∀ {s' : Main}, Emits Silent s s' → ∀ o ∈ s'.out, Silent o :=
    fun h => silent_sends (fun o ho => h.mem ho) hs fun o ho => ho
  -- one case for each identifier the interface routes
  by_cases hstat : messageId = 0x200
  · subst hstat
    exact ⟨hnone, rfl⟩
  by_cases hevent : messageId = 0x210
  · subst hevent
    have hport : 5002 ≠ 13400 := by decide
    have hsend := soAdIfTransmit_udp hport messageData
      (canGetLength dataLengthCode) s
    exact ⟨hemits (hsend.mono fun o => silent_of_udp), hsend.dcm⟩
  by_cases hbody : messageId = 0x310
  · subst hbody
    exact ⟨hnone, rfl⟩
  have hdcm : receivedDcm messageId s.dcm = s.dcm := by
    rw [receivedDcm, if_neg hstat, if_neg hbody]
  rw [hdcm]
  by_cases hact : messageId = 0x708
  · subst hact
    have hsend := canTpRxIndication_silent 0x708 messageData (canGetLength dataLengthCode) s
    exact ⟨hemits hsend, hsend.dcm⟩
  by_cases huds : messageId = 0x718
  · subst huds
    have hsend := canTpRxIndication_silent 0x718 messageData (canGetLength dataLengthCode) s
    exact ⟨hemits hsend, hsend.dcm⟩
  have hother : canReadMessage messageId dataLengthCode messageData s = s := by
    have hstat : (messageId == 0x200) = false := beq_false_of_ne hstat
    have hevent : (messageId == 0x210) = false := beq_false_of_ne hevent
    have hbody : (messageId == 0x310) = false := beq_false_of_ne hbody
    have hact : (messageId == 0x708) = false := beq_false_of_ne hact
    have huds : (messageId == 0x718) = false := beq_false_of_ne huds
    simp [canReadMessage, canIfRxIndication, route, canIfRxTable, List.lookup_cons, hstat,
      hevent, hbody, hact, huds]
  rw [hother]
  exact ⟨hnone, rfl⟩

/-! ## DoIP -/

/-- A diagnostic message for MAIN that is not empty. -/
def AsksMain (p : Pbuf) : Prop :=
  IsDiagnostic p.payload p.len ∧ targetAddr p.payload = 0x0001 ∧ 12 < p.len

instance (p : Pbuf) : Decidable (AsksMain p) := by unfold AsksMain; infer_instance

theorem requestIn_ne_nil {p : Pbuf} (h : 12 < p.len) : requestIn p ≠ [] := by
  intro he
  have hlen : (requestIn p).length = p.len - 12 := by
    rw [requestIn, List.length_drop, Pbuf.bytes_length]
  rw [he] at hlen
  have hzero : 0 = p.len - 12 := hlen
  omega

section Doip

variable {p : Pbuf} {s : Main}

/-- Any other message for a known target is acknowledged, and at most a frame leaves. -/
theorem routed_silent (hd : IsDiagnostic p.payload p.len) (h : ¬ AsksMain p) (hs : s.out = []) :
    (∀ o ∈ (doIPProcessRx p.payload p.len s).out, Silent o) ∧
      (doIPProcessRx p.payload p.len s).dcm = s.dcm := by
  have hack := diagAck_reply (targetAddr p.payload) (sourceAddr p.payload) 0x00 s
  have hemits : ∀ {P : Out → Prop} {s' : Main}, (∀ o, P o → Silent o) →
      Emits P (doIPSendDiagAck doipPort (targetAddr p.payload) (sourceAddr p.payload) 0x00 s) s' →
      (∀ o ∈ s'.out, Silent o) ∧ s'.dcm = s.dcm := by
    intro P s' hP hsend
    have hboth := (hack.mono fun o => silent_of_reply).trans (hsend.mono hP)
    exact ⟨silent_sends (fun o ho => hboth.mem ho) hs fun o ho => ho, hboth.dcm⟩
  rw [doIPProcessRx_diagnostic hd, routeDiagnostic]
  split
  · -- an empty request for MAIN
    rename_i hmain
    have hempty : p.len - 12 = 0 := by
      by_contra hne
      exact h ⟨hd, hmain, by omega⟩
    rw [pduRRouteRx_doipMain, udsProcessRx, if_pos hempty, hempty]
    exact hemits (P := Silent) (fun o ho => ho) (Emits.one ⟨rfl, rfl⟩)
  · split
    · exact hemits (fun o => silent_of_isCan) (canTpTransmit_emits 0x700 _ _ _)
    · split
      · exact hemits (fun o => silent_of_isCan) (canTpTransmit_emits 0x710 _ _ _)
      · exact hemits (P := Silent) (fun o ho => ho) (Emits.refl _ _)

/-- A request for MAIN reaches the server and changes what `mainServed` says. -/
theorem asked_dcm (h : AsksMain p) :
    Out.uds (requestIn p) ∈ (doIPProcessRx p.payload p.len s).out ∧
      (doIPProcessRx p.payload p.len s).dcm = mainServed (requestIn p) s.dcm := by
  obtain ⟨hd, hmain, hlen⟩ := h
  have hreq : bytesOf (offset p.payload 12) (p.len - 12) = requestIn p := bytesOf_offset _ _ _
  have hack := diagAck_reply (targetAddr p.payload) (sourceAddr p.payload) 0x00 s
  rw [doIPProcessRx_diagnostic hd, routeDiagnostic, if_pos hmain, pduRRouteRx_doipMain]
  constructor
  · rw [← hreq]
    exact udsProcessRx_called _ _ _
  · obtain ⟨resp, -, -, -, hserve⟩ := udsProcessRx_eq (offset p.payload 12)
      (show 1 ≤ p.len - 12 by omega) s.dcm
    have hresp := doIPProcessTx_emits 0x0001 (ofList resp) resp.length (mainAsked (requestIn p)
      (doIPSendDiagAck doipPort (targetAddr p.payload) (sourceAddr p.payload) 0x00 s))
    rw [hserve _ hack.dcm, hreq, respond, hresp.dcm, mainAsked, hack.dcm]

/-- **A request for MAIN** is asked once, and answered once if the connection takes it; the answer
    depends on the trouble codes only. -/
theorem asked_out (h : AsksMain p) (d : Dcm) :
    ∃ resp, IsAnswer (requestIn p) resp ∧ ∀ s : Main, s.dcm = d → s.out = [] →
      (doIPProcessRx p.payload p.len s).out.filterMap requestOut = [requestIn p] ∧
      (doIPProcessRx p.payload p.len s).out.filterMap responseOut =
        (s.taker (doipMessage 0x0001 resp)).toList.map fun _ => resp := by
  obtain ⟨⟨hfits, htype, hlen12, hroutable⟩, hmain, hlen⟩ := h
  have hne := requestIn_ne_nil hlen
  obtain ⟨resp, hresp, houts⟩ := main_out ⟨hfits, htype, hlen12⟩ hroutable hmain d
  refine ⟨resp, (hresp hne).1, fun s hs hout => ?_⟩
  -- the acknowledgement is silent, and a response is no request
  obtain ⟨hackRequest, hackResponse⟩ := filterMap_silent (written_ack_silent p s)
  have hrequest : requestOut (.uds (requestIn p)) = some (requestIn p) := if_neg hne
  have hserver : responseOut (.uds (requestIn p)) = none := rfl
  have hwritten := written_response resp s
  rw [houts s hs hout, if_neg hne]
  constructor
  · rw [List.filterMap_append, hackRequest, List.nil_append, List.filterMap_cons_some hrequest,
      hwritten.1]
  · rw [List.filterMap_append, hackResponse, List.nil_append, List.filterMap_cons_none hserver,
      hwritten.2]

/-- Everything else that arrives on DoIP is silent. -/
theorem doip_silent (h : ¬ AsksMain p) (hs : s.out = []) :
    (∀ o ∈ (doIPProcessRx p.payload p.len s).out, Silent o) ∧
      (doIPProcessRx p.payload p.len s).dcm = s.dcm := by
  by_cases hd : IsDiagnostic p.payload p.len
  · exact routed_silent hd h hs
  · have hquiet := doIPProcessRx_quiet hd s
    have hmem := hquiet.mem
    rw [activate_out] at hmem
    have hactivate : (activate p.payload p.len s).dcm = s.dcm := by
      rw [activate, callbackDiagRoutingActivated]
      split
      · split <;> rfl
      · rfl
    exact ⟨silent_sends hmem hs fun o => silent_of_reply, hquiet.dcm.trans hactivate⟩

end Doip

/-! ## One step -/

/-- The request for MAIN that a call brings. -/
def asked (s : Main) (e : MainEvent) : List (List UInt8) :=
  match e.call with
  | .lwip (.udpRecv localPort p _ _) =>
      if localPort = 13400 ∧ AsksMain p then [requestIn p] else []
  | .lwip (.tcpRecv tpcb p _) =>
      if tpcb ∈ s.tcp.registered ∧ AsksMain p then [requestIn p] else []
  | _ => []

/-- The trouble codes and the session after a call. -/
def dcmAfter (s : Main) (e : MainEvent) : Dcm :=
  match e.call with
  | .lwip (.udpRecv localPort p _ _) =>
      if localPort = 5000 then { s.dcm with pc := Dtc.recovered s.dcm.pc }
      else if localPort = 13400 ∧ AsksMain p then mainServed (requestIn p) s.dcm
      else s.dcm
  | .lwip (.tcpRecv tpcb p _) =>
      if tpcb ∈ s.tcp.registered ∧ AsksMain p then mainServed (requestIn p) s.dcm else s.dcm
  | .canRead m => receivedDcm m.messageId s.dcm
  | .comTimeOut => (comTimeOut (Main.enter e.env s)).dcm
  | _ => s.dcm

/-- The buffer that a call brings. -/
def carried (e : MainEvent) : Option Pbuf :=
  match e.call with
  | .lwip (.udpRecv _ p _ _) => some p
  | .lwip (.tcpRecv _ p _) => some p
  | _ => none

/-- The state that the DoIP layer is called in. -/
structure Entered (s : Main) (e : MainEvent) (t : Main) : Prop where
  tcp : t.tcp = s.tcp
  env : t.env = e.env
  dcm : t.dcm = s.dcm
  out : t.out = []

/-- The server is asked by a DoIP buffer. -/
def Asked (s : Main) (e : MainEvent) : Prop :=
  ∃ p t, AsksMain p ∧ carried e = some p ∧ asked s e = [requestIn p] ∧ Entered s e t ∧
    mainStep s e = doIPProcessRx p.payload p.len t

/-- The server is not asked, and does not answer. -/
def Unasked (s : Main) (e : MainEvent) : Prop :=
  asked s e = [] ∧ ∀ o ∈ (mainStep s e).out, Silent o

/-- What holds of every step. -/
structure Accounted (s : Main) (e : MainEvent) : Prop where
  out : Unasked s e ∨ Asked s e
  dcm : (mainStep s e).dcm = dcmAfter s e

section Step

variable {s : Main} {e : MainEvent} {env : Env}

theorem no_old {P : Out → Prop} : ∀ o ∈ (Main.enter env s).out, P o := by simp

/-- A step that passes a buffer to the DoIP layer. -/
theorem accounted_doip {p : Pbuf} {t : Main}
    (hstep : mainStep s e = doIPProcessRx p.payload p.len t) (hentered : Entered s e t)
    (hcarried : carried e = some p)
    (hasked : asked s e = if AsksMain p then [requestIn p] else [])
    (hafter : dcmAfter s e = if AsksMain p then mainServed (requestIn p) s.dcm else s.dcm) :
    Accounted s e := by
  by_cases h : AsksMain p
  · rw [if_pos h] at hasked hafter
    refine ⟨Or.inr ⟨p, t, h, hcarried, hasked, hentered, hstep⟩, ?_⟩
    rw [hstep, (asked_dcm h).2, hentered.dcm, hafter]
  · rw [if_neg h] at hasked hafter
    obtain ⟨hsilent, hsame⟩ := doip_silent h hentered.out
    refine ⟨Or.inl ⟨hasked, ?_⟩, ?_⟩
    · rw [hstep]
      exact hsilent
    · rw [hstep, hsame, hentered.dcm, hafter]

/-- A datagram. -/
theorem accounted_udp (localPort : Nat) (p : Pbuf) (addr : IpAddr) (port : Nat) :
    Accounted s ⟨env, .lwip (.udpRecv localPort p addr port)⟩ := by
  obtain ⟨t, ht, htcp, henv, hdcm, hout⟩ : ∃ t : Main,
      mainStep s ⟨env, .lwip (.udpRecv localPort p addr port)⟩ =
        soAdRxIndication localPort p.payload p.len t ∧
      t.tcp = s.tcp ∧ t.env = env ∧ t.dcm = s.dcm ∧ t.out = [] := ⟨_, rfl, rfl, rfl, rfl, rfl⟩
  by_cases hdoip : localPort = 13400
  · subst hdoip
    rw [soAdRxIndication_doip] at ht
    refine accounted_doip ht ⟨htcp, henv, hdcm, hout⟩ rfl ?_ ?_
    · simp [asked]
    · simp [dcmAfter]
  · have hno : ¬ (localPort = 13400 ∧ AsksMain p) := fun hp => hdoip hp.1
    have hasked : asked s ⟨env, .lwip (.udpRecv localPort p addr port)⟩ = [] := if_neg hno
    have hnone : ∀ o ∈ t.out, Silent o := by simp [hout]
    by_cases hctr : localPort = 5000
    · subst hctr
      rw [soAdRxIndication_control] at ht
      refine ⟨Or.inl ⟨hasked, ?_⟩, ?_⟩
      · rw [ht]
        exact hnone
      · rw [ht]
        show { t.dcm with pc := Dtc.recovered t.dcm.pc } =
          { s.dcm with pc := Dtc.recovered s.dcm.pc }
        rw [hdcm]
    · have hafter : dcmAfter s ⟨env, .lwip (.udpRecv localPort p addr port)⟩ = s.dcm := by
        simp only [dcmAfter, if_neg hctr, if_neg hno]
      by_cases hsomeip : localPort = 30492
      · subst hsomeip
        rw [soAdRxIndication_someip] at ht
        refine ⟨Or.inl ⟨hasked, ?_⟩, ?_⟩
        · rw [ht]
          exact silent_sends (someIpProcessRx_out _ _ _) hout fun o => silent_of_udp
        · rw [ht, hafter, ← hdcm, someIpProcessRx]
          split
          · have hport : 30492 ≠ 13400 := by decide
            simp only [someIpSendResponse, pduRRouteTx_someip]
            exact (soAdIfTransmit_udp hport _ _ _).dcm
          · rfl
      · rw [soAdRxIndication_other hctr hsomeip hdoip] at ht
        refine ⟨Or.inl ⟨hasked, ?_⟩, ?_⟩
        · rw [ht]
          exact hnone
        · rw [ht, hafter, hdcm]

/-- A callback of lwIP. -/
theorem accounted_lwip (c : LwipCall) : Accounted s ⟨env, .lwip c⟩ := by
  have hsilent : ∀ pcb, Silent (.tcpClose pcb) := fun _ => ⟨rfl, rfl⟩
  cases c with
  | udpRecv localPort p addr port => exact accounted_udp localPort p addr port
  | tcpAccept newpcb => exact ⟨Or.inl ⟨rfl, fun o ho => absurd ho List.not_mem_nil⟩, rfl⟩
  | tcpRecv tpcb p rest =>
      by_cases hreg : tpcb ∈ s.tcp.registered
      · have ht : mainStep s ⟨env, .lwip (.tcpRecv tpcb p rest)⟩ =
            doIPProcessRx p.payload p.len (Main.enter env s) := if_pos hreg
        refine accounted_doip ht ⟨rfl, rfl, rfl, rfl⟩ rfl ?_ ?_
        · simp [asked, hreg]
        · simp [dcmAfter, hreg]
      · have ht : mainStep s ⟨env, .lwip (.tcpRecv tpcb p rest)⟩ = Main.enter env s := if_neg hreg
        have hno : ¬ (tpcb ∈ s.tcp.registered ∧ AsksMain p) := fun hp => hreg hp.1
        refine ⟨Or.inl ⟨if_neg hno, ?_⟩, ?_⟩
        · rw [ht]
          exact no_old
        · rw [ht]
          exact (if_neg hno).symm
  | tcpFin tpcb =>
      by_cases hreg : tpcb ∈ s.tcp.registered
      · have ht : mainStep s ⟨env, .lwip (.tcpFin tpcb)⟩ =
            tcpServerRecvFin tpcb (Main.enter env s) := if_pos hreg
        refine ⟨Or.inl ⟨rfl, ?_⟩, ?_⟩
        · rw [ht, tcpServerRecvFin_out]
          intro o ho
          obtain rfl := List.mem_singleton.mp ho
          exact hsilent _
        · rw [ht, tcpServerRecvFin, callbackDiagRoutingDeactivated]
          split <;> rfl
      · have ht : mainStep s ⟨env, .lwip (.tcpFin tpcb)⟩ = Main.enter env s := if_neg hreg
        refine ⟨Or.inl ⟨rfl, ?_⟩, ?_⟩
        · rw [ht]
          exact no_old
        · rw [ht]
          rfl
  | tcpErr tpcb =>
      have hsame : (mainStep s ⟨env, .lwip (.tcpErr tpcb)⟩).out = [] ∧
          (mainStep s ⟨env, .lwip (.tcpErr tpcb)⟩).dcm = s.dcm := by
        show (if tpcb ∈ s.tcp.registered then _ else Main.enter env s).out = [] ∧
          (if tpcb ∈ s.tcp.registered then _ else Main.enter env s).dcm = s.dcm
        split <;> exact ⟨rfl, rfl⟩
      refine ⟨Or.inl ⟨rfl, ?_⟩, hsame.2⟩
      rw [hsame.1]
      exact fun o ho => absurd ho List.not_mem_nil

/-- **Every step** asks the server at most once, and `dcmAfter` says what it does to the
    trouble codes. -/
theorem accounted (s : Main) (e : MainEvent) : Accounted s e := by
  obtain ⟨env, call⟩ := e
  cases call with
  | lwip c => exact accounted_lwip c
  | canRead m =>
      obtain ⟨hsilent, hdcm⟩ := canReadMessage_silent m (Main.enter env s) rfl
      exact ⟨Or.inl ⟨rfl, hsilent⟩, hdcm⟩
  | comTimeOut =>
      refine ⟨Or.inl ⟨rfl, ?_⟩, rfl⟩
      show ∀ o ∈ (comTimeOut (Main.enter env s)).out, Silent o
      rw [(comTimeOut_still _).2.1]
      exact no_old
  | comTxMainFunction =>
      refine ⟨Or.inl ⟨rfl, ?_⟩, (comTxMainFunction_transmits _).dcm⟩
      exact silent_sends (comTxMainFunction_transmits (Main.enter env s)).mem rfl fun o ho =>
        ho.elim silent_of_command silent_of_udp
  | sdMainFunction =>
      refine ⟨Or.inl ⟨rfl, ?_⟩, (sdMainFunction_transmits _).dcm⟩
      exact silent_sends (sdMainFunction_transmits (Main.enter env s)).mem rfl
        fun o => silent_of_udp
  | soAdMainFunction =>
      refine ⟨Or.inl ⟨rfl, ?_⟩, ?_⟩
      · refine silent_sends (soAdMainFunction_out (Main.enter env s)) rfl ?_
        rintro o ⟨pcb, rfl⟩
        exact ⟨rfl, rfl⟩
      · show (soAdMainFunction (Main.enter env s)).dcm = s.dcm
        rw [soAdMainFunction]
        split <;> rfl

/-- **The requests that reach the server** are those that were asked. -/
theorem mainRequests_eq (s : Main) (e : MainEvent) : mainRequests s e = asked s e := by
  rcases (accounted s e).out with ⟨hasked, hsilent⟩ | ⟨p, t, h, -, hasked, hentered, hstep⟩
  · rw [hasked]
    exact (filterMap_silent hsilent).1
  · obtain ⟨resp, -, hboth⟩ := asked_out h t.dcm
    rw [mainRequests, hasked, hstep]
    exact (hboth t rfl hentered.out).1

/-- The same call, on a connection that takes whatever it is given. -/
def roomy (e : MainEvent) : MainEvent :=
  { e with env := { e.env with tcpSndbuf := List.length, tcpWriteFails := fun _ => false } }

/-- The connection takes the response that MAIN gives. -/
def RoomToAnswer (s : Main) (e : MainEvent) : Prop :=
  ∀ resp ∈ mainResponses s (roomy e), e.env.Takes (doipMessage 0x0001 resp)

instance (s : Main) (e : MainEvent) : Decidable (RoomToAnswer s e) :=
  inferInstanceAs (Decidable (∀ resp ∈ mainResponses s (roomy e),
    e.env.Takes (doipMessage 0x0001 resp)))

/-- While a connection is open, the response to a request is the one that a roomy connection
    gets. -/
theorem asked_roomy {p : Pbuf} {t : Main} (h : AsksMain p) (hcarried : carried e = some p)
    (hasked : asked s e = [requestIn p]) (hentered : Entered s e t) {pcb : Pcb}
    (hpcb : s.tcp.activePcb = some pcb) :
    ∃ resp, IsAnswer (requestIn p) resp ∧ mainResponses s (roomy e) = [resp] ∧
      (doIPProcessRx p.payload p.len t).out.filterMap responseOut =
        (t.taker (doipMessage 0x0001 resp)).toList.map fun _ => resp := by
  obtain ⟨resp, hresp, hboth⟩ := asked_out h s.dcm
  refine ⟨resp, hresp, ?_, (hboth t hentered.dcm hentered.out).2⟩
  have hsame : asked s (roomy e) = [requestIn p] := hasked
  rcases (accounted s (roomy e)).out with ⟨hnone, -⟩ | ⟨q, u, -, hq, -, hentered', hstep'⟩
  · rw [hsame] at hnone
    cases hnone
  · obtain rfl : p = q := Option.some.inj (hcarried.symm.trans hq)
    have htaken : u.taker (doipMessage 0x0001 resp) = some pcb := by
      refine taker_some.mpr ⟨?_, hentered'.tcp.symm ▸ hpcb⟩
      rw [hentered'.env]
      exact ⟨le_refl _, rfl⟩
    rw [mainResponses, hstep', (hboth u hentered'.dcm hentered'.out).2, htaken]
    rfl

/-- **A step of MAIN** has no request and no response or, while a connection is open and takes
    the response, one of each. -/
theorem main_step_cases
    (hopen : mainRequests s e ≠ [] → s.tcp.activePcb ≠ none ∧ RoomToAnswer s e) :
    (mainRequests s e = [] ∧ mainResponses s e = []) ∨
      ∃ req resp, mainRequests s e = [req] ∧ mainResponses s e = [resp] ∧ IsAnswer req resp := by
  rcases (accounted s e).out with ⟨hasked, hsilent⟩ | ⟨p, t, h, hcarried, hasked, hentered, hstep⟩
  · exact Or.inl (filterMap_silent hsilent)
  · have hrequests : mainRequests s e = [requestIn p] := (mainRequests_eq s e).trans hasked
    obtain ⟨hconnected, hroom⟩ := hopen (hrequests ▸ List.cons_ne_nil _ _)
    obtain ⟨pcb, hpcb⟩ := Option.ne_none_iff_exists'.mp hconnected
    obtain ⟨resp, hresp, hroomy, hresponses⟩ := asked_roomy h hcarried hasked hentered hpcb
    have htakes : e.env.Takes (doipMessage 0x0001 resp) :=
      hroom resp (hroomy ▸ List.mem_cons_self)
    have htaken : t.taker (doipMessage 0x0001 resp) = some pcb :=
      taker_some.mpr ⟨hentered.env.symm ▸ htakes, hentered.tcp.symm ▸ hpcb⟩
    rw [htaken] at hresponses
    refine Or.inr ⟨requestIn p, resp, hrequests, ?_, hresp⟩
    rw [mainResponses, hstep]
    exact hresponses

end Step

end UdsMainTrace
