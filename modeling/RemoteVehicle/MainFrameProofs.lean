import RemoteVehicle.MainSpec

/-!
# What one call of MAIN can change

One lemma for each function of MAIN, from the drivers up to `mainStep`.  The proofs about
runs use only the results of the last two sections:

* `relay_step`: a call does to the relay what `relayOps` says.
* `tcp_step`, `oneConnection_step`: who changes the connections, and that there is never
  more than one.
* `can_step`: a command frame leaves MAIN in `COM_Tx_MainFunction` only, and it is the
  frame of the relay; a diagnostic frame leaves it only for a diagnostic message.

`Sends P s s'` says that relay and connections are untouched and that what leaves is of the
kind `P`.
-/

namespace MainFrame

open Runs CanFrame MainState MainTransmit MainDcm MainCom MainRouting MainDoip MainTcp
open MainLoop MainSpec

/-! ## Sending -/

/-- Relay, connections and environment stay, and what leaves is of the kind `P`. -/
structure Sends (P : Out → Prop) (s s' : Main) : Prop where
  relay : relay s' = relay s
  tcp : s'.tcp = s.tcp
  env : s'.env = s.env
  mem : ∀ o ∈ s'.out, o ∈ s.out ∨ P o

section Sends

variable {P Q : Out → Prop} {s s' s'' : Main}

theorem relay_congr (h : s'.com = s.com) : relay s' = relay s := by
  simp only [relay, h]

theorem Sends.ofEmits (h : Emits P s s') : Sends P s s' :=
  ⟨relay_congr h.com, h.tcp, h.env, fun _ ho => h.mem ho⟩

end Sends

/-- All of `com.c` stays, not only the relay. -/
structure Still (P : Out → Prop) (s s' : Main) : Prop where
  com : s'.com = s.com
  tcp : s'.tcp = s.tcp
  env : s'.env = s.env
  mem : ∀ o ∈ s'.out, o ∈ s.out ∨ P o

section Still

variable {P Q : Out → Prop} {s s' s'' : Main}

theorem Still.relay (h : Still P s s') : relay s' = relay s := relay_congr h.com

theorem Still.refl (P : Out → Prop) (s : Main) : Still P s s :=
  ⟨rfl, rfl, rfl, fun _ ho => Or.inl ho⟩

theorem Still.ofEmits (h : Emits P s s') : Still P s s' :=
  ⟨h.com, h.tcp, h.env, fun _ ho => h.mem ho⟩

theorem Still.ofAnswers (h : Answers s s') :
    Still (fun o => IsTcp o ∨ ∃ reqData, o = .uds reqData) s s' := by
  obtain ⟨_, h⟩ := h
  exact ⟨h.com, h.tcp, h.env, fun _ ho => h.mem ho⟩

theorem Still.mono (h : Still P s s') (hPQ : ∀ o, P o → Q o) : Still Q s s' :=
  ⟨h.com, h.tcp, h.env, fun o ho => (h.mem o ho).imp_right (hPQ o)⟩

theorem Still.trans (h : Still P s s') (h' : Still P s' s'') : Still P s s'' := by
  refine ⟨h'.com.trans h.com, h'.tcp.trans h.tcp, h'.env.trans h.env, ?_⟩
  intro o ho
  rcases h'.mem o ho with ho | ho
  · exact h.mem o ho
  · exact Or.inr ho

end Still

/-! ## DoIP reception -/

/-- What the DoIP layer can hand out. -/
def IsDoipOut (o : Out) : Prop :=
  IsTcp o ∨ (∃ reqData, o = .uds reqData) ∨ IsCan 0x700 o ∨ IsCan 0x710 o

/-- A reply of the DoIP layer itself, which is never a diagnostic message. -/
def IsReply (o : Out) : Prop :=
  ∃ pcb data, o = .tcp pcb data ∧ payloadType (ofList data) ≠ 0x8001

theorem IsReply.isTcp {o : Out} (h : IsReply o) : IsTcp o := by
  obtain ⟨pcb, data, rfl, -⟩ := h
  exact ⟨pcb, data, rfl⟩

/-- `SoAd_IfTransmit` of an array writes the array. -/
theorem transmitArray_eq {txBuf : List UInt8} (hne : txBuf ≠ []) (s : Main) :
    transmitArray doipPort txBuf s = s.write txBuf := by
  have hlen : txBuf.length ≠ 0 := fun h => hne (List.length_eq_zero_iff.mp h)
  show tcpSend (ofList txBuf) txBuf.length s = _
  rw [tcpSend_eq _ hlen, bytesOf_ofList]

theorem transmitArray_reply {txBuf : List UInt8} (hne : txBuf ≠ [])
    (htype : payloadType (ofList txBuf) ≠ 0x8001) (s : Main) :
    Emits IsReply s (transmitArray doipPort txBuf s) := by
  rw [transmitArray_eq hne]
  exact Emits.write fun pcb => ⟨pcb, txBuf, rfl, htype⟩

theorem transmitArray_emits (txBuf : List UInt8) (s : Main) :
    Emits IsTcp s (transmitArray doipPort txBuf s) := soAdIfTransmit_tcp _ _ s

/-- The DoIP layer answers for itself: nothing but replies, and the diagnostics stay. -/
structure Replies (s s' : Main) : Prop extends Still IsReply s s' where
  dcm : s'.dcm = s.dcm

theorem Replies.refl (s : Main) : Replies s s := ⟨Still.refl _ s, rfl⟩

theorem Replies.ofEmits {s s' : Main} (h : Emits IsReply s s') : Replies s s' :=
  ⟨Still.ofEmits h, h.dcm⟩

section Replies

variable (sa ta : UInt16) (code : UInt8) (s : Main)

theorem genericNack_reply : Emits IsReply s (doIPSendGenericNack doipPort code s) :=
  transmitArray_reply (List.cons_ne_nil _ _) (by show word16 0x00 0x00 ≠ 0x8001; decide) s

theorem diagAck_reply : Emits IsReply s (doIPSendDiagAck doipPort sa ta code s) :=
  transmitArray_reply (List.cons_ne_nil _ _) (by show word16 0x80 0x02 ≠ 0x8001; decide) s

theorem diagNack_reply : Emits IsReply s (doIPSendDiagNack doipPort sa ta code s) :=
  transmitArray_reply (List.cons_ne_nil _ _) (by show word16 0x80 0x03 ≠ 0x8001; decide) s

theorem activationResponse_reply :
    Emits IsReply s (doIPSendRoutingActivationResponse doipPort sa code s) :=
  transmitArray_reply (List.cons_ne_nil _ _) (by show word16 0x00 0x06 ≠ 0x8001; decide) s

end Replies

/-- A refusal: a reply and a close request. -/
theorem refuse_replies {s s' : Main} (h : Emits IsReply s s') :
    Replies s (soAdCloseSocket doipPort s') :=
  ⟨⟨h.com, h.tcp, h.env, fun _ ho => h.mem ho⟩, h.dcm⟩

theorem doIPProcessRx_short {payload : Payload} {length : Nat} (h : length < 8) (s : Main) :
    doIPProcessRx payload length s = s := by
  rw [doIPProcessRx, if_pos h]

/-- A length field that does not fit is refused. -/
theorem doIPProcessRx_misfit {payload : Payload} {length : Nat} (hlen : 8 ≤ length)
    (h : ¬ HeaderFits payload length) (s : Main) :
    doIPProcessRx payload length s =
      soAdCloseSocket doipPort (doIPSendGenericNack doipPort 0x04 s) := by
  have hne : expectedPayloadLength payload ≠ UInt32.ofNat (length - 8) :=
    fun he => h ⟨hlen, he⟩
  rw [doIPProcessRx, if_neg (by omega), if_pos hne]

theorem doIPProcessRx_fits {payload : Payload} {length : Nat} (h : HeaderFits payload length)
    (s : Main) : doIPProcessRx payload length s = doIPDispatch payload length s := by
  have hlen : ¬ length < 8 := Nat.not_lt.mpr h.1
  rw [doIPProcessRx, if_neg hlen, if_neg (by simp [h.2])]

theorem routeDiagnostic_sends (targetAddr : UInt16) (udsData : Payload) (udsLength : Nat)
    (s : Main) : Still IsDoipOut s (routeDiagnostic targetAddr udsData udsLength s) := by
  rw [routeDiagnostic]
  split
  · apply (Still.ofAnswers (udsProcessRx_answers udsData udsLength s)).mono
    rintro o (ho | ho)
    · exact Or.inl ho
    · exact Or.inr (Or.inl ho)
  · split
    · exact (Still.ofEmits (canTpTransmit_emits 0x700 udsData udsLength s)).mono
        fun _ ho => Or.inr (Or.inr (Or.inl ho))
    · split
      · exact (Still.ofEmits (canTpTransmit_emits 0x710 udsData udsLength s)).mono
          fun _ ho => Or.inr (Or.inr (Or.inr ho))
      · exact Still.refl _ s

/-- A message that is refused, or not for a known target, is only answered. -/
theorem doIPProcessDiagnostic_refused {payload : Payload} {length : Nat}
    (h : ¬ (12 ≤ length ∧ sourceAddr payload = testerSourceAddress ∧
      doIPIsKnownTA (targetAddr payload) = true)) (s : Main) :
    Replies s (doIPProcessDiagnostic doipPort payload length s) := by
  rw [doIPProcessDiagnostic]
  split
  · exact Replies.refl s
  · rename_i hlen
    split
    · exact refuse_replies (diagNack_reply _ _ 0x02 s)
    · rename_i hsa
      have hsa : sourceAddr payload = testerSourceAddress := by
        simpa [doIPIsRegisteredSA] using hsa
      split
      · exact Replies.ofEmits (diagNack_reply _ _ 0x03 s)
      · rename_i hta
        exact absurd ⟨by omega, hsa, by simpa using hta⟩ h

/-- An accepted message is acknowledged and routed. -/
theorem doIPProcessDiagnostic_accepted {payload : Payload} {length : Nat}
    (hlen : 12 ≤ length) (hsa : sourceAddr payload = testerSourceAddress)
    (hta : doIPIsKnownTA (targetAddr payload) = true) (s : Main) :
    doIPProcessDiagnostic doipPort payload length s =
      routeDiagnostic (targetAddr payload) (offset payload 12) (length - 12)
        (doIPSendDiagAck doipPort (targetAddr payload) (sourceAddr payload) 0x00 s) := by
  have hreg : doIPIsRegisteredSA doipPort (sourceAddr payload) = true := by
    simp [doIPIsRegisteredSA, hsa]
  rw [doIPProcessDiagnostic, if_neg (by omega), if_neg (by simp [hreg]), if_neg (by simp [hta])]

theorem routingActivation_granted {payload : Payload} {length : Nat} (hlen : 15 ≤ length)
    (hsa : sourceAddr payload = testerSourceAddress) (s : Main) :
    Replies (callbackDiagRoutingActivated s)
      (doIPProcessRoutingActivation doipPort payload length s) := by
  rw [doIPProcessRoutingActivation, if_neg (by omega)]
  simp only [hsa, if_true]
  exact Replies.ofEmits (activationResponse_reply _ 0x10 _)

theorem routingActivation_refused {payload : Payload} {length : Nat}
    (h : ¬ (15 ≤ length ∧ sourceAddr payload = testerSourceAddress)) (s : Main) :
    Replies s (doIPProcessRoutingActivation doipPort payload length s) := by
  rw [doIPProcessRoutingActivation]
  split
  · exact Replies.refl s
  · rename_i hlen
    simp only
    split
    · rename_i hsa
      exact absurd ⟨by omega, hsa⟩ h
    · exact refuse_replies (activationResponse_reply _ 0x00 s)

/-- **A granted activation** runs the callback and is answered. -/
theorem doIPProcessRx_activation {payload : Payload} {length : Nat}
    (h : IsActivation payload length) (s : Main) :
    Replies (callbackDiagRoutingActivated s) (doIPProcessRx payload length s) := by
  obtain ⟨hfits, htype, hlen, hsa⟩ := h
  rw [doIPProcessRx_fits hfits, doIPDispatch, if_neg (by simp [htype]), if_pos htype]
  exact routingActivation_granted hlen hsa s

/-- **A diagnostic message** for a known target is acknowledged and routed. -/
theorem doIPProcessRx_diagnostic {payload : Payload} {length : Nat}
    (h : IsDiagnostic payload length) (s : Main) :
    doIPProcessRx payload length s =
      routeDiagnostic (targetAddr payload) (offset payload 12) (length - 12)
        (doIPSendDiagAck doipPort (targetAddr payload) (sourceAddr payload) 0x00 s) := by
  obtain ⟨hfits, htype, hlen, hsa, hta⟩ := h
  rw [doIPProcessRx_fits hfits, doIPDispatch, if_pos htype]
  exact doIPProcessDiagnostic_accepted hlen hsa hta s

/-- **Everything else** is answered or ignored. -/
theorem doIPProcessRx_other {payload : Payload} {length : Nat}
    (ha : ¬ IsActivation payload length) (hd : ¬ IsDiagnostic payload length) (s : Main) :
    Replies s (doIPProcessRx payload length s) := by
  by_cases hlen : length < 8
  · rw [doIPProcessRx_short hlen]
    exact Replies.refl s
  · by_cases hfits : HeaderFits payload length
    · rw [doIPProcessRx_fits hfits, doIPDispatch]
      split
      · rename_i htype
        exact doIPProcessDiagnostic_refused (fun h => hd ⟨hfits, htype, h⟩) s
      · split
        · rename_i htype
          exact routingActivation_refused (fun h => ha ⟨hfits, htype, h⟩) s
        · exact Replies.ofEmits (genericNack_reply 0x01 s)
    · rw [doIPProcessRx_misfit (Nat.not_lt.mp hlen) hfits]
      exact refuse_replies (genericNack_reply 0x04 s)

/-- An activation request is no diagnostic message. -/
theorem not_diagnostic_of_activation {payload : Payload} {length : Nat}
    (h : IsActivation payload length) : ¬ IsDiagnostic payload length := by
  intro hd
  have htype := h.2.1.symm.trans hd.2.1
  exact absurd htype (by decide)

/-- The state in which the outputs of the DoIP layer are produced. -/
def activate (payload : Payload) (length : Nat) (s : Main) : Main :=
  if IsActivation payload length then callbackDiagRoutingActivated s else s

/-- Without a diagnostic message, all that leaves is a reply. -/
theorem doIPProcessRx_quiet {payload : Payload} {length : Nat}
    (hd : ¬ IsDiagnostic payload length) (s : Main) :
    Replies (activate payload length s) (doIPProcessRx payload length s) := by
  rw [activate]
  split
  · rename_i ha
    exact doIPProcessRx_activation ha s
  · rename_i ha
    exact doIPProcessRx_other ha hd s

theorem doIPProcessRx_sends (payload : Payload) (length : Nat) (s : Main) :
    Still IsDoipOut (activate payload length s) (doIPProcessRx payload length s) := by
  by_cases hd : IsDiagnostic payload length
  · have ha : ¬ IsActivation payload length := fun ha => not_diagnostic_of_activation ha hd
    rw [activate, if_neg ha, doIPProcessRx_diagnostic hd]
    have hack := Still.ofEmits (diagAck_reply (targetAddr payload) (sourceAddr payload) 0x00 s)
    exact Still.trans (hack.mono fun _ ho => Or.inl ho.isTcp)
      (routeDiagnostic_sends (targetAddr payload) (offset payload 12) (length - 12) _)
  · exact (doIPProcessRx_quiet hd s).mono fun _ ho => Or.inl ho.isTcp

/-! ## The relay -/

theorem relay_activated (s : Main) :
    relay (callbackDiagRoutingActivated s) = (relay s).step .activated := by
  rw [callbackDiagRoutingActivated, Relay.step]
  show relay (if s.com.curMode = modeRemote then _ else _) =
    if s.com.curMode = modeRemote then _ else _
  split <;> rfl

theorem relay_deactivated (s : Main) :
    relay (callbackDiagRoutingDeactivated s) = (relay s).step .deactivated := by
  rw [callbackDiagRoutingDeactivated, Relay.step]
  show relay (if s.com.curMode = modeDiag then _ else _) =
    if s.com.curMode = modeDiag then _ else _
  split <;> rfl

/-- A DoIP buffer reaches the relay as an activation or not at all. -/
theorem relay_doip (p : Pbuf) (s : Main) :
    relay (doIPProcessRx p.payload p.len s) = run Relay.step (relay s) (doipOps p) := by
  rw [(doIPProcessRx_sends p.payload p.len s).relay, activate, doipOps]
  split
  · exact relay_activated s
  · rfl

theorem relay_udpCtr (payload : Payload) (length : Nat) (s : Main) :
    relay (udpCtrProcessRx payload length s) =
      (relay s).step (.packet (udpCtrOfPayload payload) (getSystemTimeMs s)) := rfl

theorem someIpSendResponse_sends (payload : Payload) (buzzerState : UInt8) (s : Main) :
    Still IsUdp s (someIpSendResponse payload buzzerState s) := by
  have hport : 30492 ≠ 13400 := by decide
  simp only [someIpSendResponse, pduRRouteTx_someip]
  exact Still.ofEmits (soAdIfTransmit_udp hport _ _ s)

theorem relay_someIp (p : Pbuf) (s : Main) :
    relay (someIpProcessRx p.payload p.len s) =
      run Relay.step (relay s)
        (if IsBuzzerRequest p.payload p.len then [.buzzer (p.payload 17)] else []) := by
  rw [someIpProcessRx]
  split
  · exact (someIpSendResponse_sends _ _ _).relay
  · rfl

/-- **A datagram.** -/
theorem relay_udpReceive (localPort : Nat) (p : Pbuf) (addr : IpAddr) (port : Nat) (s : Main) :
    relay (udpReceiveRecv localPort p addr port s) =
      run Relay.step (relay s) (udpOps s.env localPort p) := by
  rw [udpReceiveRecv, udpOps]
  by_cases hctr : localPort = 5000
  · subst hctr
    rw [if_pos rfl, soAdRxIndication_control]
    exact relay_udpCtr p.payload p.len _
  · rw [if_neg hctr]
    by_cases hsomeip : localPort = 30492
    · subst hsomeip
      rw [if_pos rfl, soAdRxIndication_someip]
      exact relay_someIp p _
    · rw [if_neg hsomeip]
      by_cases hdoip : localPort = 13400
      · subst hdoip
        rw [if_pos rfl, soAdRxIndication_doip]
        exact relay_doip p _
      · rw [if_neg hdoip, soAdRxIndication_other hctr hsomeip hdoip]
        rfl

/-- **A callback of lwIP.** -/
theorem relay_lwip (c : LwipCall) (s : Main) :
    relay (lwipCall c s) = run Relay.step (relay s) (lwipOps s.env s.tcp.registered c) := by
  cases c with
  | udpRecv localPort p addr port => exact relay_udpReceive localPort p addr port s
  | tcpAccept newpcb => rfl
  | tcpRecv tpcb p rest =>
      simp only [lwipCall, lwipOps]
      split
      · exact relay_doip p s
      · rfl
  | tcpFin tpcb =>
      simp only [lwipCall, lwipOps]
      split
      · exact relay_deactivated _
      · rfl
  | tcpErr tpcb =>
      simp only [lwipCall, lwipOps]
      split <;> rfl

/-! ## What the callbacks write -/

/-- Collision warning and mode are all of `com.c` that differs, and the clock has not been read
    again. -/
structure LwipOnly (s s' : Main) : Prop where
  com : ∃ warn mode, s'.com = { s.com with collisionWarn := warn, curMode := mode }
  env : s'.env = s.env

section LwipOnly

variable {s s' s'' : Main} {P : Out → Prop}

theorem LwipOnly.trans (h : LwipOnly s s') (h' : LwipOnly s' s'') : LwipOnly s s'' := by
  obtain ⟨_, _, hcom⟩ := h.com
  obtain ⟨warn, mode, hcom'⟩ := h'.com
  exact ⟨⟨warn, mode, by rw [hcom', hcom]⟩, h'.env.trans h.env⟩

/-- Nothing of it differs. -/
theorem LwipOnly.same (hcom : s'.com = s.com) (henv : s'.env = s.env) : LwipOnly s s' :=
  ⟨⟨_, _, hcom⟩, henv⟩

theorem LwipOnly.ofStill (h : Still P s s') : LwipOnly s s' := .same h.com h.env

theorem lwipOnly_doip (p : Pbuf) (s : Main) : LwipOnly s (doIPProcessRx p.payload p.len s) := by
  have hactivate : LwipOnly s (activate p.payload p.len s) := by
    rw [activate, callbackDiagRoutingActivated]
    split
    · split
      · exact ⟨⟨_, _, rfl⟩, rfl⟩
      · exact .same rfl rfl
    · exact .same rfl rfl
  exact hactivate.trans (.ofStill (doIPProcessRx_sends p.payload p.len s))

theorem lwipOnly_someIp (payload : Payload) (length : Nat) (s : Main) :
    LwipOnly s (someIpProcessRx payload length s) := by
  rw [someIpProcessRx]
  split
  · have hset : LwipOnly s (swcBuzzerControlIndication (payload 17) s) := ⟨⟨_, _, rfl⟩, rfl⟩
    exact hset.trans (.ofStill (someIpSendResponse_sends payload _ _))
  · exact .same rfl rfl

/-- **Every callback but the control datagram.** -/
theorem lwipOnly_lwip {c : LwipCall} (hctr : ∀ p addr port, c ≠ .udpRecv 5000 p addr port)
    (s : Main) : LwipOnly s (lwipCall c s) := by
  cases c with
  | udpRecv localPort p addr port =>
      have hport : localPort ≠ 5000 := by
        rintro rfl
        exact hctr p addr port rfl
      have hudp : ∀ u, LwipOnly s { s with udp := u } := fun _ => .same rfl rfl
      show LwipOnly s (udpReceiveRecv localPort p addr port s)
      rw [udpReceiveRecv]
      by_cases hsomeip : localPort = 30492
      · subst hsomeip
        rw [soAdRxIndication_someip]
        exact (hudp _).trans (lwipOnly_someIp _ _ _)
      by_cases hdoip : localPort = 13400
      · subst hdoip
        rw [soAdRxIndication_doip]
        exact (hudp _).trans (lwipOnly_doip p _)
      · rw [soAdRxIndication_other hport hsomeip hdoip]
        exact .same rfl rfl
  | tcpAccept newpcb => exact .same rfl rfl
  | tcpRecv tpcb p rest =>
      simp only [lwipCall]
      split
      · exact lwipOnly_doip p s
      · exact .same rfl rfl
  | tcpFin tpcb =>
      simp only [lwipCall]
      split
      · rw [tcpServerRecvFin, callbackDiagRoutingDeactivated]
        split
        · exact ⟨⟨_, _, rfl⟩, rfl⟩
        · exact .same rfl rfl
      · exact .same rfl rfl
  | tcpErr tpcb =>
      simp only [lwipCall]
      split
      · exact .same rfl rfl
      · exact .same rfl rfl

end LwipOnly

/-! ## CAN reception -/

/-- An entry of a table is what its identifier is routed to. -/
theorem route_cases (table : List (Nat × Handler)) (pduId : Nat) :
    (∃ f, (pduId, f) ∈ table ∧ route table pduId = f) ∨
      route table pduId = fun _ _ s => s := by
  rcases h : table.lookup pduId with _ | f
  · right
    funext payload length s
    simp only [route, h]
  · left
    refine ⟨f, ?_, ?_⟩
    · obtain ⟨l, r, hlr, -⟩ := List.lookup_eq_some_iff.mp h
      rw [hlr]
      simp
    · funext payload length s
      simp only [route, h]

/-- A response from an ECU has at most fifteen bytes, the low half of a byte. -/
theorem nibble_le (b : UInt8) : (b &&& 0x0F).toNat ≤ 15 := by
  rw [UInt8.toNat_and]
  exact Nat.and_le_right

/-- **The transport layer** drops a frame, or passes its data on as the response of an ECU. -/
theorem canTpRxIndication_cases (canId : Nat) (payload : Payload) (length : Nat) (s : Main) :
    canTpRxIndication canId payload length s = s ∨
      ∃ address ∈ [0x0010, 0x0020], ∃ udsData udsLength, udsLength ≤ 15 ∧
        canTpRxIndication canId payload length s = doIPProcessTx address udsData udsLength s := by
  rw [canTpRxIndication]
  dsimp only
  split_ifs with hnone hsingle hshort hact hbody
  · exact .inl rfl
  · exact .inl rfl
  · exact .inr ⟨0x0010, by simp, _, _, nibble_le _, rfl⟩
  · exact .inr ⟨0x0020, by simp, _, _, nibble_le _, rfl⟩
  · exact .inl rfl
  · exact .inl rfl

theorem canTpRxIndication_emits {canId : Nat} (payload : Payload) (length : Nat) (s : Main) :
    Emits IsTcp s (canTpRxIndication canId payload length s) := by
  obtain heq | ⟨address, -, udsData, udsLength, -, heq⟩ :=
    canTpRxIndication_cases canId payload length s
  · rw [heq]
    exact Emits.refl _ s
  · rw [heq]
    exact doIPProcessTx_emits address udsData udsLength s

/-- A message that is neither a status frame nor a heartbeat is nothing to `com.c`. -/
theorem canReadMessage_other {m : CanRx} (hstat : m.messageId ≠ 0x200)
    (hbody : m.messageId ≠ 0x310) (s : Main) :
    Emits (fun o => IsTcp o ∨ IsUdp o) s
      (canReadMessage m.messageId m.dataLengthCode m.messageData s) := by
  rw [canReadMessage, canIfRxIndication]
  rcases route_cases canIfRxTable m.messageId with ⟨f, hf, hr⟩ | hr
  · rw [hr]
    simp only [canIfRxTable, List.mem_cons, Prod.mk.injEq, List.not_mem_nil, or_false] at hf
    rcases hf with ⟨hid, -⟩ | ⟨-, rfl⟩ | ⟨hid, -⟩ | ⟨-, rfl⟩ | ⟨-, rfl⟩
    · exact absurd hid hstat
    · rw [pduRRouteRx_canEvent]
      exact (soAdIfTransmit_udp (by decide) _ _ s).mono fun _ => Or.inr
    · exact absurd hid hbody
    · exact (canTpRxIndication_emits _ _ s).mono fun _ => Or.inl
    · exact (canTpRxIndication_emits _ _ s).mono fun _ => Or.inl
  · rw [hr]
    exact Emits.refl _ s

/-- **A CAN message** from ACT or BODY is nothing to the relay; it leaves on Ethernet or
    not at all. -/
theorem canReadMessage_sends (m : CanRx) (s : Main) :
    Sends (fun o => IsTcp o ∨ IsUdp o) s
      (canReadMessage m.messageId m.dataLengthCode m.messageData s) := by
  by_cases hstat : m.messageId = 0x200
  · rw [hstat]
    exact ⟨rfl, rfl, rfl, fun _ ho => Or.inl ho⟩
  by_cases hbody : m.messageId = 0x310
  · rw [hbody]
    exact ⟨rfl, rfl, rfl, fun _ ho => Or.inl ho⟩
  · exact Sends.ofEmits (canReadMessage_other hstat hbody s)

/-! ## The periodic functions -/

theorem relay_pcTimeOut (currentTime : UInt32) (s : Main) :
    relay (pcTimeOut currentTime s) = (relay s).step (.watch currentTime) := by
  rw [pcTimeOut, Relay.step]
  show relay (if (relay s).Stale currentTime then _ else _) =
    if (relay s).Stale currentTime then _ else _
  split <;> rfl

theorem relay_actTimeOut (currentTime : UInt32) (s : Main) :
    relay (actTimeOut currentTime s) = relay s := by
  rw [actTimeOut]
  split <;> rfl

theorem relay_bodyTimeOut (currentTime : UInt32) (s : Main) :
    relay (bodyTimeOut currentTime s) = relay s := by
  rw [bodyTimeOut]
  split <;> rfl

/-- **`COM_TimeOut`** watches the relay. -/
theorem relay_comTimeOut (s : Main) :
    relay (comTimeOut s) = (relay s).step (.watch (getSystemTimeMs s)) := by
  rw [comTimeOut, relay_bodyTimeOut, relay_actTimeOut, relay_pcTimeOut]

/-- It sends nothing and leaves connections and close request alone. -/
theorem comTimeOut_still (s : Main) :
    (comTimeOut s).tcp = s.tcp ∧ (comTimeOut s).out = s.out ∧ (comTimeOut s).soad = s.soad := by
  have hpc : ∀ t s, (pcTimeOut t s).tcp = s.tcp ∧ (pcTimeOut t s).out = s.out ∧
      (pcTimeOut t s).soad = s.soad := by
    intro t s
    rw [pcTimeOut]
    split <;> exact ⟨rfl, rfl, rfl⟩
  have hact : ∀ t s, (actTimeOut t s).tcp = s.tcp ∧ (actTimeOut t s).out = s.out ∧
      (actTimeOut t s).soad = s.soad := by
    intro t s
    rw [actTimeOut]
    split <;> exact ⟨rfl, rfl, rfl⟩
  have hbody : ∀ t s, (bodyTimeOut t s).tcp = s.tcp ∧ (bodyTimeOut t s).out = s.out ∧
      (bodyTimeOut t s).soad = s.soad := by
    intro t s
    rw [bodyTimeOut]
    split <;> exact ⟨rfl, rfl, rfl⟩
  rw [comTimeOut]
  refine ⟨?_, ?_, ?_⟩
  · rw [(hbody _ _).1, (hact _ _).1, (hpc _ _).1]
  · rw [(hbody _ _).2.1, (hact _ _).2.1, (hpc _ _).2.1]
  · rw [(hbody _ _).2.2, (hact _ _).2.2, (hpc _ _).2.2]

/-- The two command frames of a relay. -/
def IsCommand (r : Relay) (o : Out) : Prop := o = .can (actFrame r) ∨ o = .can (bodyFrame r)

/-- What the cyclic transmissions do: of COM they write the two time stamps of their own and
    the counter of the status, and nothing else but the output. -/
structure Transmits (P : Out → Prop) (s s' : Main) : Prop where
  com : ∃ t20 t50 cnt, s'.com = { s.com with
    times := { s.com.times with lastTime20ms := t20, lastTime50ms := t50 }, statCnt := cnt }
  dcm : s'.dcm = s.dcm
  soad : s'.soad = s.soad
  tcp : s'.tcp = s.tcp
  env : s'.env = s.env
  mem : ∀ o ∈ s'.out, o ∈ s.out ∨ P o

section Transmits

variable {P Q : Out → Prop} {s s' s'' : Main}

theorem Transmits.ofEmits (h : Emits P s s') : Transmits P s s' :=
  ⟨⟨s.com.times.lastTime20ms, s.com.times.lastTime50ms, s.com.statCnt, h.com⟩, h.dcm, h.soad,
    h.tcp, h.env, fun _ ho => h.mem ho⟩

theorem Transmits.refl (P : Out → Prop) (s : Main) : Transmits P s s :=
  Transmits.ofEmits (Emits.refl P s)

theorem Transmits.mono (h : Transmits P s s') (hPQ : ∀ o, P o → Q o) : Transmits Q s s' :=
  ⟨h.com, h.dcm, h.soad, h.tcp, h.env, fun o ho => (h.mem o ho).imp_right (hPQ o)⟩

theorem Transmits.trans (h : Transmits P s s') (h' : Transmits P s' s'') :
    Transmits P s s'' := by
  refine ⟨?_, h'.dcm.trans h.dcm, h'.soad.trans h.soad, h'.tcp.trans h.tcp, h'.env.trans h.env,
    ?_⟩
  · obtain ⟨t20, t50, cnt, hcom⟩ := h'.com
    obtain ⟨_, _, _, hfirst⟩ := h.com
    refine ⟨t20, t50, cnt, ?_⟩
    rw [hcom, hfirst]
  · intro o ho
    rcases h'.mem o ho with ho | ho
    · exact h.mem o ho
    · exact Or.inr ho

theorem Transmits.relay (h : Transmits P s s') : relay s' = relay s := by
  obtain ⟨_, _, _, hcom⟩ := h.com
  simp only [MainSpec.relay, hcom]

end Transmits

theorem comTxCtrActCan_emits (s : Main) : Emits (IsCommand (relay s)) s (comTxCtrActCan s) := by
  rw [comTxCtrActCan, pduRRouteTx_act]
  rcases hbusy : s.env.canBusy 0x100 with _ | _
  · rw [canIfTransmit_free (by simp) (by decide) hbusy]
    exact Emits.one (Or.inl rfl)
  · rw [canIfTransmit_busy hbusy]
    exact Emits.refl _ s

theorem comTxCtrBodyCan_emits (s : Main) : Emits (IsCommand (relay s)) s (comTxCtrBodyCan s) := by
  rw [comTxCtrBodyCan, pduRRouteTx_body]
  rcases hbusy : s.env.canBusy 0x110 with _ | _
  · rw [canIfTransmit_free (by simp) (by decide) hbusy]
    exact Emits.one (Or.inr rfl)
  · rw [canIfTransmit_busy hbusy]
    exact Emits.refl _ s

theorem comTx20ms_transmits (currentTime : UInt32) (s : Main) :
    Transmits (IsCommand (relay s)) s (comTx20ms currentTime s) := by
  rw [comTx20ms]
  split
  · have hact := comTxCtrActCan_emits s
    have hbody := comTxCtrBodyCan_emits (comTxCtrActCan s)
    rw [relay_congr hact.com] at hbody
    refine (Transmits.ofEmits (hact.trans hbody)).trans ?_
    exact ⟨⟨_, _, _, rfl⟩, rfl, rfl, rfl, rfl, fun _ ho => Or.inl ho⟩
  · exact Transmits.refl _ s

theorem comTx50ms_transmits (currentTime : UInt32) (s : Main) :
    Transmits IsUdp s (comTx50ms currentTime s) := by
  rw [comTx50ms]
  split
  · have hsend : Emits IsUdp { s with com := { s.com with statCnt := s.com.statCnt + 1 } }
        (comTxStatUdp s) := by
      have hport : 5001 ≠ 13400 := by decide
      simp only [comTxStatUdp, pduRRouteTx_stat]
      exact soAdIfTransmit_udp hport _ _ _
    refine ⟨⟨s.com.times.lastTime20ms, currentTime, s.com.statCnt + 1, ?_⟩, hsend.dcm,
      hsend.soad, hsend.tcp, hsend.env, fun o ho => hsend.mem ho⟩
    simp only [setLastTime50ms, hsend.com]
  · exact Transmits.refl _ s

/-- **`COM_Tx_MainFunction`** sends the frames of the relay, and the status. -/
theorem comTxMainFunction_transmits (s : Main) :
    Transmits (fun o => IsCommand (relay s) o ∨ IsUdp o) s (comTxMainFunction s) :=
  ((comTx20ms_transmits _ s).mono fun _ => Or.inl).trans
    ((comTx50ms_transmits _ _).mono fun _ => Or.inr)

theorem sdMainFunction_transmits (s : Main) : Transmits IsUdp s (sdMainFunction s) := by
  simp only [sdMainFunction]
  split
  · simp only [sdSendOfferService]
    have hsend := udpSendWithPcb_emits ⟨224, 224, 224, 245⟩ 30490
      (ofList (sdOffer s.sd.sessionId)) (sdOffer s.sd.sessionId).length
      { s with sd := { sessionId := s.sd.sessionId + 1, lastOfferTime := getSystemTimeMs s } }
    have hoffer := Transmits.ofEmits hsend
    exact ⟨hoffer.com, hoffer.dcm, hoffer.soad, hoffer.tcp, hoffer.env, hoffer.mem⟩
  · exact Transmits.refl _ s

/-- The deferred close is nothing to the relay. -/
theorem relay_soAdMainFunction (s : Main) : relay (soAdMainFunction s) = relay s := by
  rw [soAdMainFunction]
  split <;> rfl

/-! ## One step -/

/-- **A call does to the relay what `relayOps` says.** -/
theorem relay_step (s : Main) (e : MainEvent) :
    relay (mainStep s e) = run Relay.step (relay s) (relayOps s e) := by
  obtain ⟨env, call⟩ := e
  show relay (mainCall call (Main.enter env s)) =
    run Relay.step (relay (Main.enter env s)) (relayOps s ⟨env, call⟩)
  cases call with
  | lwip c => exact relay_lwip c (Main.enter env s)
  | canRead m => exact (canReadMessage_sends m _).relay
  | comTimeOut => exact relay_comTimeOut _
  | comTxMainFunction => exact (comTxMainFunction_transmits _).relay
  | sdMainFunction => exact (sdMainFunction_transmits _).relay
  | soAdMainFunction => exact relay_soAdMainFunction _

/-! ## The connections -/

theorem activate_tcp (payload : Payload) (length : Nat) (s : Main) :
    (activate payload length s).tcp = s.tcp := by
  rw [activate, callbackDiagRoutingActivated]
  split
  · split <;> rfl
  · rfl

theorem doIPProcessRx_tcp (payload : Payload) (length : Nat) (s : Main) :
    (doIPProcessRx payload length s).tcp = s.tcp := by
  rw [(doIPProcessRx_sends payload length s).tcp, activate_tcp]

theorem someIpProcessRx_tcp (payload : Payload) (length : Nat) (s : Main) :
    (someIpProcessRx payload length s).tcp = s.tcp := by
  rw [someIpProcessRx]
  split
  · exact (someIpSendResponse_sends _ _ _).tcp
  · rfl

theorem udpReceiveRecv_tcp (localPort : Nat) (p : Pbuf) (addr : IpAddr) (port : Nat)
    (s : Main) : (udpReceiveRecv localPort p addr port s).tcp = s.tcp := by
  rw [udpReceiveRecv]
  by_cases hctr : localPort = 5000
  · subst hctr
    rw [soAdRxIndication_control]
    rfl
  · by_cases hsomeip : localPort = 30492
    · subst hsomeip
      rw [soAdRxIndication_someip, someIpProcessRx_tcp]
    · by_cases hdoip : localPort = 13400
      · subst hdoip
        rw [soAdRxIndication_doip, doIPProcessRx_tcp]
      · rw [soAdRxIndication_other hctr hsomeip hdoip]

theorem tcpServerRecvFin_tcp (tpcb : Pcb) (s : Main) :
    (tcpServerRecvFin tpcb s).tcp = Tcp.close (some tpcb) s.tcp := by
  rw [tcpServerRecvFin, callbackDiagRoutingDeactivated]
  split <;> rfl

/-- The connections after a call: accept, FIN, error and the deferred close change them. -/
def tcpAfter (s : Main) (e : MainEvent) : Tcp :=
  match e.call with
  | .lwip (.tcpAccept newpcb) => Tcp.accept newpcb s.tcp
  | .lwip (.tcpFin tpcb) => if tpcb ∈ s.tcp.registered then Tcp.close (some tpcb) s.tcp else s.tcp
  | .lwip (.tcpErr tpcb) => if tpcb ∈ s.tcp.registered then Tcp.drop tpcb s.tcp else s.tcp
  | .soAdMainFunction =>
      if CloseDue (Main.enter e.env s) then Tcp.close s.tcp.activePcb s.tcp else s.tcp
  | _ => s.tcp

/-- **A call does to the connections what `tcpAfter` says.** -/
theorem tcp_step (s : Main) (e : MainEvent) : (mainStep s e).tcp = tcpAfter s e := by
  obtain ⟨env, call⟩ := e
  cases call with
  | lwip c =>
      cases c with
      | udpRecv localPort p addr port => exact udpReceiveRecv_tcp localPort p addr port _
      | tcpAccept newpcb => rfl
      | tcpRecv tpcb p rest =>
          show (if tpcb ∈ s.tcp.registered then _ else Main.enter env s).tcp = s.tcp
          split
          · exact doIPProcessRx_tcp _ _ _
          · rfl
      | tcpFin tpcb =>
          show (if tpcb ∈ s.tcp.registered then _ else Main.enter env s).tcp =
            if tpcb ∈ s.tcp.registered then _ else _
          split
          · exact tcpServerRecvFin_tcp tpcb _
          · rfl
      | tcpErr tpcb =>
          show (if tpcb ∈ s.tcp.registered then _ else Main.enter env s).tcp =
            if tpcb ∈ s.tcp.registered then _ else _
          split <;> rfl
  | canRead m => exact (canReadMessage_sends m _).tcp
  | comTimeOut => exact (comTimeOut_still _).1
  | comTxMainFunction => exact (comTxMainFunction_transmits _).tcp
  | sdMainFunction => exact (sdMainFunction_transmits _).tcp
  | soAdMainFunction =>
      show (soAdMainFunction (Main.enter env s)).tcp =
        if CloseDue (Main.enter env s) then _ else _
      rw [soAdMainFunction]
      split <;> rfl

/-- **There is never more than one connection with callbacks.** -/
theorem oneConnection_step {s : Main} (h : OneConnection s.tcp) (e : MainEvent) :
    OneConnection (mainStep s e).tcp := by
  rw [tcp_step]
  obtain ⟨env, call⟩ := e
  cases call with
  | lwip c =>
      cases c with
      | udpRecv localPort p addr port => exact h
      | tcpAccept newpcb => exact oneConnection_accept h newpcb
      | tcpRecv tpcb p rest => exact h
      | tcpFin tpcb =>
          simp only [tcpAfter]
          split
          · rename_i hreg
            have hclose := close_active h
            rw [(oneConnection_mem h).mp hreg] at hclose
            rw [hclose]
            rfl
          · exact h
      | tcpErr tpcb =>
          simp only [tcpAfter]
          split
          · rename_i hreg
            rw [drop_active h ((oneConnection_mem h).mp hreg)]
            rfl
          · exact h
  | canRead m => exact h
  | comTimeOut => exact h
  | comTxMainFunction => exact h
  | sdMainFunction => exact h
  | soAdMainFunction =>
      simp only [tcpAfter]
      split
      · rw [close_active h]
        rfl
      · exact h

/-! ## What leaves -/

/-- What a callback of lwIP can hand out. -/
def IsLwipOut (o : Out) : Prop := IsDoipOut o ∨ IsUdp o ∨ ∃ tpcb, o = .tcpClose tpcb

theorem activate_out (payload : Payload) (length : Nat) (s : Main) :
    (activate payload length s).out = s.out := by
  rw [activate, callbackDiagRoutingActivated]
  split
  · split <;> rfl
  · rfl

theorem doIPProcessRx_out (payload : Payload) (length : Nat) (s : Main) :
    ∀ o ∈ (doIPProcessRx payload length s).out, o ∈ s.out ∨ IsDoipOut o := by
  intro o ho
  have h := (doIPProcessRx_sends payload length s).mem o ho
  rwa [activate_out] at h

theorem someIpProcessRx_out (payload : Payload) (length : Nat) (s : Main) :
    ∀ o ∈ (someIpProcessRx payload length s).out, o ∈ s.out ∨ IsUdp o := by
  intro o ho
  rw [someIpProcessRx] at ho
  split at ho
  · exact (someIpSendResponse_sends _ _ _).mem o ho
  · exact Or.inl ho

theorem udpReceiveRecv_out (localPort : Nat) (p : Pbuf) (addr : IpAddr) (port : Nat)
    (s : Main) :
    ∀ o ∈ (udpReceiveRecv localPort p addr port s).out, o ∈ s.out ∨ IsDoipOut o ∨ IsUdp o := by
  intro o ho
  rw [udpReceiveRecv] at ho
  by_cases hctr : localPort = 5000
  · subst hctr
    rw [soAdRxIndication_control] at ho
    exact Or.inl ho
  · by_cases hsomeip : localPort = 30492
    · subst hsomeip
      rw [soAdRxIndication_someip] at ho
      exact (someIpProcessRx_out _ _ _ o ho).imp_right Or.inr
    · by_cases hdoip : localPort = 13400
      · subst hdoip
        rw [soAdRxIndication_doip] at ho
        exact (doIPProcessRx_out _ _ _ o ho).imp_right Or.inl
      · rw [soAdRxIndication_other hctr hsomeip hdoip] at ho
        exact Or.inl ho

theorem tcpServerRecvFin_out (tpcb : Pcb) (s : Main) :
    (tcpServerRecvFin tpcb s).out = s.out ++ [.tcpClose (some tpcb)] := by
  rw [tcpServerRecvFin, callbackDiagRoutingDeactivated]
  split <;> rfl

theorem lwipCall_out (c : LwipCall) (s : Main) :
    ∀ o ∈ (lwipCall c s).out, o ∈ s.out ∨ IsLwipOut o := by
  intro o ho
  cases c with
  | udpRecv localPort p addr port =>
      rcases udpReceiveRecv_out localPort p addr port s o ho with h | h | h
      · exact Or.inl h
      · exact Or.inr (Or.inl h)
      · exact Or.inr (Or.inr (Or.inl h))
  | tcpAccept newpcb => exact Or.inl ho
  | tcpRecv tpcb p rest =>
      simp only [lwipCall] at ho
      split at ho
      · exact (doIPProcessRx_out _ _ _ o ho).imp_right Or.inl
      · exact Or.inl ho
  | tcpFin tpcb =>
      simp only [lwipCall] at ho
      split at ho
      · rw [tcpServerRecvFin_out] at ho
        rcases List.mem_append.mp ho with ho | ho
        · exact Or.inl ho
        · exact Or.inr (Or.inr (Or.inr ⟨some tpcb, List.mem_singleton.mp ho⟩))
      · exact Or.inl ho
  | tcpErr tpcb =>
      simp only [lwipCall] at ho
      split at ho <;> exact Or.inl ho

theorem soAdMainFunction_out (s : Main) :
    ∀ o ∈ (soAdMainFunction s).out, o ∈ s.out ∨ ∃ tpcb, o = .tcpClose tpcb := by
  intro o ho
  rw [soAdMainFunction] at ho
  split at ho
  · rcases List.mem_append.mp ho with ho | ho
    · exact Or.inl ho
    · exact Or.inr ⟨_, List.mem_singleton.mp ho⟩
  · exact Or.inl ho

/-- The CAN messages that an lwIP callback can send. -/
theorem can_of_isLwipOut {m : CanMessage} (h : IsLwipOut (.can m)) :
    m.messageId = 0x700 ∨ m.messageId = 0x710 := by
  rcases h with (⟨_, _, h⟩ | ⟨_, h⟩ | ⟨_, h, hid⟩ | ⟨_, h, hid⟩) | ⟨_, _, _, h⟩ | ⟨_, h⟩
  · cases h
  · cases h
  · cases h
    exact Or.inl hid
  · cases h
    exact Or.inr hid
  · cases h
  · cases h

/-- **A CAN message leaves MAIN** as a command frame of the relay in
    `COM_Tx_MainFunction`, or as a diagnostic frame. -/
theorem can_step {s : Main} {e : MainEvent} {m : CanMessage}
    (h : Out.can m ∈ (mainStep s e).out) :
    (e.call = .comTxMainFunction ∧ (m = actFrame (relay s) ∨ m = bodyFrame (relay s))) ∨
      ((∃ c, e.call = .lwip c) ∧ (m.messageId = 0x700 ∨ m.messageId = 0x710)) := by
  obtain ⟨env, call⟩ := e
  cases call with
  | lwip c =>
      rcases lwipCall_out c _ _ h with h | h
      · cases h
      · exact Or.inr ⟨⟨c, rfl⟩, can_of_isLwipOut h⟩
  | canRead m' =>
      rcases (canReadMessage_sends m' _).mem _ h with h | ⟨_, _, h⟩ | ⟨_, _, _, h⟩
      · cases h
      · cases h
      · cases h
  | comTimeOut =>
      have hout := (comTimeOut_still (Main.enter env s)).2.1
      have h : Out.can m ∈ (comTimeOut (Main.enter env s)).out := h
      rw [hout] at h
      cases h
  | comTxMainFunction =>
      rcases (comTxMainFunction_transmits _).mem _ h with h | (h | h) | ⟨_, _, _, h⟩
      · cases h
      · cases h
        exact Or.inl ⟨rfl, Or.inl rfl⟩
      · cases h
        exact Or.inl ⟨rfl, Or.inr rfl⟩
      · cases h
  | sdMainFunction =>
      rcases (sdMainFunction_transmits _).mem _ h with h | ⟨_, _, _, h⟩
      · cases h
      · cases h
  | soAdMainFunction =>
      rcases soAdMainFunction_out _ _ h with h | ⟨_, h⟩
      · cases h
      · cases h

/-! ## Frames -/

/-- The frame that an output puts on the bus. -/
def frameOf : Out → Option CanMessage
  | .can m => some m
  | _ => none

/-- The frames among some outputs. -/
def framesOf (outs : List Out) : List CanMessage := outs.filterMap frameOf

theorem mem_framesOf {outs : List Out} {m : CanMessage} : m ∈ framesOf outs ↔ .can m ∈ outs := by
  rw [framesOf, List.mem_filterMap]
  constructor
  · rintro ⟨o, ho, hm⟩
    cases o with
    | can m' =>
        obtain rfl := Option.some.inj hm
        exact ho
    | _ => cases hm
  · exact fun h => ⟨_, h, rfl⟩

end MainFrame
