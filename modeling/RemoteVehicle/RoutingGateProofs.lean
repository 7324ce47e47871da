import RemoteVehicle.MainFrameProofs

/-!
# Routing activation and the delivery of diagnostic messages

A tester should activate routing on its connection before MAIN delivers its diagnostic
messages.  `gateStep` runs MAIN with the open connection on which an activation has been
granted, and `FromActivated` is the rule: what is delivered came in on that connection.

MAIN keeps no record of activations: it compares the source address of each message with
the tester's.  `delivers_iff` is therefore a statement about one call, and
`routing_gate_iff` says which runs obey the rule: those in which the tester never sends a
message that MAIN can deliver other than on a connection it has activated.
-/

namespace RoutingGate

open Runs CanFrame MainState MainTransmit MainDcm MainCom MainRouting MainDoip MainTcp
open MainLoop MainSpec MainFrame

/-! ## Delivery -/

/-- A diagnostic request that reaches a server: the own one, or that of ACT or BODY. -/
def IsDelivery (o : Out) : Prop :=
  (∃ reqData, o = .uds reqData) ∨ IsCan 0x700 o ∨ IsCan 0x710 o

/-- Something has been delivered. -/
def Delivers (s : Main) : Prop := ∃ o ∈ s.out, IsDelivery o

/-- The transport can carry a request of this length to this target. -/
def Reaches (env : Env) (targetAddr : UInt16) (udsLength : Nat) : Prop :=
  targetAddr = 0x0001 ∨
    (targetAddr = 0x0010 ∧ 1 ≤ udsLength ∧ udsLength ≤ 7 ∧ env.canBusy 0x700 = false) ∨
    (targetAddr = 0x0020 ∧ 1 ≤ udsLength ∧ udsLength ≤ 7 ∧ env.canBusy 0x710 = false)

/-- A diagnostic message that MAIN can deliver. -/
def Deliverable (env : Env) (b : Pbuf) : Prop :=
  IsDiagnostic b.payload b.len ∧ Reaches env (targetAddr b.payload) (b.len - 12)

instance (env : Env) (targetAddr : UInt16) (udsLength : Nat) :
    Decidable (Reaches env targetAddr udsLength) := by
  unfold Reaches; infer_instance

instance (env : Env) (b : Pbuf) : Decidable (Deliverable env b) := by
  unfold Deliverable; infer_instance

/-- Such a message arrives: in a datagram, or on a connection. -/
def Arrives (s : Main) (e : MainEvent) : Prop :=
  match e.call with
  | .lwip (.udpRecv localPort b _ _) => localPort = 13400 ∧ Deliverable e.env b
  | .lwip (.tcpRecv tpcb b _) => tpcb ∈ s.tcp.registered ∧ Deliverable e.env b
  | _ => False

theorem not_delivery_of_tcp {o : Out} (h : IsTcp o) : ¬ IsDelivery o := by
  obtain ⟨_, _, rfl⟩ := h
  rintro (⟨_, h⟩ | ⟨_, h, -⟩ | ⟨_, h, -⟩) <;> cases h

theorem not_delivery_of_udp {o : Out} (h : IsUdp o) : ¬ IsDelivery o := by
  obtain ⟨_, _, _, rfl⟩ := h
  rintro (⟨_, h⟩ | ⟨_, h, -⟩ | ⟨_, h, -⟩) <;> cases h

theorem not_delivery_of_close {o : Out} (h : ∃ tpcb, o = .tcpClose tpcb) : ¬ IsDelivery o := by
  obtain ⟨_, rfl⟩ := h
  rintro (⟨_, h⟩ | ⟨_, h, -⟩ | ⟨_, h, -⟩) <;> cases h

/-- Outputs that are no deliveries do not count. -/
theorem not_delivers {P : Out → Prop} {s s' : Main} (hs : ¬ Delivers s)
    (h : ∀ o ∈ s'.out, o ∈ s.out ∨ P o) (hP : ∀ o, P o → ¬ IsDelivery o) : ¬ Delivers s' := by
  rintro ⟨o, ho, hd⟩
  rcases h o ho with hold | hnew
  · exact hs ⟨o, hold, hd⟩
  · exact hP o hnew hd

/-! ## The CAN transport -/

/-- A single frame leaves exactly when the request fits and the buffer is free. -/
theorem canTpTransmit_delivers_iff {canId : Nat} (hid : canId = 0x700 ∨ canId = 0x710)
    {s : Main} (hs : ¬ Delivers s) (udsData : Payload) (udsLength : Nat) :
    Delivers (canTpTransmit canId udsData udsLength s) ↔
      1 ≤ udsLength ∧ udsLength ≤ 7 ∧ s.env.canBusy canId = false := by
  rw [canTpTransmit]
  by_cases hlen : udsLength = 0 ∨ 7 < udsLength
  · rw [if_pos hlen]
    constructor
    · intro hd
      exact absurd hd hs
    · rintro ⟨hlo, hhi, -⟩
      omega
  · rw [if_neg hlen]
    rcases hbusy : s.env.canBusy canId with _ | _
    · simp only
      rw [canIfTransmit_free (by omega) (by decide) hbusy]
      refine iff_of_true ?_ ⟨by omega, by omega, trivial⟩
      refine ⟨_, List.mem_append_right _ (List.mem_singleton.mpr rfl), ?_⟩
      rcases hid with rfl | rfl
      · exact Or.inr (Or.inl ⟨_, rfl, rfl⟩)
      · exact Or.inr (Or.inr ⟨_, rfl, rfl⟩)
    · simp only
      rw [canIfTransmit_busy hbusy]
      exact iff_of_false hs (by simp)

/-- The routing of an acknowledged message. -/
theorem routeDiagnostic_delivers_iff {s : Main} (hs : ¬ Delivers s) (targetAddr : UInt16)
    (udsData : Payload) (udsLength : Nat) :
    Delivers (routeDiagnostic targetAddr udsData udsLength s) ↔
      Reaches s.env targetAddr udsLength := by
  rw [routeDiagnostic, Reaches]
  by_cases hmain : targetAddr = 0x0001
  · rw [if_pos hmain]
    refine iff_of_true ?_ (Or.inl hmain)
    exact ⟨_, udsProcessRx_called udsData udsLength s, Or.inl ⟨_, rfl⟩⟩
  · rw [if_neg hmain]
    by_cases hact : targetAddr = 0x0010
    · rw [if_pos hact, pduRRouteRx_doipAct, canTpTransmit_delivers_iff (Or.inl rfl) hs, hact]
      simp
    · rw [if_neg hact]
      by_cases hbody : targetAddr = 0x0020
      · rw [if_pos hbody, pduRRouteRx_doipBody, canTpTransmit_delivers_iff (Or.inr rfl) hs,
          hbody]
        simp
      · rw [if_neg hbody]
        exact iff_of_false hs (by simp [hmain, hact, hbody])

/-! ## DoIP -/

/-- **The DoIP layer delivers exactly the deliverable messages**, whoever sent them. -/
theorem doIPProcessRx_delivers_iff {s : Main} (hs : ¬ Delivers s) (b : Pbuf) :
    Delivers (doIPProcessRx b.payload b.len s) ↔ Deliverable s.env b := by
  by_cases hd : IsDiagnostic b.payload b.len
  · have hack : Emits IsTcp s
        (doIPSendDiagAck doipPort (targetAddr b.payload) (sourceAddr b.payload) 0x00 s) :=
      transmitArray_emits _ s
    have hno : ¬ Delivers
        (doIPSendDiagAck doipPort (targetAddr b.payload) (sourceAddr b.payload) 0x00 s) :=
      not_delivers hs (fun o ho => hack.mem ho) fun o => not_delivery_of_tcp
    rw [doIPProcessRx_diagnostic hd, routeDiagnostic_delivers_iff hno, hack.env]
    exact ⟨fun hr => ⟨hd, hr⟩, fun hdel => hdel.2⟩
  · have hquiet := (doIPProcessRx_quiet hd s).mem
    rw [activate_out] at hquiet
    have hno := not_delivers hs hquiet fun o ho => not_delivery_of_tcp ho.isTcp
    exact iff_of_false hno fun hdel => hd hdel.1

theorem udpReceiveRecv_delivers_iff {s : Main} (hs : ¬ Delivers s) (localPort : Nat) (b : Pbuf)
    (addr : IpAddr) (port : Nat) :
    Delivers (udpReceiveRecv localPort b addr port s) ↔
      localPort = 13400 ∧ Deliverable s.env b := by
  rw [udpReceiveRecv]
  by_cases hdoip : localPort = 13400
  · subst hdoip
    rw [soAdRxIndication_doip]
    refine Iff.trans (doIPProcessRx_delivers_iff ?_ b) ?_
    · exact hs
    · exact ⟨fun h => ⟨rfl, h⟩, fun h => h.2⟩
  · refine iff_of_false ?_ fun h => hdoip h.1
    by_cases hctr : localPort = 5000
    · subst hctr
      rw [soAdRxIndication_control]
      exact hs
    · by_cases hsomeip : localPort = 30492
      · subst hsomeip
        rw [soAdRxIndication_someip]
        exact not_delivers hs (someIpProcessRx_out _ _ _) fun o => not_delivery_of_udp
      · rw [soAdRxIndication_other hctr hsomeip hdoip]
        exact hs

/-! ## One call -/

/-- **A call delivers exactly when a deliverable message arrives in it.** -/
theorem delivers_iff (s : Main) (e : MainEvent) : Delivers (mainStep s e) ↔ Arrives s e := by
  obtain ⟨env, call⟩ := e
  have hs : ¬ Delivers (Main.enter env s) := by
    rintro ⟨o, ho, -⟩
    cases ho
  cases call with
  | lwip c =>
      cases c with
      | udpRecv localPort b addr port => exact udpReceiveRecv_delivers_iff hs localPort b addr port
      | tcpAccept newpcb => exact iff_of_false hs (fun h => h)
      | tcpRecv tpcb b rest =>
          -- a connection that is not registered has no receive callback
          show Delivers (if tpcb ∈ s.tcp.registered then _ else _) ↔
            tpcb ∈ s.tcp.registered ∧ Deliverable env b
          by_cases hreg : tpcb ∈ s.tcp.registered
          · rw [if_pos hreg]
            exact (doIPProcessRx_delivers_iff hs b).trans ⟨fun h => ⟨hreg, h⟩, fun h => h.2⟩
          · rw [if_neg hreg]
            exact iff_of_false hs fun h => hreg h.1
      | tcpFin tpcb =>
          refine iff_of_false ?_ (fun h => h)
          show ¬ Delivers (if tpcb ∈ s.tcp.registered then _ else _)
          split
          · apply not_delivers hs _ fun o => not_delivery_of_close
            intro o ho
            rw [tcpServerRecvFin_out] at ho
            exact (List.mem_append.mp ho).imp_right fun h => ⟨_, List.mem_singleton.mp h⟩
          · exact hs
      | tcpErr tpcb =>
          refine iff_of_false ?_ (fun h => h)
          show ¬ Delivers (if tpcb ∈ s.tcp.registered then _ else _)
          split
          · exact hs
          · exact hs
  | canRead m =>
      refine iff_of_false ?_ (fun h => h)
      apply not_delivers hs (canReadMessage_sends m _).mem
      rintro o (ho | ho)
      · exact not_delivery_of_tcp ho
      · exact not_delivery_of_udp ho
  | comTimeOut =>
      refine iff_of_false ?_ (fun h => h)
      show ¬ Delivers (comTimeOut (Main.enter env s))
      rw [Delivers, (comTimeOut_still _).2.1]
      exact hs
  | comTxMainFunction =>
      refine iff_of_false ?_ (fun h => h)
      apply not_delivers hs (comTxMainFunction_transmits _).mem
      rintro o ((rfl | rfl) | ho)
      · -- the command frames carry no diagnostic identifier
        rintro (⟨_, h⟩ | ⟨_, h, hid⟩ | ⟨_, h, hid⟩)
        · cases h
        · cases h
          exact absurd (show (0x100 : Nat) = 0x700 from hid) (by decide)
        · cases h
          exact absurd (show (0x100 : Nat) = 0x710 from hid) (by decide)
      · rintro (⟨_, h⟩ | ⟨_, h, hid⟩ | ⟨_, h, hid⟩)
        · cases h
        · cases h
          exact absurd (show (0x110 : Nat) = 0x700 from hid) (by decide)
        · cases h
          exact absurd (show (0x110 : Nat) = 0x710 from hid) (by decide)
      · exact not_delivery_of_udp ho
  | sdMainFunction =>
      refine iff_of_false ?_ (fun h => h)
      exact not_delivers hs (sdMainFunction_transmits _).mem fun o => not_delivery_of_udp
  | soAdMainFunction =>
      refine iff_of_false ?_ (fun h => h)
      exact not_delivers hs (soAdMainFunction_out _) fun o => not_delivery_of_close

/-! ## Activation -/

/-- The positive answer to the tester. -/
def activationAnswer : List UInt8 :=
  [0x02, 0xFD, 0x00, 0x06, 0, 0, 0, 9, 0x0E, 0x00, 0x00, 0x01, 0x10, 0, 0, 0, 0]

/-- A routing activation is granted on a connection, and lwIP takes the answer. -/
def grantedOn (s : Main) (e : MainEvent) : Option Pcb :=
  match e.call with
  | .lwip (.tcpRecv tpcb b _) =>
      if tpcb ∈ s.tcp.registered ∧ IsActivation b.payload b.len ∧ e.env.Takes activationAnswer
      then some tpcb else none
  | _ => none

/-- The open connection on which an activation has been granted. -/
def activatedAfter (s : Main) (activated : Option Pcb) (e : MainEvent) : Option Pcb :=
  ((grantedOn s e).or activated).filter
    fun pcb => decide ((mainStep s e).tcp.activePcb = some pcb)

/-- MAIN with that connection. -/
def gateStep (p : Main × Option Pcb) (e : MainEvent) : Main × Option Pcb :=
  (mainStep p.1 e, activatedAfter p.1 p.2 e)

/-- **A granted activation is answered with 0x10** on its connection. -/
theorem granted_answered {s : Main} (h : OneConnection s.tcp) {e : MainEvent} {tpcb : Pcb}
    (hg : grantedOn s e = some tpcb) : .tcp tpcb activationAnswer ∈ (mainStep s e).out := by
  obtain ⟨env, call⟩ := e
  cases call with
  | lwip c =>
      cases c with
      | tcpRecv pcb b rest =>
          simp only [grantedOn] at hg
          split at hg
          · rename_i hreq
            obtain ⟨hreg, ⟨hfits, htype, hlen, hsa⟩, htakes⟩ := hreq
            obtain rfl := Option.some.inj hg
            have hactive := (oneConnection_mem h).mp hreg
            show _ ∈ (if pcb ∈ s.tcp.registered then _ else _ : Main).out
            rw [if_pos hreg]
            show _ ∈ (doIPProcessRx b.payload b.len (Main.enter env s)).out
            rw [doIPProcessRx_fits hfits, doIPDispatch, if_neg (by simp [htype]), if_pos htype,
              doIPProcessRoutingActivation, if_neg (by omega)]
            simp only [hsa, if_true]
            -- the callback of the activation leaves the connection and its send buffer
            have htaker : (callbackDiagRoutingActivated (Main.enter env s)).taker
                activationAnswer = some pcb := by
              rw [callbackDiagRoutingActivated]
              split <;> exact taker_some.mpr ⟨htakes, hactive⟩
            have hne : activationAnswer ≠ [] := List.cons_ne_nil _ _
            show _ ∈ (transmitArray doipPort activationAnswer _).out
            rw [transmitArray_eq hne, write_taken htaker]
            exact List.mem_append_right _ (List.mem_singleton.mpr rfl)
          · cases hg
      | udpRecv localPort b addr port => cases hg
      | tcpAccept newpcb => cases hg
      | tcpFin pcb => cases hg
      | tcpErr pcb => cases hg
  | canRead m => cases hg
  | comTimeOut => cases hg
  | comTxMainFunction => cases hg
  | sdMainFunction => cases hg
  | soAdMainFunction => cases hg

/-! ## The gate -/

/-- What a call delivers comes from the activated connection, with the tester's address. -/
def FromActivated (p : Main × Option Pcb) (e : MainEvent) : Prop :=
  ∃ tpcb b rest, e.call = .lwip (.tcpRecv tpcb b rest) ∧ p.2 = some tpcb ∧
    sourceAddr b.payload = testerSourceAddress

/-- The rule, for one call. -/
def Gated (p : Main × Option Pcb) (e : MainEvent) : Prop :=
  Delivers (mainStep p.1 e) → FromActivated p e

/-- What the sender has to observe: no deliverable message in a datagram, and none on a
    connection that is not activated. -/
def Disciplined (p : Main × Option Pcb) (e : MainEvent) : Prop :=
  match e.call with
  | .lwip (.udpRecv localPort b _ _) => localPort = 13400 → ¬ Deliverable e.env b
  | .lwip (.tcpRecv tpcb b _) =>
      tpcb ∈ p.1.tcp.registered → p.2 ≠ some tpcb → ¬ Deliverable e.env b
  | _ => True

/-- **Step lemma.** -/
theorem gated_iff (p : Main × Option Pcb) (e : MainEvent) : Gated p e ↔ Disciplined p e := by
  rw [Gated, delivers_iff]
  obtain ⟨env, call⟩ := e
  cases call with
  | lwip c =>
      cases c with
      | udpRecv localPort b addr port =>
          -- nothing activates a UDP socket, so a delivery there breaks the gate
          constructor
          · intro h hport hdel
            obtain ⟨_, _, _, hcall, -⟩ := h ⟨hport, hdel⟩
            cases hcall
          · rintro h ⟨hport, hdel⟩
            exact absurd hdel (h hport)
      | tcpRecv tpcb b rest =>
          constructor
          · intro h hreg hne hdel
            obtain ⟨pcb, _, _, hcall, hactivated, -⟩ := h ⟨hreg, hdel⟩
            cases hcall
            exact hne hactivated
          · rintro h ⟨hreg, hdel⟩
            have hactivated : p.2 = some tpcb := by
              by_contra hne
              exact h hreg hne hdel
            exact ⟨tpcb, b, rest, rfl, hactivated, hdel.1.2.2.2.1⟩
      | tcpAccept newpcb => exact iff_of_true (fun h => h.elim) trivial
      | tcpFin tpcb => exact iff_of_true (fun h => h.elim) trivial
      | tcpErr tpcb => exact iff_of_true (fun h => h.elim) trivial
  | canRead m => exact iff_of_true (fun h => h.elim) trivial
  | comTimeOut => exact iff_of_true (fun h => h.elim) trivial
  | comTxMainFunction => exact iff_of_true (fun h => h.elim) trivial
  | sdMainFunction => exact iff_of_true (fun h => h.elim) trivial
  | soAdMainFunction => exact iff_of_true (fun h => h.elim) trivial

/-- What counts as an activation was answered with 0x10 on its connection. -/
def GrantAnswered (p : Main × Option Pcb) (e : MainEvent) : Prop :=
  ∀ tpcb, grantedOn p.1 e = some tpcb → .tcp tpcb activationAnswer ∈ (mainStep p.1 e).out

/-- **Routing activation gates diagnostics** in exactly those runs in which no deliverable
    message arrives as a datagram or on a connection that is not activated; in every run the
    activations are those that were answered with 0x10. -/
theorem routing_gate_iff (es : List MainEvent) :
    (AllSteps gateStep Gated (mainReset, none) es ↔
      AllSteps gateStep Disciplined (mainReset, none) es) ∧
    AllSteps gateStep GrantAnswered (mainReset, none) es := by
  constructor
  · exact allSteps_iff (fun _ => True) (fun _ _ _ _ => trivial) (fun p e _ => gated_iff p e)
      trivial
  · have hall : AllSteps gateStep (fun _ _ => True) (mainReset, none) es :=
      allSteps_of_mem fun _ _ _ => trivial
    have hreset : OneConnection mainReset.tcp := rfl
    exact allSteps_guarded (fun p : Main × Option Pcb => OneConnection p.1.tcp)
      (fun p e hone _ => oneConnection_step hone e)
      (fun p e hone _ tpcb hg => granted_answered hone hg) hreset hall

/-- **Nothing is gated**: a session request is delivered on a fresh connection, and in a
    datagram with no connection at all. -/
theorem routing_gate_open :
    Out.uds [0x10, 0x03] ∈ (mainRun
      [⟨freeEnv 10, .lwip (.tcpAccept 1)⟩,
       ⟨freeEnv 20, .lwip (.tcpRecv 1 sessionRequest [])⟩]).out ∧
    Out.uds [0x10, 0x03] ∈ (mainRun
      [⟨freeEnv 10, .lwip (.udpRecv 13400 sessionRequest ⟨192, 168, 10, 1⟩ 40000)⟩]).out := by
  decide +kernel

end RoutingGate
