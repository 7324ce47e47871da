import RemoteVehicle.MainFrameProofs

/-!
# The deferred close and the connection it was meant for

A message that DoIP refuses asks for its socket to be closed; `SoAd_MainFunction` does so
50 ms later.  The request is a flag and a time, without the connection.  Connections are
numbered here in the order of their acceptance (lwIP may use one pcb twice), and a `Ledger`
beside MAIN notes which one is open and on which one the message behind the last request
arrived.

`ClosesOffender` says of a call that the close it executes acts on the open connection,
that this is the offending one, and that there is one.  Two kinds of steps spoil it: a
refused message in a datagram, which has no connection, and the end of the connection by
the peer while its close is pending.  `deferred_close_iff` shows that these are all: a
run in which no close acts wrongly, whenever it may come, is a run of `Kept` steps.
-/

namespace DeferredClose

open Runs CanFrame MainState MainTransmit MainDcm MainCom MainRouting MainDoip MainTcp MainLoop
open MainSpec MainFrame

/-! ## Close requests -/

/-- A message that is refused together with its socket. -/
def AsksToClose (payload : Payload) (length : Nat) : Prop :=
  8 ≤ length ∧ (¬ HeaderFits payload length ∨
    ((payloadType payload = 0x8001 ∧ 12 ≤ length ∨ payloadType payload = 0x0005 ∧ 15 ≤ length) ∧
      sourceAddr payload ≠ testerSourceAddress))

instance (payload : Payload) (length : Nat) : Decidable (AsksToClose payload length) := by
  unfold AsksToClose; infer_instance

/-- A request made now. -/
def SoAd.requested (now : UInt32) : SoAd := ⟨true, now⟩

theorem transmitArray_soad (txBuf : List UInt8) (s : Main) :
    (transmitArray doipPort txBuf s).soad = s.soad := (transmitArray_emits txBuf s).soad

/-- A reply and a close request. -/
theorem refuse_soad (txBuf : List UInt8) (s : Main) :
    (soAdCloseSocket doipPort (transmitArray doipPort txBuf s)).soad =
      SoAd.requested (getSystemTimeMs s) := by
  have henv := (transmitArray_emits txBuf s).env
  show SoAd.requested (getSystemTimeMs (transmitArray doipPort txBuf s)) = _
  rw [getSystemTimeMs, henv, ← getSystemTimeMs]

theorem answers_soad {s s' : Main} (h : Answers s s') : s'.soad = s.soad := by
  obtain ⟨_, h⟩ := h
  exact h.soad

theorem routeDiagnostic_soad (targetAddr : UInt16) (udsData : Payload) (udsLength : Nat)
    (s : Main) : (routeDiagnostic targetAddr udsData udsLength s).soad = s.soad := by
  rw [routeDiagnostic]
  split
  · exact answers_soad (udsProcessRx_answers udsData udsLength s)
  · split
    · exact (canTpTransmit_emits 0x700 udsData udsLength s).soad
    · split
      · exact (canTpTransmit_emits 0x710 udsData udsLength s).soad
      · rfl

/-- The source address of a diagnostic message decides. -/
theorem processDiagnostic_soad (payload : Payload) (length : Nat) (s : Main) :
    (doIPProcessDiagnostic doipPort payload length s).soad =
      if 12 ≤ length ∧ sourceAddr payload ≠ testerSourceAddress then
        SoAd.requested (getSystemTimeMs s)
      else s.soad := by
  rw [doIPProcessDiagnostic]
  split
  · rename_i hlen
    rw [if_neg fun h => absurd h.1 (by omega)]
  · rename_i hlen
    by_cases hsa : sourceAddr payload = testerSourceAddress
    · have hreg : doIPIsRegisteredSA doipPort (sourceAddr payload) = true := by
        simp [doIPIsRegisteredSA, hsa]
      have hno : ¬ (12 ≤ length ∧ sourceAddr payload ≠ testerSourceAddress) := fun h => h.2 hsa
      rw [if_neg (by simp [hreg]), if_neg hno]
      split
      · exact transmitArray_soad _ s
      · simp only [routeDiagnostic_soad]
        exact transmitArray_soad _ s
    · have hreg : doIPIsRegisteredSA doipPort (sourceAddr payload) = false := by
        simp [doIPIsRegisteredSA, hsa]
      rw [if_pos hreg, if_pos ⟨by omega, hsa⟩]
      exact refuse_soad _ s

/-- So does that of an activation request. -/
theorem routingActivation_soad (payload : Payload) (length : Nat) (s : Main) :
    (doIPProcessRoutingActivation doipPort payload length s).soad =
      if 15 ≤ length ∧ sourceAddr payload ≠ testerSourceAddress then
        SoAd.requested (getSystemTimeMs s)
      else s.soad := by
  rw [doIPProcessRoutingActivation]
  split
  · rename_i hlen
    rw [if_neg fun h => absurd h.1 (by omega)]
  · rename_i hlen
    simp only
    split
    · rename_i hsa
      rw [if_neg fun h => h.2 hsa]
      have hcallback : (callbackDiagRoutingActivated s).soad = s.soad := by
        rw [callbackDiagRoutingActivated]
        split <;> rfl
      exact (transmitArray_soad _ _).trans hcallback
    · rename_i hsa
      rw [if_pos ⟨by omega, hsa⟩]
      exact refuse_soad _ s

/-- **A DoIP buffer** notes a close request exactly when it is refused with its socket. -/
theorem doIPProcessRx_soad (payload : Payload) (length : Nat) (s : Main) :
    (doIPProcessRx payload length s).soad =
      if AsksToClose payload length then SoAd.requested (getSystemTimeMs s) else s.soad := by
  by_cases hlen : length < 8
  · rw [doIPProcessRx_short hlen, if_neg fun h => absurd h.1 (by omega)]
  · have hlen : 8 ≤ length := Nat.not_lt.mp hlen
    by_cases hfits : HeaderFits payload length
    · rw [doIPProcessRx_fits hfits, doIPDispatch]
      have hasks : AsksToClose payload length ↔
          (payloadType payload = 0x8001 ∧ 12 ≤ length ∨
            payloadType payload = 0x0005 ∧ 15 ≤ length) ∧
          sourceAddr payload ≠ testerSourceAddress := by
        simp [AsksToClose, hlen, hfits]
      -- both payload types can ask for the close, never at once
      have htypes : (0x8001 : UInt16) ≠ 0x0005 := by decide
      split
      · rename_i htype
        rw [processDiagnostic_soad]
        simp only [hasks, htype, htypes, true_and, false_and, or_false]
      · rename_i hdiag
        split
        · rename_i htype
          rw [routingActivation_soad]
          simp only [hasks, htype, htypes.symm, true_and, false_and, false_or]
        · rename_i hact
          rw [if_neg (by simp [hasks, hdiag, hact])]
          exact transmitArray_soad _ s
    · -- a header that does not fit the buffer is refused with the socket
      rw [doIPProcessRx_misfit hlen hfits, if_pos ⟨hlen, Or.inl hfits⟩]
      exact refuse_soad _ s

theorem someIpProcessRx_soad (payload : Payload) (length : Nat) (s : Main) :
    (someIpProcessRx payload length s).soad = s.soad := by
  rw [someIpProcessRx]
  split
  · have hport : 30492 ≠ 13400 := by decide
    simp only [someIpSendResponse, pduRRouteTx_someip]
    exact (soAdIfTransmit_udp hport _ _ _).soad
  · rfl

/-- A close request by datagram. -/
def UdpAsks (localPort : Nat) (p : Pbuf) : Prop :=
  localPort = 13400 ∧ AsksToClose p.payload p.len

instance (localPort : Nat) (p : Pbuf) : Decidable (UdpAsks localPort p) := by
  unfold UdpAsks; infer_instance

theorem udpReceiveRecv_soad (localPort : Nat) (p : Pbuf) (addr : IpAddr) (port : Nat)
    (s : Main) :
    (udpReceiveRecv localPort p addr port s).soad =
      if UdpAsks localPort p then SoAd.requested (getSystemTimeMs s) else s.soad := by
  rw [udpReceiveRecv]
  by_cases hctr : localPort = 5000
  · subst hctr
    have hno : ¬ UdpAsks 5000 p := fun h => absurd h.1 (by decide)
    rw [soAdRxIndication_control, if_neg hno]
    rfl
  · by_cases hsomeip : localPort = 30492
    · subst hsomeip
      have hno : ¬ UdpAsks 30492 p := fun h => absurd h.1 (by decide)
      rw [soAdRxIndication_someip, someIpProcessRx_soad, if_neg hno]
    · by_cases hdoip : localPort = 13400
      · subst hdoip
        rw [soAdRxIndication_doip, doIPProcessRx_soad]
        simp only [UdpAsks, true_and]
        rfl
      · have hno : ¬ UdpAsks localPort p := fun h => hdoip h.1
        rw [soAdRxIndication_other hctr hsomeip hdoip, if_neg hno]

theorem canReadMessage_soad (m : CanRx) (s : Main) :
    (canReadMessage m.messageId m.dataLengthCode m.messageData s).soad = s.soad := by
  rw [canReadMessage, canIfRxIndication]
  rcases route_cases canIfRxTable m.messageId with ⟨f, hf, hr⟩ | hr
  · rw [hr]
    simp only [canIfRxTable, List.mem_cons, Prod.mk.injEq, List.not_mem_nil, or_false] at hf
    rcases hf with ⟨-, rfl⟩ | ⟨-, rfl⟩ | ⟨-, rfl⟩ | ⟨-, rfl⟩ | ⟨-, rfl⟩
    · rw [pduRRouteRx_canStatus]
      rfl
    · rw [pduRRouteRx_canEvent]
      exact (soAdIfTransmit_udp (by decide) _ _ s).soad
    · rw [pduRRouteRx_canBody]
      rfl
    · exact (canTpRxIndication_emits _ _ s).soad
    · exact (canTpRxIndication_emits _ _ s).soad
  · rw [hr]

/-- A close request on a connection. -/
def TcpAsks (s : Main) (tpcb : Pcb) (p : Pbuf) : Prop :=
  tpcb ∈ s.tcp.registered ∧ AsksToClose p.payload p.len

instance (s : Main) (tpcb : Pcb) (p : Pbuf) : Decidable (TcpAsks s tpcb p) := by
  unfold TcpAsks; infer_instance

/-- The request after a call. -/
def soadAfter (s : Main) (e : MainEvent) : SoAd :=
  match e.call with
  | .lwip (.udpRecv localPort p _ _) =>
      if UdpAsks localPort p then SoAd.requested (UInt32.ofNat e.env.now) else s.soad
  | .lwip (.tcpRecv tpcb p _) =>
      if TcpAsks s tpcb p then SoAd.requested (UInt32.ofNat e.env.now) else s.soad
  | .soAdMainFunction =>
      if CloseDue (Main.enter e.env s) then { s.soad with isClosePending := false } else s.soad
  | _ => s.soad

/-- **A call does to the close request what `soadAfter` says.** -/
theorem soad_step (s : Main) (e : MainEvent) : (mainStep s e).soad = soadAfter s e := by
  obtain ⟨env, call⟩ := e
  cases call with
  | lwip c =>
      cases c with
      | udpRecv localPort p addr port => exact udpReceiveRecv_soad localPort p addr port _
      | tcpAccept newpcb => rfl
      | tcpRecv tpcb p rest =>
          show (if tpcb ∈ s.tcp.registered then tcpServerRecvData p rest (Main.enter env s)
            else Main.enter env s).soad = if TcpAsks s tpcb p then _ else _
          split
          · rename_i hreg
            have hasks : TcpAsks s tpcb p ↔ AsksToClose p.payload p.len := by
              simp [TcpAsks, hreg]
            simp only [hasks]
            exact doIPProcessRx_soad p.payload p.len _
          · rename_i hreg
            rw [if_neg fun h => hreg h.1]
            rfl
      | tcpFin tpcb =>
          show (if tpcb ∈ s.tcp.registered then tcpServerRecvFin tpcb (Main.enter env s)
            else Main.enter env s).soad = s.soad
          split
          · rw [tcpServerRecvFin, callbackDiagRoutingDeactivated]
            split <;> rfl
          · rfl
      | tcpErr tpcb =>
          show (if tpcb ∈ s.tcp.registered then tcpServerError tpcb (Main.enter env s)
            else Main.enter env s).soad = s.soad
          split <;> rfl
  | canRead m => exact canReadMessage_soad m _
  | comTimeOut => exact (comTimeOut_still _).2.2
  | comTxMainFunction => exact (comTxMainFunction_transmits _).soad
  | sdMainFunction => exact (sdMainFunction_transmits _).soad
  | soAdMainFunction =>
      show (soAdMainFunction (Main.enter env s)).soad =
        if CloseDue (Main.enter env s) then _ else _
      rw [soAdMainFunction]
      split <;> rfl

/-! ## Connections by number -/

/-- How many connections were accepted, which one is open, and on which one the message
    behind the last close request arrived. -/
structure Ledger where
  accepted : Nat
  current : Option Nat
  offender : Option Nat
deriving DecidableEq, Repr

def Ledger.empty : Ledger := ⟨0, none, none⟩

/-- A connection is accepted and becomes the active one. -/
def Opens (s : Main) (e : MainEvent) : Prop :=
  s.tcp.activePcb = none ∧ (mainStep s e).tcp.activePcb ≠ none

instance (s : Main) (e : MainEvent) : Decidable (Opens s e) := by
  unfold Opens; infer_instance

/-- The number of the open connection after a call. -/
def currentAfter (s : Main) (l : Ledger) (e : MainEvent) : Option Nat :=
  if Opens s e then some (l.accepted + 1)
  else if (mainStep s e).tcp.activePcb = none then none
  else l.current

/-- The connection of the last offending message; a datagram has none. -/
def offenderAfter (s : Main) (l : Ledger) (e : MainEvent) : Option Nat :=
  match e.call with
  | .lwip (.udpRecv localPort p _ _) => if UdpAsks localPort p then none else l.offender
  | .lwip (.tcpRecv tpcb p _) => if TcpAsks s tpcb p then l.current else l.offender
  | _ => l.offender

/-- MAIN with the numbers of its connections. -/
def ledgerStep (p : Main × Ledger) (e : MainEvent) : Main × Ledger :=
  (mainStep p.1 e,
   { accepted := if Opens p.1 e then p.2.accepted + 1 else p.2.accepted
     current := currentAfter p.1 p.2 e
     offender := offenderAfter p.1 p.2 e })

/-- What `SoAd_MainFunction` closes is the open connection, and it is the one on which the
    offending message arrived: not a later one, and not a null pointer. -/
def ClosesOffender (p : Main × Ledger) (e : MainEvent) : Prop :=
  e.call = .soAdMainFunction → ∀ tpcb, .tcpClose tpcb ∈ (mainStep p.1 e).out →
    ∃ pcb n, tpcb = some pcb ∧ p.1.tcp.activePcb = some pcb ∧
      p.2.current = some n ∧ p.2.offender = some n

/-- What must not happen: a refused message in a datagram, or the end of the connection by
    the peer while a close is pending. -/
def Kept (s : Main) (e : MainEvent) : Prop :=
  match e.call with
  | .lwip (.udpRecv localPort p _ _) => ¬ UdpAsks localPort p
  | .lwip (.tcpFin tpcb) => tpcb ∈ s.tcp.registered → s.soad.isClosePending = false
  | .lwip (.tcpErr tpcb) => tpcb ∈ s.tcp.registered → s.soad.isClosePending = false
  | _ => True

instance (s : Main) (e : MainEvent) : Decidable (Kept s e) := by
  unfold Kept
  split <;> infer_instance

/-! ## Aim -/

/-- A pending close is meant for the open connection. -/
def Aimed (p : Main × Ledger) : Prop :=
  p.1.soad.isClosePending = true → ∃ n, p.2.current = some n ∧ p.2.offender = some n

/-- There is one connection at most, and it has a number. -/
structure Numbered (p : Main × Ledger) : Prop where
  one : OneConnection p.1.tcp
  current : p.2.current = none ↔ p.1.tcp.activePcb = none

theorem numbered_step {p : Main × Ledger} (h : Numbered p) (e : MainEvent) :
    Numbered (ledgerStep p e) := by
  refine ⟨oneConnection_step h.one e, ?_⟩
  show currentAfter p.1 p.2 e = none ↔ (mainStep p.1 e).tcp.activePcb = none
  rw [currentAfter]
  split
  · rename_i hopens
    simp [hopens.2]
  · rename_i hopens
    split
    · rename_i hnone
      simp [hnone]
    · rename_i hsome
      -- neither opened nor closed: there was a connection before
      have hbefore : p.1.tcp.activePcb ≠ none := fun hb => hopens ⟨hb, hsome⟩
      rw [h.current]
      simp [hbefore, hsome]

/-- What the deferred close hands out. -/
theorem soAdMainFunction_close (s : Main) (env : Env) (tpcb : Option Pcb) :
    .tcpClose tpcb ∈ (mainStep s ⟨env, .soAdMainFunction⟩).out ↔
      CloseDue (Main.enter env s) ∧ tpcb = s.tcp.activePcb := by
  show _ ∈ (soAdMainFunction (Main.enter env s)).out ↔ _
  rw [soAdMainFunction]
  split
  · rename_i hdue
    show _ ∈ [] ++ [Out.tcpClose s.tcp.activePcb] ↔ _
    simp [hdue]
  · rename_i hdue
    simp [hdue]

/-- From an aimed state, a close acts on the offending connection. -/
theorem closesOffender_of_aimed {p : Main × Ledger} (h : Aimed p) (hn : Numbered p)
    (e : MainEvent) : ClosesOffender p e := by
  obtain ⟨env, call⟩ := e
  rintro rfl tpcb hclose
  obtain ⟨hdue, rfl⟩ := (soAdMainFunction_close p.1 env tpcb).mp hclose
  obtain ⟨n, hcurrent, hoffender⟩ := h hdue.1
  obtain ⟨pcb, hpcb⟩ := Option.ne_none_iff_exists'.mp fun hnone => by
    have hgone := hn.current.mpr hnone
    rw [hcurrent] at hgone
    cases hgone
  exact ⟨pcb, n, hpcb, hpcb, hcurrent, hoffender⟩

/-- The clock 50 ms after a time stamp. -/
theorem stamp_later (t : UInt32) : 50 ≤ UInt32.ofNat (t.toNat + 50) - t := by
  have hstamp : UInt32.ofNat (t.toNat + 50) - t = 50 := by
    rw [UInt32.ofNat_add, UInt32.ofNat_toNat]
    grind
  rw [hstamp]
  decide

/-- **Aim is what the close needs**, whenever it may come. -/
theorem aimed_iff {p : Main × Ledger} (hn : Numbered p) :
    Aimed p ↔ ∀ env, ClosesOffender p ⟨env, .soAdMainFunction⟩ := by
  constructor
  · intro h env
    exact closesOffender_of_aimed h hn _
  · intro h hpending
    let env : Env := { p.1.env with now := p.1.soad.closeRequestTime.toNat + 50 }
    have hdue : CloseDue (Main.enter env p.1) := ⟨hpending, stamp_later _⟩
    obtain ⟨_, n, -, -, hcurrent, hoffender⟩ := h env rfl p.1.tcp.activePcb
      ((soAdMainFunction_close p.1 env _).mpr ⟨hdue, rfl⟩)
    exact ⟨n, hcurrent, hoffender⟩

/-! ## Step and run -/

section Steps

variable {p : Main × Ledger} {e : MainEvent}

/-- The number stays while the active connection does. -/
theorem current_keep (hn : Numbered p)
    (htcp : (mainStep p.1 e).tcp.activePcb = p.1.tcp.activePcb) :
    currentAfter p.1 p.2 e = p.2.current := by
  have hno : ¬ Opens p.1 e := by
    rintro ⟨hbefore, hafter⟩
    exact hafter (htcp.trans hbefore)
  rw [currentAfter, if_neg hno]
  split
  · rename_i hnone
    exact (hn.current.mpr (htcp ▸ hnone)).symm
  · rfl

/-- A call that leaves request, connection and offender keeps the aim. -/
theorem aimed_keep (h : Aimed p) (hn : Numbered p)
    (htcp : (mainStep p.1 e).tcp.activePcb = p.1.tcp.activePcb)
    (hsoad : soadAfter p.1 e = p.1.soad) (hoffender : offenderAfter p.1 p.2 e = p.2.offender) :
    Aimed (ledgerStep p e) := by
  intro hpending
  have hpending : (mainStep p.1 e).soad.isClosePending = true := hpending
  rw [soad_step, hsoad] at hpending
  obtain ⟨n, hcur, hoff⟩ := h hpending
  exact ⟨n, (current_keep hn htcp).trans hcur, hoffender.trans hoff⟩

/-- When the connection goes and the request stays, the aim needs that there is none. -/
theorem aimed_gone (htcp : (mainStep p.1 e).tcp.activePcb = none)
    (hsoad : soadAfter p.1 e = p.1.soad) :
    Aimed (ledgerStep p e) ↔ p.1.soad.isClosePending = false := by
  have hcurrent : currentAfter p.1 p.2 e = none := by
    rw [currentAfter, if_neg fun hopens => hopens.2 htcp, if_pos htcp]
  have hpending : (mainStep p.1 e).soad = p.1.soad := (soad_step p.1 e).trans hsoad
  constructor
  · intro h
    by_contra hne
    have hset : (mainStep p.1 e).soad.isClosePending = true := by
      rw [hpending]
      simpa using hne
    obtain ⟨n, hcur, -⟩ := h hset
    have hcur : currentAfter p.1 p.2 e = some n := hcur
    rw [hcurrent] at hcur
    cases hcur
  · intro hclear hset
    have hset : (mainStep p.1 e).soad.isClosePending = true := hset
    rw [hpending, hclear] at hset
    cases hset

/-- So the end of a connection spoils the aim exactly when it was the one of the request. -/
theorem aimed_ended_iff (h : Aimed p) (hn : Numbered p) {tpcb : Pcb}
    (hgone : tpcb ∈ p.1.tcp.registered → (mainStep p.1 e).tcp.activePcb = none)
    (hstays : tpcb ∉ p.1.tcp.registered →
      (mainStep p.1 e).tcp.activePcb = p.1.tcp.activePcb)
    (hsoad : soadAfter p.1 e = p.1.soad) (hoffender : offenderAfter p.1 p.2 e = p.2.offender) :
    Aimed (ledgerStep p e) ↔
      (tpcb ∈ p.1.tcp.registered → p.1.soad.isClosePending = false) := by
  by_cases hreg : tpcb ∈ p.1.tcp.registered
  · rw [aimed_gone (hgone hreg) hsoad]
    exact ⟨fun hclear _ => hclear, fun hkept => hkept hreg⟩
  · refine iff_of_true ?_ fun hr => absurd hr hreg
    exact aimed_keep h hn (hstays hreg) hsoad hoffender

end Steps

section Calls

variable {p : Main × Ledger} {env : Env}

/-- A datagram spoils the aim exactly when it is refused with its socket. -/
theorem aimed_udp_iff (h : Aimed p) (hn : Numbered p) (localPort : Nat) (b : Pbuf)
    (addr : IpAddr) (port : Nat) :
    Aimed (ledgerStep p ⟨env, .lwip (.udpRecv localPort b addr port)⟩) ↔
      ¬ UdpAsks localPort b := by
  by_cases hasks : UdpAsks localPort b
  · refine iff_of_false ?_ (not_not.mpr hasks)
    intro haimed
    have hset : (mainStep p.1 ⟨env, .lwip (.udpRecv localPort b addr port)⟩).soad =
        SoAd.requested (UInt32.ofNat env.now) := by
      rw [soad_step]
      exact if_pos hasks
    obtain ⟨n, -, hoffender⟩ := haimed (congrArg SoAd.isClosePending hset)
    have hnone : offenderAfter p.1 p.2 ⟨env, .lwip (.udpRecv localPort b addr port)⟩ = none :=
      if_pos hasks
    cases hnone.symm.trans hoffender
  · refine iff_of_true ?_ hasks
    apply aimed_keep h hn
    · rw [tcp_step]
      rfl
    · exact if_neg hasks
    · exact if_neg hasks

/-- A connection is accepted only when none is open, and then no close is pending. -/
theorem aimed_tcpAccept (h : Aimed p) (hn : Numbered p) (newpcb : Pcb) :
    Aimed (ledgerStep p ⟨env, .lwip (.tcpAccept newpcb)⟩) := by
  rcases ha : p.1.tcp.activePcb with _ | pcb
  · intro hpending
    have hpending : (mainStep p.1 ⟨env, .lwip (.tcpAccept newpcb)⟩).soad.isClosePending =
        true := hpending
    rw [soad_step] at hpending
    obtain ⟨n, hcurrent, -⟩ := h hpending
    rw [hn.current.mpr ha] at hcurrent
    cases hcurrent
  · apply aimed_keep h hn
    · rw [tcp_step]
      exact congrArg Tcp.activePcb (accept_some ha)
    · rfl
    · rfl

/-- A refused message on the connection makes it the offender. -/
theorem aimed_tcpRecv (h : Aimed p) (hn : Numbered p) (tpcb : Pcb) (b : Pbuf)
    (rest : List Pbuf) : Aimed (ledgerStep p ⟨env, .lwip (.tcpRecv tpcb b rest)⟩) := by
  have htcp : (mainStep p.1 ⟨env, .lwip (.tcpRecv tpcb b rest)⟩).tcp.activePcb =
      p.1.tcp.activePcb := by
    rw [tcp_step]
    rfl
  by_cases hasks : TcpAsks p.1 tpcb b
  · intro _
    have hactive := (oneConnection_mem hn.one).mp hasks.1
    obtain ⟨n, hcurrent⟩ := Option.ne_none_iff_exists'.mp fun hnone => by
      have hgone := hn.current.mp hnone
      rw [hactive] at hgone
      cases hgone
    have hoffender : offenderAfter p.1 p.2 ⟨env, .lwip (.tcpRecv tpcb b rest)⟩ = p.2.current :=
      if_pos hasks
    exact ⟨n, (current_keep hn htcp).trans hcurrent, hoffender.trans hcurrent⟩
  · exact aimed_keep h hn htcp (if_neg hasks) (if_neg hasks)

/-- A FIN or a reset spoils the aim exactly when a close is pending. -/
theorem aimed_tcpFin_iff (h : Aimed p) (hn : Numbered p) (tpcb : Pcb) :
    Aimed (ledgerStep p ⟨env, .lwip (.tcpFin tpcb)⟩) ↔
      (tpcb ∈ p.1.tcp.registered → p.1.soad.isClosePending = false) := by
  refine aimed_ended_iff h hn (fun hreg => ?_) (fun hreg => ?_) rfl rfl
  · have hclose := close_active hn.one
    rw [(oneConnection_mem hn.one).mp hreg] at hclose
    rw [tcp_step]
    simp only [tcpAfter]
    rw [if_pos hreg, hclose]
  · rw [tcp_step]
    exact congrArg Tcp.activePcb (if_neg hreg)

theorem aimed_tcpErr_iff (h : Aimed p) (hn : Numbered p) (tpcb : Pcb) :
    Aimed (ledgerStep p ⟨env, .lwip (.tcpErr tpcb)⟩) ↔
      (tpcb ∈ p.1.tcp.registered → p.1.soad.isClosePending = false) := by
  refine aimed_ended_iff h hn (fun hreg => ?_) (fun hreg => ?_) rfl rfl
  · rw [tcp_step]
    simp only [tcpAfter]
    rw [if_pos hreg, drop_active hn.one ((oneConnection_mem hn.one).mp hreg)]
  · rw [tcp_step]
    exact congrArg Tcp.activePcb (if_neg hreg)

/-- The deferred close takes the request back. -/
theorem aimed_soAd (h : Aimed p) (hn : Numbered p) :
    Aimed (ledgerStep p ⟨env, .soAdMainFunction⟩) := by
  by_cases hdue : CloseDue (Main.enter env p.1)
  · intro hpending
    have hpending : (mainStep p.1 ⟨env, .soAdMainFunction⟩).soad.isClosePending = true :=
      hpending
    rw [soad_step] at hpending
    simp only [soadAfter] at hpending
    rw [if_pos hdue] at hpending
    cases hpending
  · apply aimed_keep h hn
    · rw [tcp_step]
      exact congrArg Tcp.activePcb (if_neg hdue)
    · exact if_neg hdue
    · rfl

end Calls

/-- **Step lemma.**  From an aimed state, a call leads to an aimed state exactly when it is
    kept. -/
theorem aimed_step_iff {p : Main × Ledger} (h : Aimed p) (hn : Numbered p) (e : MainEvent) :
    Aimed (ledgerStep p e) ↔ Kept p.1 e := by
  obtain ⟨env, call⟩ := e
  -- the calls that touch neither the request nor the connections
  have hkeep : ∀ call, (mainStep p.1 ⟨env, call⟩).tcp = p.1.tcp →
      soadAfter p.1 ⟨env, call⟩ = p.1.soad →
      offenderAfter p.1 p.2 ⟨env, call⟩ = p.2.offender → Aimed (ledgerStep p ⟨env, call⟩) :=
    fun call htcp hsoad hoff => aimed_keep h hn (congrArg Tcp.activePcb htcp) hsoad hoff
  cases call with
  | lwip c =>
      cases c with
      | udpRecv localPort b addr port => exact aimed_udp_iff h hn localPort b addr port
      | tcpAccept newpcb => exact iff_of_true (aimed_tcpAccept h hn newpcb) trivial
      | tcpRecv tpcb b rest => exact iff_of_true (aimed_tcpRecv h hn tpcb b rest) trivial
      | tcpFin tpcb => exact aimed_tcpFin_iff h hn tpcb
      | tcpErr tpcb => exact aimed_tcpErr_iff h hn tpcb
  | canRead m => exact iff_of_true (hkeep _ (tcp_step _ _) rfl rfl) trivial
  | comTimeOut => exact iff_of_true (hkeep _ (tcp_step _ _) rfl rfl) trivial
  | comTxMainFunction => exact iff_of_true (hkeep _ (tcp_step _ _) rfl rfl) trivial
  | sdMainFunction => exact iff_of_true (hkeep _ (tcp_step _ _) rfl rfl) trivial
  | soAdMainFunction => exact iff_of_true (aimed_soAd h hn) trivial

/-- The state after a step is one from which no close can act wrongly, and a close executed
    in the step did not. -/
def Targeted (p : Main × Ledger) (e : MainEvent) : Prop :=
  ClosesOffender p e ∧ ∀ env, ClosesOffender (ledgerStep p e) ⟨env, .soAdMainFunction⟩

theorem targeted_iff {p : Main × Ledger} (h : Aimed p) (hn : Numbered p) (e : MainEvent) :
    Targeted p e ↔ Kept p.1 e := by
  rw [Targeted, ← aimed_iff (numbered_step hn e), aimed_step_iff h hn e]
  exact ⟨fun ht => ht.2, fun hk => ⟨closesOffender_of_aimed h hn e, hk⟩⟩

/-- **The deferred close hits the offending connection.**  In every run, every close that
    `SoAd_MainFunction` executes acts on the open connection, on which the offending message
    arrived, and so would one executed at any time after any step, if and only if every step
    of the run is kept. -/
theorem deferred_close_iff (es : List MainEvent) :
    AllSteps ledgerStep Targeted (mainReset, Ledger.empty) es ↔
      AllSteps ledgerStep (fun p e => Kept p.1 e) (mainReset, Ledger.empty) es := by
  apply allSteps_iff fun p => Aimed p ∧ Numbered p
  · intro p e hp htargeted
    exact ⟨(aimed_iff (numbered_step hp.2 e)).mpr htargeted.2, numbered_step hp.2 e⟩
  · intro p e hp
    exact targeted_iff hp.1 hp.2 e
  · refine ⟨?_, rfl, ?_⟩
    · intro hpending
      cases hpending
    · simp [mainReset, Ledger.empty]

/-- A message whose length field does not fit. -/
def misfitMessage : Pbuf := Pbuf.ofBytes [0x02, 0xFD, 0x80, 0x01, 0, 0, 0, 9] (by decide)

/-- A refused message, and the peer closes the connection itself. -/
def finBeforeClose : List MainEvent :=
  [⟨freeEnv 10, .lwip (.tcpAccept 1)⟩, ⟨freeEnv 20, .lwip (.tcpRecv 1 misfitMessage [])⟩,
   ⟨freeEnv 30, .lwip (.tcpFin 1)⟩]

/-- The tester connects again before the 50 ms are over. -/
def reconnect : List MainEvent := finBeforeClose ++ [⟨freeEnv 40, .lwip (.tcpAccept 2)⟩]

/-- A run whose last call executes a close that is not aimed. -/
private theorem not_closesOffender {es : List MainEvent} {e : MainEvent} {l : Ledger}
    {t : Option Pcb} (hcall : e.call = .soAdMainFunction)
    (hledger : (run ledgerStep (mainReset, Ledger.empty) es).2 = l)
    (hout : .tcpClose t ∈
      (mainStep (run ledgerStep (mainReset, Ledger.empty) es).1 e).out)
    (hne : l.current = none ∨ l.current ≠ l.offender) :
    ¬ AllSteps ledgerStep ClosesOffender (mainReset, Ledger.empty) (es ++ [e]) := by
  intro h
  obtain ⟨_, n, -, -, hcurrent, hoffender⟩ := (allSteps_append.mp h).2.1 hcall t hout
  rw [hledger] at hcurrent hoffender
  rcases hne with hnone | hne
  · cases hnone.symm.trans hcurrent
  · exact hne (hcurrent.trans hoffender.symm)

/-- **The close hits another connection, or a null pointer**: the new connection is closed,
    or nothing is there to be closed. -/
theorem deferred_close_fails :
    (¬ AllSteps ledgerStep ClosesOffender (mainReset, Ledger.empty)
      (reconnect ++ [⟨freeEnv 70, .soAdMainFunction⟩])) ∧
    (mainRun (reconnect ++ [⟨freeEnv 70, .soAdMainFunction⟩])).out = [.tcpClose (some 2)] ∧
    (¬ AllSteps ledgerStep ClosesOffender (mainReset, Ledger.empty)
      (finBeforeClose ++ [⟨freeEnv 70, .soAdMainFunction⟩])) ∧
    (mainRun (finBeforeClose ++ [⟨freeEnv 70, .soAdMainFunction⟩])).out = [.tcpClose none] := by
  refine ⟨?_, by decide +kernel, ?_, by decide +kernel⟩
  · apply not_closesOffender (l := ⟨2, some 2, some 1⟩) (t := some 2) rfl
    · decide +kernel
    · decide +kernel
    · decide
  · apply not_closesOffender (l := ⟨1, none, some 1⟩) (t := none) rfl
    · decide +kernel
    · decide +kernel
    · decide

end DeferredClose
