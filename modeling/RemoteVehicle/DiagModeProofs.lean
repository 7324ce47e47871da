import RemoteVehicle.MainFrameProofs

/-!
# Diagnostic mode and the connection that asked for it

A granted routing activation switches MAIN from remote to diagnostic mode; the mode should
last as long as the connection that asked for it.  `ownerStep` runs MAIN with the name of
that connection, and `Coherent` says that MAIN is in diagnostic mode exactly while the
connection is open.

Only the FIN of the peer ends the mode.  A reset and the deferred close leave it, an
activation by datagram starts it with no connection behind it, and a control packet
overwrites it.  `Undisturbed` excludes these four, and `diag_mode_coherent_iff` shows that
nothing else can go wrong: a run is coherent throughout exactly when every step of it is
undisturbed.
-/

namespace DiagMode

open Runs CanFrame MainState MainDcm MainCom MainTcp MainLoop MainSpec MainFrame

/-! ## The owner of the mode -/

/-- A routing activation is granted in remote mode. -/
def Enters (s : Main) (e : MainEvent) : Prop :=
  s.com.curMode = modeRemote ∧ relayOps s e = [.activated]

instance (s : Main) (e : MainEvent) : Decidable (Enters s e) := by
  unfold Enters; infer_instance

/-- The connection on which a call delivers data. -/
def connection : MainCall → Option Pcb
  | .lwip (.tcpRecv tpcb _ _) => some tpcb
  | _ => none

/-- The open connection that put MAIN into diagnostic mode, if there is one. -/
def ownerAfter (s : Main) (owner : Option Pcb) (e : MainEvent) : Option Pcb :=
  (if Enters s e then connection e.call else owner).filter
    fun pcb => decide ((mainStep s e).tcp.activePcb = some pcb)

/-- MAIN with the owner of its mode. -/
def ownerStep (p : Main × Option Pcb) (e : MainEvent) : Main × Option Pcb :=
  (mainStep p.1 e, ownerAfter p.1 p.2 e)

/-- Diagnostic mode, and the connection that asked for it is open; or neither. -/
def Coherent (p : Main × Option Pcb) : Prop := p.1.com.curMode = modeDiag ↔ p.2.isSome

instance (p : Main × Option Pcb) : Decidable (Coherent p) :=
  inferInstanceAs (Decidable (_ ↔ _))

/-- What must not happen: in diagnostic mode a control packet that switches the mode, a
    reset, or a deferred close; in remote mode an activation by datagram. -/
def Undisturbed (s : Main) (e : MainEvent) : Prop :=
  match e.call with
  | .lwip (.udpRecv localPort p _ _) =>
      (localPort = 5000 → s.com.curMode = modeDiag →
        p.payload 7 ≠ ignitionOn ∧ p.payload 7 ≠ ignitionOff) ∧
      (localPort = 13400 → IsActivation p.payload p.len → s.com.curMode ≠ modeRemote)
  | .lwip (.tcpErr tpcb) => tpcb ∈ s.tcp.registered → s.com.curMode ≠ modeDiag
  | .soAdMainFunction => CloseDue (Main.enter e.env s) → s.com.curMode ≠ modeDiag
  | _ => True

/-! ## Invariant -/

/-- There is one connection at most, and the owner is that one. -/
structure Owned (p : Main × Option Pcb) : Prop where
  one : OneConnection p.1.tcp
  active : ∀ pcb, p.2 = some pcb → p.1.tcp.activePcb = some pcb

theorem owned_reset : Owned (mainReset, none) := by
  refine ⟨rfl, ?_⟩
  intro pcb hpcb
  cases hpcb

/-- Only open connections own the mode. -/
theorem owned_step {p : Main × Option Pcb} (h : Owned p) (e : MainEvent) :
    Owned (ownerStep p e) := by
  refine ⟨oneConnection_step h.one e, ?_⟩
  intro pcb hpcb
  have hpcb := Option.filter_eq_some_iff.mp hpcb
  exact of_decide_eq_true hpcb.2

section Steps

variable {p : Main × Option Pcb} {e : MainEvent}

/-- The owner stays when the active connection does and no activation takes effect. -/
theorem owner_keep (h : Owned p) (hno : ¬ Enters p.1 e)
    (htcp : (mainStep p.1 e).tcp.activePcb = p.1.tcp.activePcb) :
    ownerAfter p.1 p.2 e = p.2 := by
  rw [ownerAfter, if_neg hno, htcp]
  rcases ho : p.2 with _ | pcb
  · rfl
  · have hactive := h.active pcb ho
    simp [hactive]

/-- Without an active connection there is no owner. -/
theorem owner_gone (htcp : (mainStep p.1 e).tcp.activePcb = none) :
    ownerAfter p.1 p.2 e = none := by
  rw [ownerAfter, htcp]
  simp

theorem mode_step (s : Main) (e : MainEvent) :
    (mainStep s e).com.curMode = (run Relay.step (relay s) (relayOps s e)).curMode :=
  congrArg Relay.curMode (relay_step s e)

/-- A call that keeps mode and owner keeps coherence. -/
theorem coherent_keep (h : Coherent p) (hmode : (mainStep p.1 e).com.curMode = p.1.com.curMode)
    (howner : ownerAfter p.1 p.2 e = p.2) : Coherent (ownerStep p e) := by
  show (mainStep p.1 e).com.curMode = modeDiag ↔ (ownerAfter p.1 p.2 e).isSome
  rw [hmode, howner]
  exact h

/-- A call without meaning for the mode, which leaves the active connection. -/
theorem coherent_quiet (h : Coherent p) (ho : Owned p)
    (hops : relayOps p.1 e = [] ∨ ∃ state, relayOps p.1 e = [.buzzer state])
    (htcp : (mainStep p.1 e).tcp.activePcb = p.1.tcp.activePcb) : Coherent (ownerStep p e) := by
  have hmode : (mainStep p.1 e).com.curMode = p.1.com.curMode := by
    rw [mode_step]
    rcases hops with hops | ⟨state, hops⟩ <;> rw [hops] <;> rfl
  have hno : ¬ Enters p.1 e := by
    rintro ⟨-, hent⟩
    rcases hops with hops | ⟨state, hops⟩
    · rw [hops] at hent
      cases hent
    · rw [hops] at hent
      cases hent
  exact coherent_keep h hmode (owner_keep ho hno htcp)

/-- When the connection goes and the mode stays, coherence needs another mode. -/
theorem coherent_gone (hmode : (mainStep p.1 e).com.curMode = p.1.com.curMode)
    (htcp : (mainStep p.1 e).tcp.activePcb = none) :
    Coherent (ownerStep p e) ↔ p.1.com.curMode ≠ modeDiag := by
  show ((mainStep p.1 e).com.curMode = modeDiag ↔ (ownerAfter p.1 p.2 e).isSome) ↔ _
  rw [hmode, owner_gone htcp]
  simp

end Steps

/-! ## Datagrams -/

/-- The mode is still diagnostic exactly when the ignition byte selects none. -/
theorem ignitionMode_diag (ignition curMode : UInt8) :
    ignitionMode ignition curMode = modeDiag ↔
      curMode = modeDiag ∧ ignition ≠ ignitionOn ∧ ignition ≠ ignitionOff := by
  rw [ignitionMode]
  split
  · rename_i hon
    have hne : modeRemote ≠ modeDiag := by decide
    simp [hon, hne]
  · rename_i hon
    split
    · rename_i hoff
      have hne : modeDefault ≠ modeDiag := by decide
      simp [hoff, hne]
    · rename_i hoff
      simp [hon, hoff]

section Datagrams

variable {p : Main × Option Pcb} {env : Env} {b : Pbuf} {addr : IpAddr} {port : Nat}

/-- A datagram does not touch the connections. -/
theorem udp_activePcb (s : Main) (env : Env) (localPort : Nat) (b : Pbuf) (addr : IpAddr)
    (port : Nat) : (mainStep s ⟨env, .lwip (.udpRecv localPort b addr port)⟩).tcp.activePcb =
      s.tcp.activePcb := by
  rw [tcp_step]
  rfl

/-- A control packet. -/
theorem coherent_packet_iff (h : Coherent p) (ho : Owned p) :
    Coherent (ownerStep p ⟨env, .lwip (.udpRecv 5000 b addr port)⟩) ↔
      Undisturbed p.1 ⟨env, .lwip (.udpRecv 5000 b addr port)⟩ := by
  have howner : ownerAfter p.1 p.2 ⟨env, .lwip (.udpRecv 5000 b addr port)⟩ = p.2 :=
    owner_keep ho (fun hent => by cases hent.2) (udp_activePcb ..)
  have hmode : (mainStep p.1 ⟨env, .lwip (.udpRecv 5000 b addr port)⟩).com.curMode = modeDiag ↔
      p.1.com.curMode = modeDiag ∧ b.payload 7 ≠ ignitionOn ∧ b.payload 7 ≠ ignitionOff := by
    rw [mode_step]
    exact ignitionMode_diag (b.payload 7) p.1.com.curMode
  have hcoh : Coherent (ownerStep p ⟨env, .lwip (.udpRecv 5000 b addr port)⟩) ↔
      (p.1.com.curMode = modeDiag ∧ b.payload 7 ≠ ignitionOn ∧ b.payload 7 ≠ ignitionOff ↔
        p.2.isSome) := by
    show ((mainStep p.1 _).com.curMode = modeDiag ↔ (ownerAfter p.1 p.2 _).isSome) ↔ _
    rw [howner, hmode]
  rw [hcoh]
  constructor
  · intro hiff
    exact ⟨fun _ hdiag => (hiff.mpr (h.mp hdiag)).2, fun hport => absurd hport (by decide)⟩
  · rintro ⟨hund, -⟩
    exact ⟨fun hdiag => h.mp hdiag.1, fun hsome => ⟨h.mpr hsome, hund rfl (h.mpr hsome)⟩⟩

/-- An activation by datagram: nobody owns the mode that it switches on. -/
theorem coherent_udpActivation_iff (h : Coherent p) (ho : Owned p)
    (hact : IsActivation b.payload b.len) :
    Coherent (ownerStep p ⟨env, .lwip (.udpRecv 13400 b addr port)⟩) ↔
      Undisturbed p.1 ⟨env, .lwip (.udpRecv 13400 b addr port)⟩ := by
  have hops : relayOps p.1 ⟨env, .lwip (.udpRecv 13400 b addr port)⟩ = [.activated] :=
    if_pos hact
  by_cases hmode : p.1.com.curMode = modeRemote
  · -- entered over UDP: no connection owns the mode
    have hdiag : (mainStep p.1 ⟨env, .lwip (.udpRecv 13400 b addr port)⟩).com.curMode =
        modeDiag := by
      rw [mode_step, hops]
      show (if p.1.com.curMode = modeRemote then _ else _ : Relay).curMode = modeDiag
      rw [if_pos hmode]
    have hnone : ownerAfter p.1 p.2 ⟨env, .lwip (.udpRecv 13400 b addr port)⟩ = none := by
      rw [ownerAfter, if_pos ⟨hmode, hops⟩]
      rfl
    constructor
    · intro hcoh
      have hsome := hcoh.mp hdiag
      rw [ownerStep, hnone] at hsome
      cases hsome
    · intro hund
      exact absurd hmode (hund.2 rfl hact)
  · -- in any other mode the activation changes nothing
    have hkeep : (mainStep p.1 ⟨env, .lwip (.udpRecv 13400 b addr port)⟩).com.curMode =
        p.1.com.curMode := by
      rw [mode_step, hops]
      exact congrArg Relay.curMode (if_neg hmode)
    have howner : ownerAfter p.1 p.2 ⟨env, .lwip (.udpRecv 13400 b addr port)⟩ = p.2 :=
      owner_keep ho (fun hent => hmode hent.1) (udp_activePcb ..)
    constructor
    · intro _
      exact ⟨fun hport => absurd hport (by decide), fun _ _ => hmode⟩
    · intro _
      exact coherent_keep h hkeep howner

/-- **A datagram** keeps coherence exactly when it is undisturbing. -/
theorem coherent_udp_iff (h : Coherent p) (ho : Owned p) (localPort : Nat) :
    Coherent (ownerStep p ⟨env, .lwip (.udpRecv localPort b addr port)⟩) ↔
      Undisturbed p.1 ⟨env, .lwip (.udpRecv localPort b addr port)⟩ := by
  by_cases hctr : localPort = 5000
  · subst hctr
    exact coherent_packet_iff h ho
  · by_cases hact : localPort = 13400 ∧ IsActivation b.payload b.len
    · obtain ⟨rfl, hact⟩ := hact
      exact coherent_udpActivation_iff h ho hact
    · have hops : relayOps p.1 ⟨env, .lwip (.udpRecv localPort b addr port)⟩ = [] ∨
          ∃ state, relayOps p.1 ⟨env, .lwip (.udpRecv localPort b addr port)⟩ =
            [.buzzer state] := by
        simp only [relayOps, lwipOps, udpOps, if_neg hctr]
        split
        · split
          · exact Or.inr ⟨_, rfl⟩
          · exact Or.inl rfl
        · split
          · rename_i hport
            rw [doipOps, if_neg fun ha => hact ⟨hport, ha⟩]
            exact Or.inl rfl
          · exact Or.inl rfl
      constructor
      · intro _
        exact ⟨fun hport => absurd hport hctr, fun hport ha => absurd ⟨hport, ha⟩ hact⟩
      · intro _
        exact coherent_quiet h ho hops (udp_activePcb ..)

end Datagrams

/-! ## Connections -/

section Connections

variable {p : Main × Option Pcb} {env : Env}

/-- Data on the connection: an activation makes it the owner. -/
theorem coherent_tcpRecv (h : Coherent p) (ho : Owned p) (tpcb : Pcb) (b : Pbuf)
    (rest : List Pbuf) : Coherent (ownerStep p ⟨env, .lwip (.tcpRecv tpcb b rest)⟩) := by
  have htcp : (mainStep p.1 ⟨env, .lwip (.tcpRecv tpcb b rest)⟩).tcp.activePcb =
      p.1.tcp.activePcb := by
    rw [tcp_step]
    rfl
  by_cases hact : tpcb ∈ p.1.tcp.registered ∧ IsActivation b.payload b.len
  · obtain ⟨hreg, hact⟩ := hact
    have hops : relayOps p.1 ⟨env, .lwip (.tcpRecv tpcb b rest)⟩ = [.activated] := by
      simp only [relayOps, lwipOps, doipOps]
      rw [if_pos hreg, if_pos hact]
    by_cases hmode : p.1.com.curMode = modeRemote
    · -- the mode is entered, and the receiving connection owns it
      have hdiag : (mainStep p.1 ⟨env, .lwip (.tcpRecv tpcb b rest)⟩).com.curMode =
          modeDiag := by
        rw [mode_step, hops]
        show (if p.1.com.curMode = modeRemote then _ else _ : Relay).curMode = modeDiag
        rw [if_pos hmode]
      have hactive := (oneConnection_mem ho.one).mp hreg
      have hsome : ownerAfter p.1 p.2 ⟨env, .lwip (.tcpRecv tpcb b rest)⟩ = some tpcb := by
        rw [ownerAfter, if_pos ⟨hmode, hops⟩, htcp]
        simp [connection, hactive]
      show (mainStep p.1 _).com.curMode = modeDiag ↔ (ownerAfter p.1 p.2 _).isSome
      rw [hsome]
      exact ⟨fun _ => rfl, fun _ => hdiag⟩
    · -- in any other mode the activation changes nothing
      have hkeep : (mainStep p.1 ⟨env, .lwip (.tcpRecv tpcb b rest)⟩).com.curMode =
          p.1.com.curMode := by
        rw [mode_step, hops]
        exact congrArg Relay.curMode (if_neg hmode)
      exact coherent_keep h hkeep (owner_keep ho (fun hent => hmode hent.1) htcp)
  · -- no activation in this segment
    have hops : relayOps p.1 ⟨env, .lwip (.tcpRecv tpcb b rest)⟩ = [] := by
      simp only [relayOps, lwipOps, doipOps]
      split
      · rename_i hreg
        rw [if_neg fun ha => hact ⟨hreg, ha⟩]
      · rfl
    exact coherent_quiet h ho (Or.inl hops) htcp

/-- A new connection: accepted only when there is none, and then nobody owns the mode. -/
theorem coherent_tcpAccept (h : Coherent p) (ho : Owned p) (newpcb : Pcb) :
    Coherent (ownerStep p ⟨env, .lwip (.tcpAccept newpcb)⟩) := by
  have hmode : (mainStep p.1 ⟨env, .lwip (.tcpAccept newpcb)⟩).com.curMode =
      p.1.com.curMode := by
    rw [mode_step]
    rfl
  have hno : ¬ Enters p.1 ⟨env, .lwip (.tcpAccept newpcb)⟩ := fun hent => by cases hent.2
  rcases ha : p.1.tcp.activePcb with _ | pcb
  · have hnone : p.2 = none := by
      rcases hown : p.2 with _ | pcb
      · rfl
      · have hactive := ho.active pcb hown
        rw [ha] at hactive
        cases hactive
    apply coherent_keep h hmode
    rw [ownerAfter, if_neg hno, hnone]
    rfl
  · apply coherent_keep h hmode
    apply owner_keep ho hno
    rw [tcp_step]
    exact congrArg Tcp.activePcb (accept_some ha)

/-- The peer closes the connection: the mode ends with its owner. -/
theorem coherent_tcpFin (h : Coherent p) (ho : Owned p) (tpcb : Pcb) :
    Coherent (ownerStep p ⟨env, .lwip (.tcpFin tpcb)⟩) := by
  by_cases hreg : tpcb ∈ p.1.tcp.registered
  · -- the connection ends, and its callback leaves the mode
    have htcp : (mainStep p.1 ⟨env, .lwip (.tcpFin tpcb)⟩).tcp.activePcb = none := by
      have hclose := close_active ho.one
      rw [(oneConnection_mem ho.one).mp hreg] at hclose
      rw [tcp_step]
      simp only [tcpAfter]
      rw [if_pos hreg, hclose]
    have hmode : (mainStep p.1 ⟨env, .lwip (.tcpFin tpcb)⟩).com.curMode ≠ modeDiag := by
      have hops : relayOps p.1 ⟨env, .lwip (.tcpFin tpcb)⟩ = [.deactivated] := if_pos hreg
      rw [mode_step, hops]
      show (if p.1.com.curMode = modeDiag then _ else _ : Relay).curMode ≠ modeDiag
      split
      · show modeRemote ≠ modeDiag
        decide
      · rename_i hne
        exact hne
    show (mainStep p.1 _).com.curMode = modeDiag ↔ (ownerAfter p.1 p.2 _).isSome
    rw [owner_gone htcp]
    simp [hmode]
  · -- a connection that was dropped before has no callback
    have hops : relayOps p.1 ⟨env, .lwip (.tcpFin tpcb)⟩ = [] := if_neg hreg
    apply coherent_quiet h ho (Or.inl hops)
    rw [tcp_step]
    exact congrArg Tcp.activePcb (if_neg hreg)

/-- A reset takes the connection and leaves the mode. -/
theorem coherent_tcpErr_iff (h : Coherent p) (ho : Owned p) (tpcb : Pcb) :
    Coherent (ownerStep p ⟨env, .lwip (.tcpErr tpcb)⟩) ↔
      Undisturbed p.1 ⟨env, .lwip (.tcpErr tpcb)⟩ := by
  simp only [Undisturbed]
  by_cases hreg : tpcb ∈ p.1.tcp.registered
  · have htcp : (mainStep p.1 ⟨env, .lwip (.tcpErr tpcb)⟩).tcp.activePcb = none := by
      rw [tcp_step]
      simp only [tcpAfter]
      rw [if_pos hreg, drop_active ho.one ((oneConnection_mem ho.one).mp hreg)]
    rw [coherent_gone ((mode_step _ _).trans rfl) htcp]
    exact ⟨fun hne _ => hne, fun hund => hund hreg⟩
  · constructor
    · intro _ hr
      exact absurd hr hreg
    · intro _
      apply coherent_quiet h ho (Or.inl rfl)
      rw [tcp_step]
      exact congrArg Tcp.activePcb (if_neg hreg)

/-- The deferred close takes the connection and leaves the mode. -/
theorem coherent_soAd_iff (h : Coherent p) (ho : Owned p) :
    Coherent (ownerStep p ⟨env, .soAdMainFunction⟩) ↔
      Undisturbed p.1 ⟨env, .soAdMainFunction⟩ := by
  simp only [Undisturbed]
  by_cases hdue : CloseDue (Main.enter env p.1)
  · have htcp : (mainStep p.1 ⟨env, .soAdMainFunction⟩).tcp.activePcb = none := by
      rw [tcp_step]
      simp only [tcpAfter]
      rw [if_pos hdue, close_active ho.one]
    rw [coherent_gone ((mode_step _ _).trans rfl) htcp]
    exact ⟨fun hne _ => hne, fun hund => hund hdue⟩
  · constructor
    · intro _ hd
      exact absurd hd hdue
    · intro _
      apply coherent_quiet h ho (Or.inl rfl)
      rw [tcp_step]
      exact congrArg Tcp.activePcb (if_neg hdue)

end Connections

/-! ## Step and run -/

/-- **Step lemma.**  From a coherent state, a call leads to a coherent state exactly when
    it is undisturbed. -/
theorem coherent_step_iff {p : Main × Option Pcb} (h : Coherent p) (ho : Owned p)
    (e : MainEvent) : Coherent (ownerStep p e) ↔ Undisturbed p.1 e := by
  obtain ⟨env, call⟩ := e
  cases call with
  | lwip c =>
      cases c with
      | udpRecv localPort b addr port => exact coherent_udp_iff h ho localPort
      | tcpAccept newpcb => exact iff_of_true (coherent_tcpAccept h ho newpcb) trivial
      | tcpRecv tpcb b rest => exact iff_of_true (coherent_tcpRecv h ho tpcb b rest) trivial
      | tcpFin tpcb => exact iff_of_true (coherent_tcpFin h ho tpcb) trivial
      | tcpErr tpcb => exact coherent_tcpErr_iff h ho tpcb
  | canRead m =>
      apply iff_of_true (coherent_quiet h ho (Or.inl rfl) _) trivial
      rw [tcp_step]
      rfl
  | comTimeOut =>
      have hmode : (mainStep p.1 ⟨env, .comTimeOut⟩).com.curMode = p.1.com.curMode := by
        rw [mode_step]
        show (if (relay p.1).Stale _ then _ else _ : Relay).curMode = _
        split <;> rfl
      have htcp : (mainStep p.1 ⟨env, .comTimeOut⟩).tcp.activePcb = p.1.tcp.activePcb := by
        rw [tcp_step]
        rfl
      have howner := owner_keep ho (fun hent => by cases hent.2) htcp
      exact iff_of_true (coherent_keep h hmode howner) trivial
  | comTxMainFunction =>
      apply iff_of_true (coherent_quiet h ho (Or.inl rfl) _) trivial
      rw [tcp_step]
      rfl
  | sdMainFunction =>
      apply iff_of_true (coherent_quiet h ho (Or.inl rfl) _) trivial
      rw [tcp_step]
      rfl
  | soAdMainFunction => exact coherent_soAd_iff h ho

/-- **Diagnostic mode coherence.**  In every run, MAIN is in diagnostic mode exactly while
    the connection that asked for it is open, in every state reached, if and only if every
    step of the run is undisturbed. -/
theorem diag_mode_coherent_iff (es : List MainEvent) :
    AllSteps ownerStep (fun p e => Coherent (ownerStep p e)) (mainReset, none) es ↔
      AllSteps ownerStep (fun p e => Undisturbed p.1 e) (mainReset, none) es := by
  apply allSteps_iff fun p => Coherent p ∧ Owned p
  · intro p e hp hcoh
    exact ⟨hcoh, owned_step hp.2 e⟩
  · intro p e hp
    exact coherent_step_iff hp.1 hp.2 e
  · refine ⟨?_, owned_reset⟩
    decide

/-- Remote mode, a connection, an activation on it. -/
def sessionStart : List MainEvent :=
  [⟨freeEnv 10, .lwip (control drivePacket)⟩, ⟨freeEnv 20, .lwip (.tcpAccept 1)⟩,
   ⟨freeEnv 30, .lwip (.tcpRecv 1 activationRequest [])⟩]

/-- **The mode and the connection part company**: the next control packet makes the vehicle
    drivable although the session is open, and a reset leaves diagnostic mode behind. -/
theorem diag_mode_incoherent :
    (mainRun sessionStart).com.curMode = modeDiag ∧
    ((mainRun (sessionStart ++ [⟨freeEnv 40, .lwip (control drivePacket)⟩])).com.curMode =
        modeRemote ∧
      (mainRun (sessionStart ++ [⟨freeEnv 40, .lwip (control drivePacket)⟩])).tcp.activePcb =
        some 1) ∧
    ((mainRun (sessionStart ++ [⟨freeEnv 40, .lwip (.tcpErr 1)⟩])).com.curMode = modeDiag ∧
      (mainRun (sessionStart ++ [⟨freeEnv 40, .lwip (.tcpErr 1)⟩])).tcp.activePcb = none) := by
  decide +kernel

end DiagMode
