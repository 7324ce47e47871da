import RemoteVehicle.ActStopProofs
import RemoteVehicle.GatewayOutputProofs
import RemoteVehicle.PcControlProofs

/-!
# From the operator's page to the motor

The PC backend, MAIN and ACT with what lies between them: datagrams that may be lost, delayed,
repeated and overtaken, and a CAN bus on which the same may happen to the frames of MAIN.  So
what was sent once may arrive at any time, or never; `Lawful` says no more than that nobody else
sends control packets and 0x100 frames.

The part of ACT and the part of MAIN are stated for any predicate on what is commanded, and say
that the predicate is handed on: `cleared_rxIsr` and `cleared_call` for ACT, `sourced_step` for
MAIN.
-/

namespace MotionChain

open Runs CanFrame MainState MainCom MainTcp MainLoop MainSpec MainFrame GatewayOutput
open ActMotor ActState ActUdsDiag ActCan ActLoop ActSpec ActFrame ActWatch ActStop
open PcBackend PcControl

/-! ## The chain -/

/-- The dictionaries of the backend after these requests. -/
def pcAfter (es : List PcEvent) : Pc := run pcStep pcInitial es

/-- The requests the backend has handled, those it had handled whenever it built a packet, MAIN,
    the frames MAIN has put on the bus, and ACT. -/
structure Chain where
  requests : List PcEvent
  built : List (List PcEvent)
  main : Main
  frames : List CanMessage
  act : ActMachine

inductive ChainEvent where
  /-- A thread of the backend. -/
  | pc (e : PcEvent)
  /-- A control datagram reaches MAIN. -/
  | datagram (env : Env) (p : Pbuf) (addr : IpAddr) (port : Nat)
  /-- Anything else that happens to MAIN. -/
  | main (e : MainEvent)
  /-- A frame reaches ACT, or its main program goes on. -/
  | act (e : ActEvent)

/-- The packets that a request builds: one for each turn of the sender. -/
def builds (requests : List PcEvent) : PcEvent → List (List PcEvent)
  | .send => [requests]
  | _ => []

/-- A call of MAIN, and its frames on the bus. -/
def mainEvent (s : Chain) (e : MainEvent) : Chain :=
  { s with main := MainLoop.mainStep s.main e,
           frames := s.frames ++ framesOf (MainLoop.mainStep s.main e).out }

def controlEvent (env : Env) (p : Pbuf) (addr : IpAddr) (port : Nat) : MainEvent :=
  ⟨env, .lwip (.udpRecv 5000 p addr port)⟩

def chainStep (s : Chain) : ChainEvent → Chain
  | .pc e => { s with requests := s.requests ++ [e], built := s.built ++ builds s.requests e }
  | .datagram env p addr port => mainEvent s (controlEvent env p addr port)
  | .main e => mainEvent s e
  | .act e => { s with act := actStep s.act e }

/-- Nothing was sent yet. -/
def Chain.initial (r : ActReset) : Chain := ⟨[], [], mainReset, [], actReset r⟩

/-- Control packets come from the backend and 0x100 frames from MAIN. -/
def Lawful (s : Chain) : ChainEvent → Prop
  | .datagram _ p _ _ => ∃ es ∈ s.built, p.bytes = controlPacket (pcAfter es).control
  | .main e => ∀ env p addr port, e ≠ controlEvent env p addr port
  | .act (.rxIsr m) => m.messageId = actCanCmdId → m ∈ s.frames
  | _ => True

/-! ## ACT -/

section Act

variable {P Q : MotorState → Prop} {s : ActMachine}

/-- What is in the mailbox and what the motor does are both allowed; the motor test is left
    out. -/
structure Cleared (P : MotorState → Prop) (s : ActMachine) : Prop where
  box : s.act.can.rxUpdated = true → P (actDecode s.act.can.rx).motorState
  motor : s.act.uds.routineState ≠ .motorTest → P s.act.motor.motorState
  boot : InBoot s.pc → s.act.uds.routineState = .none ∧ s.act.motor.motorState = .stop

theorem Cleared.mono (h : Cleared P s) (hPQ : ∀ m, P m → Q m) : Cleared Q s :=
  ⟨fun hf => hPQ _ (h.box hf), fun hr => hPQ _ (h.motor hr), h.boot⟩

theorem cleared_reset (hstop : P .stop) (r : ActReset) : Cleared P (actReset r) where
  box := fun hf => by cases hf
  motor := fun _ => hstop
  boot := fun _ => ⟨rfl, rfl⟩

/-- A frame is let in with what it commands. -/
theorem cleared_rxIsr (h : Cleared P s) {m : CanMessage}
    (hm : ∀ c, accepted m = some c → P (actDecode c).motorState) :
    Cleared P (actStep s (.rxIsr m)) := by
  obtain ⟨-, hroutine, hmotor⟩ := rxIsr_output m s.act
  refine ⟨?_, ?_, ?_⟩
  · intro hf
    rcases rxIsr_cases m s.act with ⟨c, hc, hs⟩ | ⟨-, hs | hs⟩
    · rw [actStep, hs]
      exact hm c hc
    · rw [actStep, hs] at hf ⊢
      exact h.box hf
    · rw [actStep, hs] at hf ⊢
      exact h.box hf
  · intro hr
    have hsame : (actStep s (.rxIsr m)).act.motor = s.act.motor := hmotor
    rw [hsame]
    exact h.motor fun htest => hr (hroutine.trans htest)
  · intro hb
    obtain ⟨hnone, hstop⟩ := h.boot hb
    refine ⟨hroutine.trans hnone, ?_⟩
    show (actCanRxIsrHandler m s.act).motor.motorState = .stop
    rw [hmotor]
    exact hstop

/-- **The motor after an update** is stopped, or does what the mailbox says, or goes on. -/
theorem update_cases (s : Act) :
    ((actCanUpdate100us s).motor.motorState = .stop ∨
      (s.can.rxUpdated = true ∧
        (actCanUpdate100us s).motor.motorState = (actDecode s.can.rx).motorState) ∨
      (actCanUpdate100us s).motor.motorState = s.motor.motorState) ∧
    ((actCanUpdate100us s).can.rxUpdated = true → s.can.rxUpdated = true) ∧
    (actCanUpdate100us s).can.rx = s.can.rx := by
  have htick := actLatch_update s
  have hmotor : (actCanUpdate100us s).motor.motorState =
      ((actLatch s).tick actCanCmdTimeout100usTicks actSafe actDecode).out.motorState :=
    congrArg (fun l => l.out.motorState) htick
  have hfresh : (actCanUpdate100us s).can.rxUpdated =
      ((actLatch s).tick actCanCmdTimeout100usTicks actSafe actDecode).fresh :=
    congrArg HeldCommand.Latch.fresh htick
  have hbox : (actCanUpdate100us s).can.rx =
      ((actLatch s).tick actCanCmdTimeout100usTicks actSafe actDecode).box :=
    congrArg HeldCommand.Latch.box htick
  rw [hmotor, hfresh, hbox, HeldCommand.tick_box]
  refine ⟨?_, ?_, rfl⟩
  · rw [HeldCommand.Latch.tick]
    split
    · exact Or.inl rfl
    · split
      · rename_i hnew
        exact Or.inr (Or.inl ⟨hnew, rfl⟩)
      · exact Or.inr (Or.inr rfl)
  · rw [HeldCommand.Latch.tick]
    split
    · exact id
    · split
      · intro hcontra
        cases hcontra
      · exact id

/-- **Calls of the main program** let nothing in. -/
theorem cleared_call (hstop : P .stop) (h : Cleared P s) (inp : ActInputs) :
    Cleared P (actStep s (.call inp)) := by
  rcases hc : callAt s.pc with c | c
  · have hpc := callAt_boot hc
    have hboot : InBoot s.pc := by
      rw [hpc]
      trivial
    obtain ⟨hnone, hrest⟩ := h.boot hboot
    obtain ⟨hcan, hnone', hrest'⟩ := bootCall_spec c s.act hnone hrest
    have hact : actStep s (.call inp) = ⟨nextPc s, bootCall c s.act⟩ := by
      simp only [actStep, ActLoop.mainStep, hc]
    rw [hact]
    refine ⟨?_, ?_, fun _ => ⟨hnone', hrest'⟩⟩
    · dsimp only
      rw [hcan]
      exact h.box
    · intro _
      dsimp only
      rw [hrest']
      exact hstop
  · have hact : actStep s (.call inp) = ⟨nextPc s, loopCall inp c s.act⟩ := by
      simp only [actStep, ActLoop.mainStep, hc]
    have hboot : InBoot (nextPc s) → InBoot s.pc := inBoot_of_next
    rw [hact]
    by_cases hcan : c = .canUpdate100us
    · subst hcan
      obtain ⟨i, hpc⟩ := callAt_canUpdate hc
      obtain ⟨hmotor, hfresh, hbox⟩ := update_cases s.act
      have hroutine : (actCanUpdate100us s.act).uds.routineState = s.act.uds.routineState :=
        congrArg UdsDiag.routineState (update_uds s.act)
      refine ⟨?_, ?_, ?_⟩
      · intro hf
        show P (actDecode (actCanUpdate100us s.act).can.rx).motorState
        rw [hbox]
        exact h.box (hfresh hf)
      · intro hr
        show P (actCanUpdate100us s.act).motor.motorState
        rcases hmotor with hrest | ⟨hnew, hdecode⟩ | hsame
        · rw [hrest]
          exact hstop
        · rw [hdecode]
          exact h.box hnew
        · rw [hsame]
          exact h.motor fun htest => hr (hroutine.trans htest)
      · intro hb
        have hcontra := hboot hb
        rw [hpc] at hcontra
        exact hcontra.elim
    · by_cases huds : c = .udsUpdate1ms
      · subst huds
        have hpc := callAt_udsUpdate hc
        refine ⟨?_, ?_, ?_⟩
        · show (udsDiagUpdate1ms inp s.act).can.rxUpdated = true →
            P (actDecode (udsDiagUpdate1ms inp s.act).can.rx).motorState
          rw [udsUpdate_can]
          exact h.box
        · intro hr
          show P (udsDiagUpdate1ms inp s.act).motor.motorState
          rcases udsUpdate_motor inp s.act hr with hrest | ⟨hsame, htest⟩
          · rw [hrest]
            exact hstop
          · rw [hsame]
            exact h.motor htest
        · intro hb
          have hcontra := hboot hb
          rw [hpc] at hcontra
          exact hcontra.elim
      · have hkeep := loopCall_quiet inp c s.act hcan huds
        refine ⟨?_, ?_, ?_⟩
        · dsimp only
          rw [hkeep.can]
          exact h.box
        · intro hr
          dsimp only
          rw [hkeep.motorState]
          exact h.motor fun htest => hr (hkeep.uds.1.trans htest)
        · intro hb
          obtain ⟨hnone, hrest⟩ := h.boot (hboot hb)
          exact ⟨hkeep.uds.1.trans hnone, hkeep.motorState.trans hrest⟩

end Act

/-! ## MAIN -/

section Relay

variable {D D' : UdpCtr → Prop} {r : Relay}

/-- Outside the default mode, what the relay holds has come in a control packet, the turn signal
    apart; and the packet had the ignition on. -/
def Sourced (D : UdpCtr → Prop) (r : Relay) : Prop :=
  r.curMode = modeDefault ∨ ∃ ctr, D ctr ∧ ctr.ignition = ignitionOn ∧
    r.ctr = { ctr with turnSignal := r.ctr.turnSignal }

theorem Sourced.mono (h : Sourced D r) (hD : ∀ ctr, D ctr → D' ctr) : Sourced D' r := by
  rcases h with hmode | ⟨ctr, hctr, hrest⟩
  · exact Or.inl hmode
  · exact Or.inr ⟨ctr, hD ctr hctr, hrest⟩

/-- A packet of the backend. -/
theorem sourced_packet {ctr : UdpCtr} (hctr : D ctr)
    (hignition : ctr.ignition = ignitionOn ∨ ctr.ignition = ignitionOff) (now : UInt32) :
    Sourced D (r.packet ctr now) := by
  rcases hignition with hon | hoff
  · exact Or.inr ⟨ctr, hctr, hon, rfl⟩
  · refine Or.inl ?_
    show ignitionMode ctr.ignition r.curMode = modeDefault
    rw [hoff]
    rfl

/-- Anything else. -/
theorem sourced_op (h : Sourced D r) {op : RelayOp} (hop : ∀ ctr now, op ≠ .packet ctr now) :
    Sourced D (r.step op) := by
  cases op with
  | packet ctr now => exact absurd rfl (hop ctr now)
  | buzzer state => exact h
  | activated =>
      rw [Relay.step]
      split
      · rename_i hmode
        rcases h with hdefault | hsource
        · rw [hmode] at hdefault
          cases hdefault
        · exact Or.inr hsource
      · exact h
  | deactivated =>
      rw [Relay.step]
      split
      · rename_i hmode
        rcases h with hdefault | hsource
        · rw [hmode] at hdefault
          cases hdefault
        · exact Or.inr hsource
      · exact h
  | watch now =>
      rw [Relay.step]
      split
      · rcases h with hdefault | ⟨ctr, hctr, hon, hsame⟩
        · exact Or.inl hdefault
        · refine Or.inr ⟨ctr, hctr, hon, ?_⟩
          show { r.ctr with turnSignal := pcTimeoutLight } = _
          rw [hsame]
          rfl
      · exact h

/-- Only a control datagram is a packet. -/
theorem relayOps_packet {s : Main} {e : MainEvent} {ctr : UdpCtr} {now : UInt32}
    (h : .packet ctr now ∈ relayOps s e) :
    ∃ p addr port, e = controlEvent e.env p addr port := by
  have hdoip : ∀ p, .packet ctr now ∉ doipOps p := by
    intro p hp
    rw [doipOps] at hp
    split at hp
    · cases List.mem_singleton.mp hp
    · cases hp
  obtain ⟨env, call⟩ := e
  cases call with
  | lwip c =>
      cases c with
      | udpRecv localPort p addr port =>
          simp only [relayOps, lwipOps, udpOps] at h
          split at h
          · rename_i hport
            subst hport
            exact ⟨p, addr, port, rfl⟩
          · split at h
            · split at h
              · cases List.mem_singleton.mp h
              · cases h
            · split at h
              · exact absurd h (hdoip p)
              · cases h
      | tcpAccept newpcb => cases h
      | tcpRecv tpcb p rest =>
          simp only [relayOps, lwipOps] at h
          split at h
          · exact absurd h (hdoip p)
          · cases h
      | tcpFin tpcb =>
          simp only [relayOps, lwipOps] at h
          split at h
          · cases List.mem_singleton.mp h
          · cases h
      | tcpErr tpcb => cases h
  | canRead m => cases h
  | comTimeOut => cases List.mem_singleton.mp h
  | comTxMainFunction => cases h
  | sdMainFunction => cases h
  | soAdMainFunction => cases h

/-- **Calls of MAIN** other than the reception of a control packet. -/
theorem sourced_step {s : Main} (h : Sourced D (relay s)) {e : MainEvent}
    (he : ∀ env p addr port, e ≠ controlEvent env p addr port) :
    Sourced D (relay (MainLoop.mainStep s e)) := by
  rw [relay_step]
  rcases relayOps_cases s e with hops | ⟨op, hops⟩
  · rw [hops]
    exact h
  · rw [hops]
    refine sourced_op h fun ctr now hop => ?_
    have hmem : .packet ctr now ∈ relayOps s e := by
      rw [hops, hop]
      exact List.mem_singleton_self _
    obtain ⟨p, addr, port, heq⟩ := relayOps_packet hmem
    exact he _ _ _ _ heq

end Relay

end MotionChain
