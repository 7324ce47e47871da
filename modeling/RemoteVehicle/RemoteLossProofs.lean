import RemoteVehicle.MainFrameProofs
import RemoteVehicle.TickClock
import RemoteVehicle.ActFrameProofs
import RemoteVehicle.ActWatch

/-!
# A lost remote link reaches the actuator

When no control packet has been processed for 500 ms, MAIN must stop telling ACT to drive,
whatever else goes on: `COM_TimeOut` looks at the age only in remote mode, restarts its own
time stamp, and shares the override flag with the reception of packets.

`LinkWatch` stands beside a run and keeps the true time of the last packet.  The invariant
`Linked` says that either the override stands or the time stamp is the true one; a mode
switch changes neither.  So whenever `COM_TimeOut` leaves the relay without an override in
remote mode, the link is not lost (`covered_watch`), and between `COM_TimeOut` and
`COM_Tx_MainFunction` of one pass nothing happens to the relay.
-/

namespace RemoteLoss

open Runs TickClock CanFrame MainState MainCom MainTcp MainLoop MainSpec MainFrame

/-! ## The watch -/

/-- Time of the last processed control packet; whether a `COM_TimeOut` since then has found
    it 500 ms old; time of the last call. -/
structure LinkWatch where
  last : Option Nat
  lost : Bool
  clock : Nat
deriving DecidableEq, Repr

/-- Nothing was received yet. -/
def LinkWatch.start (clock : Nat) : LinkWatch := ⟨none, false, clock⟩

/-- At least 500 ms have passed since the last packet. -/
def LinkWatch.expired (w : LinkWatch) (now : Nat) : Bool :=
  match w.last with
  | none => false
  | some t => decide (500 ≤ now - t)

def LinkWatch.step (w : LinkWatch) (e : MainEvent) : LinkWatch :=
  match e.call with
  | .lwip (.udpRecv localPort _ _ _) =>
      if localPort = 5000 then ⟨some e.env.now, false, e.env.now⟩
      else { w with clock := e.env.now }
  | .comTimeOut => { w with lost := w.lost || w.expired e.env.now, clock := e.env.now }
  | _ => { w with clock := e.env.now }

/-- MAIN and the watch. -/
def linkStep (p : Main × LinkWatch) (e : MainEvent) : Main × LinkWatch :=
  (mainStep p.1 e, p.2.step e)

/-- The time of a call. -/
def time (e : MainEvent) : Nat := e.env.now

theorem clock_step (w : LinkWatch) (e : MainEvent) : (w.step e).clock = time e := by
  obtain ⟨env, call⟩ := e
  cases call with
  | lwip c =>
      cases c with
      | udpRecv localPort p addr port =>
          simp only [LinkWatch.step]
          split <;> rfl
      | tcpAccept _ => rfl
      | tcpRecv _ _ _ => rfl
      | tcpFin _ => rfl
      | tcpErr _ => rfl
  | canRead m => rfl
  | comTimeOut => rfl
  | comTxMainFunction => rfl
  | sdMainFunction => rfl
  | soAdMainFunction => rfl

/-! ## The invariant -/

/-- The override stands, or the time stamp is that of the last packet. -/
structure Linked (start : Nat) (r : Relay) (w : LinkWatch) : Prop where
  stamp : ∀ t, w.last = some t →
    r.safetyOverride = pcTimeoutBreak ∨ r.lastUdpRxTime = stamp t
  past : ∀ t, w.last = some t → start ≤ t ∧ t ≤ w.clock
  late : w.lost = true → ∃ t, w.last = some t ∧ t + 500 ≤ w.clock
  begun : start ≤ w.clock

/-- What a frame of the relay needs: no drive order once the link is lost. -/
def Covered (r : Relay) (w : LinkWatch) : Prop :=
  w.lost = true → r.curMode ≠ modeRemote ∨ r.safetyOverride = pcTimeoutBreak

theorem linked_start (start : Nat) (r : Relay) : Linked start r (LinkWatch.start start) := by
  refine ⟨?_, ?_, ?_, Nat.le_refl start⟩
  · intro t ht
    exact absurd ht (by simp [LinkWatch.start])
  · intro t ht
    exact absurd ht (by simp [LinkWatch.start])
  · intro hl
    exact absurd hl (by simp [LinkWatch.start])

section Steps

variable {start now : Nat} {r r' : Relay} {w : LinkWatch}

/-- Time passes, and neither override nor time stamp changes. -/
theorem Linked.pass (h : Linked start r w) (hclock : w.clock ≤ now)
    (hover : r'.safetyOverride = r.safetyOverride)
    (htime : r'.lastUdpRxTime = r.lastUdpRxTime) : Linked start r' { w with clock := now } := by
  refine ⟨?_, ?_, ?_, Nat.le_trans h.begun hclock⟩
  · intro t ht
    rw [hover, htime]
    exact h.stamp t ht
  · intro t ht
    have hpast := h.past t ht
    exact ⟨hpast.1, Nat.le_trans hpast.2 hclock⟩
  · intro hl
    obtain ⟨t, ht, hle⟩ := h.late hl
    exact ⟨t, ht, Nat.le_trans hle hclock⟩

/-- A packet makes the time stamp true again. -/
theorem Linked.packet (h : Linked start r w) (hclock : w.clock ≤ now) (ctr : UdpCtr) :
    Linked start (r.packet ctr (TickClock.stamp now)) ⟨some now, false, now⟩ := by
  have hbegun : start ≤ now := Nat.le_trans h.begun hclock
  refine ⟨?_, ?_, ?_, hbegun⟩
  · intro t ht
    obtain rfl := Option.some.inj ht
    exact Or.inr rfl
  · intro t ht
    obtain rfl := Option.some.inj ht
    exact ⟨hbegun, Nat.le_refl _⟩
  · intro hl
    exact absurd hl (by simp)

/-- Mode switches and buzzer requests. -/
theorem step_other (r : Relay) (op : RelayOp) (hp : ∀ ctr t, op ≠ .packet ctr t)
    (hw : ∀ t, op ≠ .watch t) :
    (r.step op).safetyOverride = r.safetyOverride ∧
      (r.step op).lastUdpRxTime = r.lastUdpRxTime := by
  cases op with
  | packet ctr t => exact absurd rfl (hp ctr t)
  | buzzer state => exact ⟨rfl, rfl⟩
  | activated =>
      rw [Relay.step]
      split <;> exact ⟨rfl, rfl⟩
  | deactivated =>
      rw [Relay.step]
      split <;> exact ⟨rfl, rfl⟩
  | watch t => exact absurd rfl (hw t)

/-- What the watch has found by now. -/
theorem Linked.found (h : Linked start r w) (hclock : w.clock ≤ now)
    (hl : (w.lost || w.expired now) = true) : ∃ t, w.last = some t ∧ t + 500 ≤ now := by
  rcases Bool.or_eq_true_iff.mp hl with hl | hl
  · obtain ⟨t, ht, hle⟩ := h.late hl
    exact ⟨t, ht, Nat.le_trans hle hclock⟩
  · rw [LinkWatch.expired] at hl
    rcases ht : w.last with _ | t
    · rw [ht] at hl
      exact absurd hl (by simp)
    · rw [ht] at hl
      have hle : 500 ≤ now - t := of_decide_eq_true hl
      exact ⟨t, rfl, by omega⟩

/-- `COM_TimeOut` keeps the invariant: it restarts the time stamp only with an override. -/
theorem Linked.watch (h : Linked start r w) (hclock : w.clock ≤ now) :
    Linked start (r.step (.watch (TickClock.stamp now)))
      { w with lost := w.lost || w.expired now, clock := now } := by
  refine ⟨?_, ?_, ?_, Nat.le_trans h.begun hclock⟩
  · intro t ht
    rw [Relay.step]
    split
    · exact Or.inl rfl
    · exact h.stamp t ht
  · intro t ht
    have hpast := h.past t ht
    exact ⟨hpast.1, Nat.le_trans hpast.2 hclock⟩
  · exact h.found hclock

/-- **After `COM_TimeOut`, a lost link is covered**: in remote mode without an override the
    time stamp would be that of the last packet, and the test would have fired. -/
theorem covered_watch (h : Linked start r w) (hclock : w.clock ≤ now)
    (hspan : now < start + 2 ^ 32) :
    Covered (r.step (.watch (TickClock.stamp now)))
      { w with lost := w.lost || w.expired now, clock := now } := by
  intro hl
  obtain ⟨t, ht, hle⟩ := h.found hclock hl
  have hpast := h.past t ht
  rw [Relay.step]
  by_cases hstale : r.Stale (TickClock.stamp now)
  · rw [if_pos hstale]
    exact Or.inr rfl
  · rw [if_neg hstale]
    by_cases hmode : r.curMode = modeRemote
    · right
      rcases h.stamp t ht with hover | hstamp
      · exact hover
      · -- a packet that old makes the check fire in remote mode
        have hfire : udpTimeoutThresholdMs ≤ TickClock.stamp now - r.lastUdpRxTime := by
          rw [hstamp, le_sub_stamp_iff (by omega) (by omega)]
          show 500 ≤ now - t
          omega
        exact absurd ⟨hmode, hfire⟩ hstale
    · exact Or.inl hmode

end Steps

/-! ## Step -/

/-- What a DoIP buffer means for the relay is a mode switch at most. -/
theorem linked_doip {start now : Nat} {r : Relay} {w : LinkWatch} (h : Linked start r w)
    (hclock : w.clock ≤ now) (p : Pbuf) :
    Linked start (run Relay.step r (doipOps p)) { w with clock := now } := by
  rw [doipOps]
  split
  · obtain ⟨hover, htime⟩ := step_other r .activated (by simp) (by simp)
    exact h.pass hclock hover htime
  · exact h.pass hclock rfl rfl

/-- A callback of lwIP keeps the invariant. -/
theorem linked_lwip {start : Nat} {r : Relay} {w : LinkWatch} {env : Env} (h : Linked start r w)
    (hclock : w.clock ≤ env.now) (registered : List Pcb) (c : LwipCall) :
    Linked start (run Relay.step r (lwipOps env registered c)) (w.step ⟨env, .lwip c⟩) := by
  cases c with
  | udpRecv localPort p addr port =>
      simp only [lwipOps, udpOps, LinkWatch.step]
      -- only the control port receives the packets of the watch
      by_cases hctr : localPort = 5000
      · rw [if_pos hctr, if_pos hctr]
        exact h.packet hclock _
      · rw [if_neg hctr, if_neg hctr]
        split
        · split
          · exact h.pass hclock rfl rfl
          · exact h.pass hclock rfl rfl
        · split
          · exact linked_doip h hclock p
          · exact h.pass hclock rfl rfl
  | tcpAccept newpcb => exact h.pass hclock rfl rfl
  | tcpRecv tpcb p rest =>
      simp only [lwipOps]
      split
      · exact linked_doip h hclock p
      · exact h.pass hclock rfl rfl
  | tcpFin tpcb =>
      simp only [lwipOps]
      split
      · obtain ⟨hover, htime⟩ := step_other r .deactivated (by simp) (by simp)
        exact h.pass hclock hover htime
      · exact h.pass hclock rfl rfl
  | tcpErr tpcb => exact h.pass hclock rfl rfl

/-- **Step lemma.** -/
theorem linked_step {start : Nat} {p : Main × LinkWatch} {e : MainEvent}
    (h : Linked start (relay p.1) p.2) (hclock : p.2.clock ≤ time e) :
    Linked start (relay (linkStep p e).1) (linkStep p e).2 := by
  show Linked start (relay (mainStep p.1 e)) (p.2.step e)
  rw [relay_step]
  obtain ⟨env, call⟩ := e
  cases call with
  | lwip c => exact linked_lwip h hclock p.1.tcp.registered c
  | canRead m => exact h.pass hclock rfl rfl
  | comTimeOut => exact h.watch hclock
  | comTxMainFunction => exact h.pass hclock rfl rfl
  | sdMainFunction => exact h.pass hclock rfl rfl
  | soAdMainFunction => exact h.pass hclock rfl rfl

/-! ## Frames -/

/-- A frame that does not let ACT drive: it orders a forced stop or a mode other than
    REMOTE_DRIVE, and if ACT accepts it, the next update stops the motor. -/
def Inhibits (m : CanMessage) : Prop :=
  ((ActCan.commandOfBytes (rxByte m)).controlModeRaw ≠ modeRemote ∨
    (ActCan.commandOfBytes (rxByte m)).safetyOverrideRaw = pcTimeoutBreak) ∧
  ((ActSpec.accepted m).isSome → ∀ a : ActState.Act,
    (ActCan.actCanUpdate100us (ActCan.actCanRxIsrHandler m a)).motor.motorState = .stop)

/-- An accepted command is what the next update of ACT decodes. -/
theorem act_update_accepted {m : CanMessage} {c : ActState.ActCommand}
    (h : ActSpec.accepted m = some c) (a : ActState.Act) :
    (ActCan.actCanUpdate100us (ActCan.actCanRxIsrHandler m a)).motor.motorState =
      (ActSpec.actDecode c).motorState := by
  rw [ActFrame.rxIsr_accepted h]
  have hlatch := ActFrame.actLatch_update (ActCan.storeCommand c a)
  have hout := congrArg HeldCommand.Latch.out hlatch
  have hcount : (ActSpec.actLatch (ActCan.storeCommand c a)).count
      ActCan.actCanCmdTimeout100usTicks < ActCan.actCanCmdTimeout100usTicks := by
    show (if (0 : Nat) < 2000 then 0 + 1 else 0) < 2000
    decide
  rw [HeldCommand.tick_out_fresh hcount rfl] at hout
  exact congrArg ActSpec.ActOutput.motorState hout

/-- The frame of a covered relay does not let ACT drive. -/
theorem inhibits_actFrame {r : Relay}
    (h : r.curMode ≠ modeRemote ∨ r.safetyOverride = pcTimeoutBreak) :
    Inhibits (actFrame r) := by
  rw [Inhibits, commandOfBytes_actFrame]
  refine ⟨h, ?_⟩
  intro hacc a
  obtain ⟨c, hc⟩ := Option.isSome_iff_exists.mp hacc
  rw [act_update_accepted hc]
  obtain ⟨-, -, -, -, hcmd⟩ := ActFrame.accepted_inv hc
  rw [commandOfBytes_actFrame] at hcmd
  subst hcmd
  apply ActWatch.actDecode_of_ordersStop
  rcases h with h | h
  · exact Or.inr (Or.inl h)
  · exact Or.inl h

/-- What a call must meet: every 0x100 frame it sends while the link is lost. -/
def LossReaches (p : Main × LinkWatch) (e : MainEvent) : Prop :=
  p.2.lost = true → ∀ m, Out.can m ∈ (mainStep p.1 e).out → m.messageId = 0x100 → Inhibits m

/-- Only `COM_Tx_MainFunction` sends 0x100 frames. -/
theorem lossReaches_other {p : Main × LinkWatch} {e : MainEvent}
    (he : e.call ≠ .comTxMainFunction) : LossReaches p e := by
  intro _ m hm hid
  rcases can_step hm with ⟨hcall, -⟩ | ⟨-, h | h⟩
  · exact absurd hcall he
  · exact absurd (hid.symm.trans h) (by decide)
  · exact absurd (hid.symm.trans h) (by decide)

theorem lossReaches_tx {p : Main × LinkWatch} {e : MainEvent}
    (h : Covered (relay p.1) p.2) : LossReaches p e := by
  intro hl m hm hid
  rcases can_step hm with ⟨-, hframe | hframe⟩ | ⟨-, h | h⟩
  · rw [hframe]
    exact inhibits_actFrame (h hl)
  · have hid : (0x110 : Nat) = 0x100 := by rwa [hframe] at hid
    exact absurd hid (by decide)
  · exact absurd (hid.symm.trans h) (by decide)
  · exact absurd (hid.symm.trans h) (by decide)

/-! ## One pass of the loop -/

/-- The clock condition of a call. -/
def OnTime (start : Nat) (p : Main × LinkWatch) (e : MainEvent) : Prop :=
  p.2.clock ≤ time e ∧ time e < start + 2 ^ 32

theorem receive_call {p : Pass} {e : MainEvent} (he : e ∈ p.receive) :
    e.call ≠ .comTxMainFunction := by
  rcases List.mem_append.mp he with he | he
  · obtain ⟨q, -, rfl⟩ := List.mem_map.mp he
    simp
  · obtain ⟨q, -, rfl⟩ := List.mem_map.mp he
    simp

/-- **A pass.**  The invariant holds again after it, and every frame in it is right. -/
theorem pass_reaches {start : Nat} {p : Main × LinkWatch} (pass : Pass)
    (h : Linked start (relay p.1) p.2)
    (hclock : AllSteps linkStep (OnTime start) p pass.events) :
    AllSteps linkStep LossReaches p pass.events ∧
      Linked start (relay (run linkStep p pass.events).1) (run linkStep p pass.events).2 := by
  obtain ⟨hrec, htail⟩ := allSteps_append.mp hclock
  have hinv : Linked start (relay (run linkStep p pass.events).1)
      (run linkStep p pass.events).2 :=
    run_guarded (fun q => Linked start (relay q.1) q.2)
      (fun q e hq hok => linked_step hq hok.1) h hclock
  refine ⟨allSteps_append.mpr ⟨?_, ?_⟩, hinv⟩
  · exact allSteps_of_mem fun q e he => lossReaches_other (receive_call he)
  · have hq : Linked start (relay (run linkStep p pass.receive).1)
        (run linkStep p pass.receive).2 :=
      run_guarded (fun q => Linked start (relay q.1) q.2)
        (fun q e hq hok => linked_step hq hok.1) h hrec
    generalize run linkStep p pass.receive = q at hq htail
    -- between `COM_TimeOut` and `COM_Tx_MainFunction` nothing happens to the relay
    have hcov : Covered (relay (linkStep q ⟨pass.timeOut, .comTimeOut⟩).1)
        (linkStep q ⟨pass.timeOut, .comTimeOut⟩).2 := by
      show Covered (relay (mainStep q.1 _)) _
      rw [relay_step]
      exact covered_watch hq htail.1.1 htail.1.2
    exact ⟨lossReaches_other (by simp), lossReaches_tx hcov, lossReaches_other (by simp),
      lossReaches_other (by simp), trivial⟩

/-! ## Every run -/

theorem passes_reach {start : Nat} {p : Main × LinkWatch} (passes : List Pass)
    (h : Linked start (relay p.1) p.2)
    (hclock : AllSteps linkStep (OnTime start) p (passes.flatMap Pass.events)) :
    AllSteps linkStep LossReaches p (passes.flatMap Pass.events) := by
  induction passes generalizing p with
  | nil => trivial
  | cons pass passes ih =>
      rw [List.flatMap_cons] at hclock ⊢
      obtain ⟨hfirst, hrest⟩ := allSteps_append.mp hclock
      obtain ⟨hreach, hnext⟩ := pass_reaches pass h hfirst
      exact allSteps_append.mpr ⟨hreach, ih hnext hrest⟩

/-- **Remote-link loss always reaches the actuator.**  In every run of the main loop that
    takes less than 2^32 ms, once a `COM_TimeOut` has found the last control packet 500 ms
    old, no 0x100 frame until the next control packet lets ACT drive. -/
theorem remote_loss_reaches_act (start : Nat) (passes : List Pass)
    (hclock : Clocked time start (passes.flatMap Pass.events)) :
    AllSteps linkStep LossReaches (mainReset, LinkWatch.start start)
      (passes.flatMap Pass.events) := by
  apply passes_reach passes (linked_start start (relay mainReset))
  have hstart : (mainReset, LinkWatch.start start).2.clock = start := rfl
  exact allSteps_clocked time (fun q : Main × LinkWatch => q.2.clock)
    (fun q e => clock_step q.2 e) hstart hclock

/-- A pass with some callbacks, in which all calls find the same time. -/
def passAt (now : Nat) (lwip : List LwipCall) : Pass where
  lwip := lwip.map fun c => (freeEnv now, c)
  can := []
  timeOut := freeEnv now
  tx := freeEnv now
  sd := freeEnv now
  soad := freeEnv now

/-- Drive, then a diagnostic session in which the packets stop, then the tester leaves: the
    link is found lost in diagnostic mode, and the mode is remote again when the last frame
    is sent. -/
def sessionLoss : List Pass :=
  [passAt 10 [control drivePacket], passAt 30 [.tcpAccept 1, .tcpRecv 1 activationRequest []],
   passAt 600 [], passAt 700 [.tcpFin 1]]

/-- That frame drives in remote mode, with the override. -/
theorem remote_loss_reaches_act_session :
    AllSteps linkStep LossReaches (mainReset, LinkWatch.start 0)
      (sessionLoss.flatMap Pass.events) ∧
    (mainRun ((sessionLoss.flatMap Pass.events).dropLast.dropLast)).out =
      [.can (fdMessage 0x100 6 [1, 1, 0, 3, modeRemote, pcTimeoutBreak]),
       .can (fdMessage 0x110 6 [0, pcTimeoutLight, 0, 0, 1, modeRemote]),
       .udp ⟨192, 168, 10, 1⟩ 5001 [1, 0, 0]] :=
  ⟨remote_loss_reaches_act 0 sessionLoss (by decide), by decide +kernel⟩

end RemoteLoss
