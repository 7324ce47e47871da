import RemoteVehicle.PcControlProofs

/-!
# Which packet is in force

The backend numbers its control packets and MAIN does not look at the number.  `Uplink` runs
the backend and MAIN with the network in between, which may lose, delay, reorder and double
packets.  What MAIN forwards is always the packet it has processed last
(`processed_last_wins`), so a packet that was delayed replaces a newer one
(`delayed_packet_wins`).
-/

namespace PacketOrder

open Runs CanFrame MainState MainCom MainTcp MainLoop MainSpec MainFrame PcBackend PcControl

/-! ## The uplink -/

/-- Backend and MAIN; `sent` holds the control states of all packets so far, `delivered` the
    places in it of those that MAIN has processed. -/
structure Uplink where
  pc : Pc
  main : Main
  sent : List ControlState
  delivered : List Nat

inductive UplinkEvent where
  /-- A request to the backend, or a packet that it sends. -/
  | pc (e : PcEvent)
  /-- MAIN processes packet `i`. -/
  | deliver (env : Env) (i : Nat) (p : Pbuf) (addr : IpAddr) (port : Nat)
  /-- Another call of MAIN. -/
  | main (e : MainEvent)

/-- The control state in the packet that an event sends. -/
def sentBy (s : Pc) : PcEvent → List ControlState
  | .send => [s.control]
  | _ => []

def uplinkStep (u : Uplink) : UplinkEvent → Uplink
  | .pc e => { u with pc := pcStep u.pc e, sent := u.sent ++ sentBy u.pc e }
  | .deliver env i p addr port =>
      { u with
        main := mainStep u.main ⟨env, .lwip (.udpRecv 5000 p addr port)⟩
        delivered := u.delivered ++ [i] }
  | .main e => { u with main := mainStep u.main e }

def uplinkStart : Uplink := ⟨pcInitial, mainReset, [], []⟩

/-- Only packets that have been sent are delivered. -/
def OnWire (u : Uplink) : UplinkEvent → Prop
  | .pc _ => True
  | .deliver _ i p _ _ => ∃ c, u.sent[i]? = some c ∧ p.bytes = controlPacket c
  | .main e => ∀ p addr port, e.call ≠ .lwip (.udpRecv 5000 p addr port)

/-- The newest packet that has been delivered. -/
def Uplink.newest (u : Uplink) : Option Nat := u.delivered.max?

/-! ## The command in force -/

/-- A control state and the command frames of MAIN.  Mode and turn signal are left out: MAIN
    changes them on its own. -/
structure Forwards (c : ControlState) (m : Main) : Prop where
  accel : (actCommand (relay m)).accelRaw.toNat = c.accel
  steer : (actCommand (relay m)).steeringRaw.toNat = c.steer
  brake : (actCommand (relay m)).brakeRaw.toNat = c.brake
  gear : (actCommand (relay m)).gearRaw.toNat = c.gear
  headLight : (bodyCommand (relay m)).headlampRaw.toNat = c.headLight
  brakeLamp : (bodyCommand (relay m)).brakeLampRaw.toNat = c.brake
  horn : (bodyCommand (relay m)).hornRaw.toNat = c.horn

/-- The relay holds a control state, but for the turn signal. -/
def InForce (c : ControlState) (r : Relay) : Prop :=
  r.ctr = { ctrOf c with turnSignal := r.ctr.turnSignal }

theorem forwards_of_inForce {c : ControlState} {m : Main} (hvalid : ValidControl c)
    (h : InForce c (relay m)) : Forwards c m := by
  have haccel : (relay m).ctr.accel = UInt8.ofNat c.accel := by rw [h]; rfl
  have hsteer : (relay m).ctr.steer = UInt8.ofNat c.steer := by rw [h]; rfl
  have hbrake : (relay m).ctr.brake = UInt8.ofNat c.brake := by rw [h]; rfl
  have hgear : (relay m).ctr.gear = UInt8.ofNat c.gear := by rw [h]; rfl
  have hhead : (relay m).ctr.headLight = UInt8.ofNat c.headLight := by rw [h]; rfl
  have hhorn : (relay m).ctr.horn = UInt8.ofNat c.horn := by rw [h]; rfl
  constructor
  · exact (congrArg UInt8.toNat haccel).trans (toNat_ofNat hvalid.accel (by decide))
  · exact (congrArg UInt8.toNat hsteer).trans (toNat_ofNat hvalid.steer (by decide))
  · exact (congrArg UInt8.toNat hbrake).trans (toNat_ofNat hvalid.brake (by decide))
  · exact (congrArg UInt8.toNat hgear).trans (toNat_ofNat hvalid.gear (by decide))
  · exact (congrArg UInt8.toNat hhead).trans (toNat_ofNat hvalid.headLight (by decide))
  · exact (congrArg UInt8.toNat hbrake).trans (toNat_ofNat hvalid.brake (by decide))
  · exact (congrArg UInt8.toNat hhorn).trans (toNat_ofNat hvalid.horn (by decide))

/-- Only a packet changes more than the turn signal. -/
theorem inForce_op {c : ControlState} {r : Relay} (h : InForce c r) {op : RelayOp}
    (hop : ∀ ctr now, op ≠ .packet ctr now) : InForce c (r.step op) := by
  cases op with
  | packet ctr now => exact absurd rfl (hop ctr now)
  | buzzer state => exact h
  | activated =>
      rw [Relay.step]
      split <;> exact h
  | deactivated =>
      rw [Relay.step]
      split <;> exact h
  | watch now =>
      rw [Relay.step]
      split
      · rw [InForce] at h
        rw [InForce, Relay.timeout, h]
      · exact h

/-- Without a datagram for port 5000 there is no packet. -/
theorem relayOps_quiet {m : Main} {e : MainEvent}
    (h : ∀ p addr port, e.call ≠ .lwip (.udpRecv 5000 p addr port)) :
    ∀ op ∈ relayOps m e, ∀ ctr now, op ≠ .packet ctr now := by
  have hdoip : ∀ p, ∀ op ∈ doipOps p, ∀ ctr now, op ≠ .packet ctr now := by
    intro p op hop ctr now
    rw [doipOps] at hop
    split at hop
    · rw [List.mem_singleton.mp hop]
      intro heq
      cases heq
    · cases hop
  obtain ⟨env, call⟩ := e
  intro op hop ctr now
  cases call with
  | lwip c =>
      cases c with
      | udpRecv localPort p addr port =>
          have hport : localPort ≠ 5000 := by
            rintro rfl
            exact h p addr port rfl
          have hop : op ∈ udpOps env localPort p := hop
          rw [udpOps, if_neg hport] at hop
          split at hop
          · split at hop
            · rw [List.mem_singleton.mp hop]
              intro heq
              cases heq
            · cases hop
          · split at hop
            · exact hdoip p op hop ctr now
            · cases hop
      | tcpAccept newpcb => cases hop
      | tcpRecv tpcb p rest =>
          have hop : op ∈ if tpcb ∈ m.tcp.registered then doipOps p else [] := hop
          split at hop
          · exact hdoip p op hop ctr now
          · cases hop
      | tcpFin tpcb =>
          have hop : op ∈ if tpcb ∈ m.tcp.registered then [RelayOp.deactivated] else [] := hop
          split at hop
          · rw [List.mem_singleton.mp hop]
            intro heq
            cases heq
          · cases hop
      | tcpErr tpcb => cases hop
  | canRead r => cases hop
  | comTimeOut =>
      rw [List.mem_singleton.mp hop]
      intro heq
      cases heq
  | comTxMainFunction => cases hop
  | sdMainFunction => cases hop
  | soAdMainFunction => cases hop

theorem inForce_ops {c : ControlState} {r : Relay} (h : InForce c r) {ops : List RelayOp}
    (hops : ∀ op ∈ ops, ∀ ctr now, op ≠ .packet ctr now) : InForce c (run Relay.step r ops) := by
  induction ops generalizing r with
  | nil => exact h
  | cons op ops ih =>
      exact ih (inForce_op h (hops op (by simp))) fun op' hop' => hops op' (by simp [hop'])

/-! ## Runs -/

/-- What is in force is the packet that MAIN has processed last. -/
structure Inv (u : Uplink) : Prop where
  valid : ValidControl u.pc.control
  sent : ∀ c ∈ u.sent, ValidControl c
  last : ∀ i, u.delivered.getLast? = some i → ∃ c, u.sent[i]? = some c ∧ InForce c (relay u.main)

theorem inv_start : Inv uplinkStart :=
  ⟨by constructor <;> exact Nat.zero_le _, fun _ hc => (by cases hc), fun _ hi => (by cases hi)⟩

theorem arrives_deliver {u : Uplink} (h : Inv u) {env : Env} {i : Nat} {p : Pbuf} {addr : IpAddr}
    {port : Nat} (hok : OnWire u (.deliver env i p addr port)) :
    ∃ c, u.sent[i]? = some c ∧ Arrives c (uplinkStep u (.deliver env i p addr port)).main := by
  obtain ⟨c, hi, hp⟩ := hok
  have hvalid := h.sent c (List.mem_of_getElem? hi)
  exact ⟨c, hi, packet_arrives hvalid hp u.main env addr port⟩

/-- **Step lemma.** -/
theorem inv_step {u : Uplink} (h : Inv u) {e : UplinkEvent} (hok : OnWire u e) :
    Inv (uplinkStep u e) := by
  cases e with
  | pc e =>
      refine ⟨valid_step h.valid e, ?_, ?_⟩
      · intro c hc
        rcases List.mem_append.mp hc with hold | hnew
        · exact h.sent c hold
        · -- a packet is a copy of the control state, which is valid
          cases e with
          | start => cases hnew
          | stop => cases hnew
          | control body => cases hnew
          | send =>
              rw [List.mem_singleton.mp hnew]
              exact h.valid
      · intro i hi
        obtain ⟨c, hc, hforce⟩ := h.last i hi
        obtain ⟨hlt, -⟩ := List.getElem?_eq_some_iff.mp hc
        exact ⟨c, (List.getElem?_append_left hlt).trans hc, hforce⟩
  | deliver env i p addr port =>
      refine ⟨h.valid, h.sent, ?_⟩
      -- the packet delivered last is in force at once
      intro j hj
      have hj : (u.delivered ++ [i]).getLast? = some j := hj
      rw [List.getLast?_concat] at hj
      cases hj
      obtain ⟨c, hc, harrives⟩ := arrives_deliver h hok
      refine ⟨c, hc, ?_⟩
      have hctr : (relay (uplinkStep u (.deliver env i p addr port)).main).ctr = ctrOf c :=
        harrives.ctr
      rw [InForce, hctr]
  | main e =>
      refine ⟨h.valid, h.sent, ?_⟩
      -- no other call changes the command in force, a time-out apart
      intro i hi
      obtain ⟨c, hc, hforce⟩ := h.last i hi
      refine ⟨c, hc, ?_⟩
      show InForce c (relay (mainStep u.main e))
      rw [relay_step]
      exact inForce_ops hforce (relayOps_quiet hok)

/-- Where packets are processed in order, the last one is the newest. -/
theorem newest_of_sorted {u : Uplink} (hsorted : u.delivered.Pairwise (· ≤ ·)) {i : Nat}
    (hi : u.newest = some i) : u.delivered.getLast? = some i := by
  obtain ⟨hmem, hmax⟩ := List.max?_eq_some_iff.mp hi
  rcases List.eq_nil_or_concat' u.delivered with hnil | ⟨front, last, hconcat⟩
  · rw [hnil] at hmem
    cases hmem
  · rw [hconcat] at hsorted hmem hmax
    rw [hconcat, List.getLast?_concat]
    have hle : last ≤ i := hmax last (by simp)
    have hge : i ≤ last := by
      rcases List.mem_append.mp hmem with hfront | hlast
      · exact (List.pairwise_append.mp hsorted).2.2 i hfront last (by simp)
      · exact (List.mem_singleton.mp hlast).le
    rw [Nat.le_antisymm hle hge]

/-- **The packet processed last wins.**  Every packet that MAIN processes replaces the command
    in force, whatever its number, and stays in force until the next one; so the newest packet
    delivered so far is in force whenever packets are processed in order. -/
theorem processed_last_wins {es : List UplinkEvent}
    (h : AllSteps uplinkStep OnWire uplinkStart es) :
    AllSteps uplinkStep
        (fun u e => ∀ env i p addr port, e = .deliver env i p addr port →
          ∃ c, u.sent[i]? = some c ∧ Arrives c (uplinkStep u e).main) uplinkStart es ∧
      (∀ i, (run uplinkStep uplinkStart es).delivered.getLast? = some i →
        ∃ c, (run uplinkStep uplinkStart es).sent[i]? = some c ∧
          Forwards c (run uplinkStep uplinkStart es).main) ∧
      ((run uplinkStep uplinkStart es).delivered.Pairwise (· ≤ ·) →
        ∀ i, (run uplinkStep uplinkStart es).newest = some i →
          ∃ c, (run uplinkStep uplinkStart es).sent[i]? = some c ∧
            Forwards c (run uplinkStep uplinkStart es).main) := by
  have hinv := run_guarded Inv (fun _ _ hinv hok => inv_step hinv hok) inv_start h
  have hlast : ∀ i, (run uplinkStep uplinkStart es).delivered.getLast? = some i →
      ∃ c, (run uplinkStep uplinkStart es).sent[i]? = some c ∧
        Forwards c (run uplinkStep uplinkStart es).main := by
    intro i hi
    obtain ⟨c, hc, hforce⟩ := hinv.last i hi
    exact ⟨c, hc, forwards_of_inForce (hinv.sent c (List.mem_of_getElem? hc)) hforce⟩
  refine ⟨?_, hlast, ?_⟩
  · refine allSteps_guarded Inv (fun _ _ hinv hok => inv_step hinv hok) ?_ inv_start h
    rintro u e hu hok env i p addr port rfl
    exact arrives_deliver hu hok
  · intro hsorted i hi
    exact hlast i (newest_of_sorted hsorted hi)

/-- The operator accelerates and then brakes; the first packet is delayed. -/
def delayedRun : List UplinkEvent :=
  [.pc .start,
   .pc (.control (some (.obj [("type", .str "ignition"), ("value", .str "ON")]))),
   .pc (.control (some (.obj [("type", .str "drive"), ("value", .str "FORWARD")]))),
   .pc .send,
   .pc (.control (some (.obj [("type", .str "drive"), ("value", .str "STOP")]))),
   .pc (.control (some (.obj [("type", .str "brake"), ("value", .str "ON")]))),
   .pc .send,
   .deliver (freeEnv 10) 1 (Pbuf.ofBytes [1, 0, 1, 0, 2, 0, 0, 1, 0, 0, 0, 0, 0] (by decide))
     ⟨192, 168, 10, 1⟩ 40000,
   .deliver (freeEnv 20) 0 (Pbuf.ofBytes [0, 1, 0, 0, 3, 0, 0, 1, 0, 0, 0, 0, 0] (by decide))
     ⟨192, 168, 10, 1⟩ 40000]

theorem onWire_delayedRun : AllSteps uplinkStep OnWire uplinkStart delayedRun :=
  ⟨trivial, trivial, trivial, trivial, trivial, trivial, trivial, ⟨_, rfl, rfl⟩, ⟨_, rfl, rfl⟩,
    trivial⟩

/-- The packet that was processed last is in force. -/
theorem processed_last_wins_delayed :
    ∃ c, (run uplinkStep uplinkStart delayedRun).sent[0]? = some c ∧
      Forwards c (run uplinkStep uplinkStart delayedRun).main :=
  (processed_last_wins onWire_delayedRun).2.1 0 rfl

/-- **A delayed packet replaces the newer one**: two packets are in flight, the newer one
    brakes, and ACT is told to accelerate. -/
theorem delayed_packet_wins :
    AllSteps uplinkStep OnWire uplinkStart delayedRun ∧
      (run uplinkStep uplinkStart delayedRun).newest = some 1 ∧
      (run uplinkStep uplinkStart delayedRun).sent[1]? = some ⟨1, 0, 1, 0, 2, 0, 0, 1, 0⟩ ∧
      ∃ m, .can m ∈ (mainStep (run uplinkStep uplinkStart delayedRun).main
          ⟨freeEnv 20, .comTxMainFunction⟩).out ∧
        ActSpec.accepted m = some ⟨1, 0, 0, 3, modeRemote, pcDefault⟩ := by
  refine ⟨onWire_delayedRun, rfl, rfl,
    actFrame (relay (run uplinkStep uplinkStart delayedRun).main), ?_, ?_⟩
  · have hout : (mainStep (run uplinkStep uplinkStart delayedRun).main
        ⟨freeEnv 20, .comTxMainFunction⟩).out.head? =
        some (.can (actFrame (relay (run uplinkStep uplinkStart delayedRun).main))) := rfl
    exact List.mem_of_mem_head? hout
  · rw [accepted_actFrame]
    rfl

end PacketOrder
