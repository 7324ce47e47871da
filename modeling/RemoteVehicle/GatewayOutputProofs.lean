import RemoteVehicle.MainFrameProofs

/-!
# Which command frames the ECUs accept

MAIN forwards the bytes of a control packet and of a buzzer request as they came; ACT and
BODY check them.  `Origin` stands beside a run and remembers what came in last, and
`Carries` says how the relay is made of it: control bytes from the last packet, buzzer byte
from the last request, hazard lights after a time-out, mode and override from MAIN itself.

MAIN's own bytes always pass.  So a frame is accepted exactly when the bytes that came in
are valid (`gateway_output_accepted_iff`), and one packet with a byte out of range makes
both ECUs drop the periodic frames.
-/

namespace GatewayOutput

open Runs CanFrame MainState MainCom MainTcp MainLoop MainSpec MainFrame
open ActCan BodyCan

/-! ## What came in -/

/-- The last control packet, whether its turn signal has been replaced by the hazard lights
    of a time-out, and the state of the last buzzer request. -/
structure Origin where
  packet : UdpCtr
  hazard : Bool
  buzzer : UInt8
deriving DecidableEq, Repr

/-- Before anything came in. -/
def Origin.initial : Origin := ⟨⟨0, 0, 0, 0, 0, 0, 0, 0⟩, false, 1⟩

inductive OriginOp where
  | packet (ctr : UdpCtr)
  | buzzer (state : UInt8)
  | hazard
deriving DecidableEq, Repr

def Origin.step (o : Origin) : OriginOp → Origin
  | .packet ctr => { o with packet := ctr, hazard := false }
  | .buzzer state => { o with buzzer := state }
  | .hazard => { o with hazard := true }

/-- What an operation on the relay brings in. -/
def originOp (r : Relay) : RelayOp → List OriginOp
  | .packet ctr _ => [.packet ctr]
  | .buzzer state => [.buzzer state]
  | .watch now => if r.Stale now then [.hazard] else []
  | .activated => []
  | .deactivated => []

/-- What a call brings in. -/
def originOps (s : Main) (e : MainEvent) : List OriginOp :=
  (relayOps s e).flatMap (originOp (relay s))

/-- MAIN with what came in. -/
def originStep : Main × Origin → MainEvent → Main × Origin :=
  withSpec mainStep Origin.step originOps

def originRun (es : List MainEvent) : Main × Origin :=
  run originStep (mainReset, Origin.initial) es

theorem originRun_fst (es : List MainEvent) : (originRun es).1 = mainRun es :=
  run_withSpec_fst ..

/-- The turn signal in force. -/
def Origin.turnSignal (o : Origin) : UInt8 :=
  if o.hazard then pcTimeoutLight else o.packet.turnSignal

/-! ## Valid bytes -/

/-- The control bytes pass the checks of ACT. -/
def Origin.DriveValid (o : Origin) : Prop :=
  actCanIsValidBool o.packet.accel = true ∧ actCanIsValidSteering o.packet.steer = true ∧
    actCanIsValidBool o.packet.brake = true ∧ actCanIsValidGear o.packet.gear = true

/-- The control and buzzer bytes pass the checks of BODY. -/
def Origin.BodyValid (o : Origin) : Prop :=
  bodyCanIsValidBool o.packet.headLight = true ∧
    bodyCanIsValidTurnSignal o.turnSignal = true ∧
    bodyCanIsValidBool o.packet.brake = true ∧ bodyCanIsValidBool o.packet.horn = true ∧
    bodyCanIsValidBool o.buzzer = true

instance (o : Origin) : Decidable o.DriveValid := by unfold Origin.DriveValid; infer_instance
instance (o : Origin) : Decidable o.BodyValid := by unfold Origin.BodyValid; infer_instance

/-! ## The relay carries what came in -/

/-- MAIN's own bytes are in range. -/
def OwnBytes (r : Relay) : Prop :=
  (r.curMode = modeDefault ∨ r.curMode = modeRemote ∨ r.curMode = modeDiag) ∧
    (r.safetyOverride = pcDefault ∨ r.safetyOverride = pcTimeoutBreak)

/-- The relay is made of what came in. -/
structure Carries (r : Relay) (o : Origin) : Prop where
  ctr : r.ctr = { o.packet with turnSignal := o.turnSignal }
  buzzer : r.collisionWarn = o.buzzer
  own : OwnBytes r

theorem carries_reset : Carries (relay mainReset) Origin.initial :=
  ⟨rfl, rfl, Or.inl rfl, Or.inl rfl⟩

/-- An ignition byte selects one of the modes or keeps the old one. -/
theorem ignitionMode_own {curMode : UInt8} (ignition : UInt8)
    (h : curMode = modeDefault ∨ curMode = modeRemote ∨ curMode = modeDiag) :
    ignitionMode ignition curMode = modeDefault ∨ ignitionMode ignition curMode = modeRemote ∨
      ignitionMode ignition curMode = modeDiag := by
  rw [ignitionMode]
  split
  · exact Or.inr (Or.inl rfl)
  · split
    · exact Or.inl rfl
    · exact h

/-- **Step lemma**, one operation on the relay. -/
theorem carries_op {r : Relay} {o : Origin} (h : Carries r o) (op : RelayOp) :
    Carries (r.step op) (run Origin.step o (originOp r op)) := by
  obtain ⟨hctr, hbuzzer, hmode, hover⟩ := h
  cases op with
  | packet ctr now => exact ⟨rfl, hbuzzer, ignitionMode_own ctr.ignition hmode, Or.inl rfl⟩
  | buzzer state => exact ⟨hctr, rfl, hmode, hover⟩
  | activated =>
      rw [Relay.step]
      split
      · exact ⟨hctr, hbuzzer, Or.inr (Or.inr rfl), hover⟩
      · exact ⟨hctr, hbuzzer, hmode, hover⟩
  | deactivated =>
      rw [Relay.step]
      split
      · exact ⟨hctr, hbuzzer, Or.inr (Or.inl rfl), hover⟩
      · exact ⟨hctr, hbuzzer, hmode, hover⟩
  | watch now =>
      rw [Relay.step, originOp]
      split
      · refine ⟨?_, hbuzzer, hmode, Or.inr rfl⟩
        simp only [Relay.timeout, hctr]
        rfl
      · exact ⟨hctr, hbuzzer, hmode, hover⟩

/-- A call is at most one operation on the relay. -/
theorem relayOps_cases (s : Main) (e : MainEvent) :
    relayOps s e = [] ∨ ∃ op, relayOps s e = [op] := by
  -- a DoIP buffer activates or does nothing to the relay
  have hdoip : ∀ p, doipOps p = [] ∨ ∃ op, doipOps p = [op] := by
    intro p
    rw [doipOps]
    split
    · exact Or.inr ⟨_, rfl⟩
    · exact Or.inl rfl
  obtain ⟨env, call⟩ := e
  cases call with
  | lwip c =>
      cases c with
      | udpRecv localPort p addr port =>
          simp only [relayOps, lwipOps, udpOps]
          split
          · exact Or.inr ⟨_, rfl⟩
          · split
            · split
              · exact Or.inr ⟨_, rfl⟩
              · exact Or.inl rfl
            · split
              · exact hdoip p
              · exact Or.inl rfl
      | tcpAccept newpcb => exact Or.inl rfl
      | tcpRecv tpcb p rest =>
          simp only [relayOps, lwipOps]
          split
          · exact hdoip p
          · exact Or.inl rfl
      | tcpFin tpcb =>
          simp only [relayOps, lwipOps]
          split
          · exact Or.inr ⟨_, rfl⟩
          · exact Or.inl rfl
      | tcpErr tpcb => exact Or.inl rfl
  | canRead m => exact Or.inl rfl
  | comTimeOut => exact Or.inr ⟨_, rfl⟩
  | comTxMainFunction => exact Or.inl rfl
  | sdMainFunction => exact Or.inl rfl
  | soAdMainFunction => exact Or.inl rfl

theorem carries_step {s : Main} {o : Origin} (h : Carries (relay s) o) (e : MainEvent) :
    Carries (relay (mainStep s e)) (run Origin.step o (originOps s e)) := by
  rw [relay_step, originOps]
  rcases relayOps_cases s e with hops | ⟨op, hops⟩
  · rw [hops]
    exact h
  · rw [hops]
    simp only [List.flatMap_cons, List.flatMap_nil, List.append_nil]
    exact carries_op h op

/-- **Run lemma.** -/
theorem carries_run (es : List MainEvent) :
    Carries (relay (originRun es).1) (originRun es).2 :=
  run_invariant (fun p : Main × Origin => Carries (relay p.1) p.2)
    (fun _ e h => carries_step h e) carries_reset es

/-! ## Acceptance -/

/-- ACT accepts the frame exactly when the control bytes are valid. -/
theorem actFrame_accepted_iff {r : Relay} {o : Origin} (h : Carries r o) :
    (ActSpec.accepted (actFrame r)).isSome ↔ o.DriveValid := by
  obtain ⟨hctr, -, hmode, hover⟩ := h
  have hcontrol : actCanIsValidControlMode r.curMode = true := by
    rcases hmode with hm | hm | hm <;> rw [hm] <;> decide
  have hsafety : actCanIsValidSafetyOverride r.safetyOverride = true := by
    rcases hover with ho | ho <;> rw [ho] <;> decide
  have hvalid : actCanIsValidCommand (actCommand r) = true ↔ o.DriveValid := by
    simp only [actCanIsValidCommand, actCommand, hcontrol, hsafety, hctr, Origin.DriveValid,
      Bool.and_eq_true, and_true, and_assoc]
  rw [accepted_actFrame, ← hvalid]
  split
  · rename_i hc
    simp [hc]
  · rename_i hc
    simp [hc]

/-- BODY accepts the frame exactly when the control and buzzer bytes are valid. -/
theorem bodyFrame_accepted_iff {r : Relay} {o : Origin} (h : Carries r o) :
    (BodySpec.accepted (bodyFrame r)).isSome ↔ o.BodyValid := by
  obtain ⟨hctr, hbuzzer, hmode, -⟩ := h
  have hcontrol : bodyCanIsValidControlMode r.curMode = true := by
    rcases hmode with hm | hm | hm <;> rw [hm] <;> decide
  have hvalid : bodyCanIsValidCommand (bodyCommand r) = true ↔ o.BodyValid := by
    simp only [bodyCanIsValidCommand, bodyCommand, hcontrol, hctr, hbuzzer, Origin.BodyValid,
      Bool.and_eq_true, and_true, and_assoc]
  rw [accepted_bodyFrame, ← hvalid]
  split
  · rename_i hc
    simp [hc]
  · rename_i hc
    simp [hc]

/-- **Gateway output.**  In every run, a 0x100 frame passes ACT's checks exactly when the
    last control packet carries valid control bytes, and a 0x110 frame passes BODY's checks
    exactly when the last packet (with the hazard lights of a time-out since) and the last
    buzzer request carry valid ones. -/
theorem gateway_output_accepted_iff (es : List MainEvent) (e : MainEvent) (m : CanMessage)
    (hm : Out.can m ∈ (mainStep (mainRun es) e).out) :
    (m.messageId = 0x100 → ((ActSpec.accepted m).isSome ↔ (originRun es).2.DriveValid)) ∧
    (m.messageId = 0x110 → ((BodySpec.accepted m).isSome ↔ (originRun es).2.BodyValid)) := by
  have hcar := carries_run es
  rw [originRun_fst] at hcar
  rcases can_step hm with ⟨-, rfl | rfl⟩ | ⟨-, hid⟩
  · refine ⟨fun _ => actFrame_accepted_iff hcar, ?_⟩
    intro hid
    exact absurd (show (0x100 : Nat) = 0x110 from hid) (by decide)
  · refine ⟨?_, fun _ => bodyFrame_accepted_iff hcar⟩
    intro hid
    exact absurd (show (0x110 : Nat) = 0x100 from hid) (by decide)
  · refine ⟨?_, ?_⟩
    · intro h
      rcases hid with hid | hid <;> exact absurd (h.symm.trans hid) (by decide)
    · intro h
      rcases hid with hid | hid <;> exact absurd (h.symm.trans hid) (by decide)

/-- A control packet that is processed and forwarded at the next transmission. -/
def forwarded (p : Pbuf) : List MainEvent :=
  [⟨freeEnv 20, .lwip (control p)⟩, ⟨freeEnv 20, .comTimeOut⟩]

/-- The transmission. -/
def transmit : MainEvent := ⟨freeEnv 20, .comTxMainFunction⟩

theorem gateway_output_accepted_drive :
    (ActSpec.accepted (fdMessage 0x100 6 [1, 1, 0, 3, 1, 0])).isSome ↔
      (originRun (forwarded drivePacket)).2.DriveValid :=
  (gateway_output_accepted_iff (forwarded drivePacket) transmit
    (fdMessage 0x100 6 [1, 1, 0, 3, 1, 0]) (by decide +kernel)).1 rfl

/-- A nine-byte packet whose accelerator, gear and head light are out of range. -/
def wildPacket : Pbuf := Pbuf.ofBytes [0, 2, 0, 0, 7, 0, 0, 1, 2] (by decide)

/-- A buzzer request with state 2. -/
def wildBuzzer : Pbuf :=
  Pbuf.ofBytes [0x20, 0x01, 0, 1, 0, 0, 0, 10, 0, 0, 0, 1, 1, 1, 0, 0, 1, 2] (by decide)

/-- **What comes in can silence the ECUs**: a packet out of range makes ACT and BODY drop
    the frames, and a buzzer request alone does so for BODY. -/
theorem gateway_output_rejected :
    (∃ m, Out.can m ∈ (mainStep (mainRun (forwarded wildPacket)) transmit).out ∧
      m.messageId = 0x100 ∧ ActSpec.accepted m = none) ∧
    (∃ m, Out.can m ∈ (mainStep (mainRun (forwarded wildPacket)) transmit).out ∧
      m.messageId = 0x110 ∧ BodySpec.accepted m = none) ∧
    (∃ m, Out.can m ∈ (mainStep (mainRun
        [⟨freeEnv 20, .lwip (.udpRecv 30492 wildBuzzer ⟨192, 168, 10, 1⟩ 40000)⟩]) transmit).out ∧
      m.messageId = 0x110 ∧ BodySpec.accepted m = none) := by
  refine ⟨⟨fdMessage 0x100 6 [2, 0, 0, 7, 1, 0], ?_, rfl, ?_⟩,
    ⟨fdMessage 0x110 6 [2, 0, 0, 0, 1, 1], ?_, rfl, ?_⟩,
    ⟨fdMessage 0x110 6 [0, 0, 0, 0, 2, 0], ?_, rfl, ?_⟩⟩
  all_goals decide +kernel

end GatewayOutput
