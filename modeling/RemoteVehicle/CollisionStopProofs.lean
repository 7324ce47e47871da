import RemoteVehicle.MainFrameProofs
import RemoteVehicle.ActWatch

/-!
# After a collision event

BODY reports a collision on 0x210.  MAIN forwards the message to the PC and does nothing
else with it: `relayOps` has no operation for it.  So the 0x100 frames after a collision are
those that packets, time-outs and diagnostic sessions order, as if nothing had happened.

`Orders` reads from the list of these operations whether a stop is ordered.  It does not
restart any time stamp as `COM_TimeOut` does; `Follows` says why that makes no difference.
-/

namespace CollisionStop

open Runs CanFrame MainState MainCom MainLoop MainSpec MainFrame
open ActCan ActSpec ActWatch

/-! ## What orders a stop -/

/-- Brake byte and time of the last packet, the mode, and whether a `COM_TimeOut` since the
    packet has found it 500 ms old in remote mode. -/
structure Orders where
  brake : UInt8
  packetTime : UInt32
  mode : UInt8
  late : Bool
deriving DecidableEq, Repr

/-- Before the first packet. -/
def Orders.boot : Orders := ⟨0, 0, modeDefault, false⟩

def Orders.step (o : Orders) : RelayOp → Orders
  | .packet ctr now => ⟨ctr.brake, now, ignitionMode ctr.ignition o.mode, false⟩
  | .buzzer _ => o
  | .activated => if o.mode = modeRemote then { o with mode := modeDiag } else o
  | .deactivated => if o.mode = modeDiag then { o with mode := modeRemote } else o
  | .watch now =>
      if o.mode = modeRemote ∧ udpTimeoutThresholdMs ≤ now - o.packetTime then
        { o with late := true }
      else o

/-- The orders of a list of operations. -/
def ordersAfter (ops : List RelayOp) : Orders := run Orders.step Orders.boot ops

/-- A packet with the brake, a mode other than remote, or a time-out. -/
def Orders.Stop (o : Orders) : Prop :=
  o.brake = actCanBrakeOn ∨ o.mode ≠ modeRemote ∨ o.late = true

instance (o : Orders) : Decidable o.Stop := by unfold Orders.Stop; infer_instance

/-! ## The relay follows the orders -/

/-- The relay says the same.  Its time stamp may be younger than the packet, but only when
    the override stands already. -/
structure Follows (r : Relay) (o : Orders) : Prop where
  brake : r.ctr.brake = o.brake
  mode : r.curMode = o.mode
  override : r.safetyOverride = if o.late then pcTimeoutBreak else pcDefault
  time : o.late = false → r.lastUdpRxTime = o.packetTime

section Follows

variable {r : Relay} {o : Orders}

theorem follows_activated (h : Follows r o) : Follows (r.step .activated) (o.step .activated) := by
  rw [Relay.step, Orders.step, h.mode]
  split
  · exact ⟨h.brake, rfl, h.override, h.time⟩
  · exact h

theorem follows_deactivated (h : Follows r o) :
    Follows (r.step .deactivated) (o.step .deactivated) := by
  rw [Relay.step, Orders.step, h.mode]
  split
  · exact ⟨h.brake, rfl, h.override, h.time⟩
  · exact h

/-- After one time-out the others change nothing. -/
theorem follows_watch (h : Follows r o) (now : UInt32) :
    Follows (r.step (.watch now)) (o.step (.watch now)) := by
  obtain ⟨hbrake, hmode, hover, htime⟩ := h
  rw [Relay.step, Orders.step]
  cases hlate : o.late with
  | true =>
      -- the time stamp is the relay's own business now
      have hset : r.safetyOverride = pcTimeoutBreak := by rw [hover, hlate]; rfl
      have hsame : (if o.mode = modeRemote ∧ udpTimeoutThresholdMs ≤ now - o.packetTime then
          { o with late := true } else o) = o := by
        split
        · rw [← hlate]
        · rfl
      rw [hsame]
      have hno : ∀ {t : UInt32}, o.late = false → t = o.packetTime := by
        intro t hfalse
        rw [hlate] at hfalse
        cases hfalse
      split
      · exact ⟨hbrake, hmode, by rw [hlate]; rfl, hno⟩
      · exact ⟨hbrake, hmode, by rw [hlate, hset]; rfl, hno⟩
  | false =>
      have hstale : r.Stale now ↔
          o.mode = modeRemote ∧ udpTimeoutThresholdMs ≤ now - o.packetTime := by
        rw [Relay.Stale, hmode, htime hlate]
      simp only [hstale]
      split
      · refine ⟨hbrake, hmode, rfl, ?_⟩
        intro hfalse
        cases hfalse
      · exact ⟨hbrake, hmode, hover, htime⟩

/-- **Step lemma.** -/
theorem follows_step (h : Follows r o) (op : RelayOp) : Follows (r.step op) (o.step op) := by
  cases op with
  | packet ctr now =>
      refine ⟨rfl, ?_, rfl, fun _ => rfl⟩
      show ignitionMode ctr.ignition r.curMode = ignitionMode ctr.ignition o.mode
      rw [h.mode]
  | buzzer state => exact ⟨h.brake, h.mode, h.override, h.time⟩
  | activated => exact follows_activated h
  | deactivated => exact follows_deactivated h
  | watch now => exact follows_watch h now

theorem follows_ops (h : Follows r o) (ops : List RelayOp) :
    Follows (run Relay.step r ops) (run Orders.step o ops) := by
  induction ops generalizing r o with
  | nil => exact h
  | cons op ops ih => exact ih (follows_step h op)

end Follows

/-- **Run lemma.** -/
theorem follows_run (es : List MainEvent) :
    Follows (relay (mainRun es)) (ordersAfter (trace mainStep relayOps mainReset es)) := by
  have hsteps : AllSteps mainStep (fun _ _ => True) mainReset es :=
    allSteps_of_mem fun _ _ _ => trivial
  have hboot : Follows (relay mainReset) (ordersAfter []) := ⟨rfl, rfl, rfl, fun _ => rfl⟩
  refine trace_guarded (f := relayOps) (fun s ops => Follows (relay s) (ordersAfter ops)) ?_
    hboot hsteps
  intro s ops e hs _
  rw [relay_step, ordersAfter, run_append]
  exact follows_ops hs (relayOps s e)

/-! ## Frames -/

/-- What ACT reads out of a frame. -/
def commandOf (m : CanMessage) : ActState.ActCommand := commandOfBytes (rxByte m)

/-- The frame orders a stop when the history does. -/
theorem ordersStop_actFrame {r : Relay} {o : Orders} (h : Follows r o) :
    OrdersStop (commandOf (actFrame r)) ↔ o.Stop := by
  have hover : r.safetyOverride = actCanSafetyForceStop ↔ o.late = true := by
    rw [h.override]
    cases o.late with
    | false => exact iff_of_false (by decide) Bool.false_ne_true
    | true => exact iff_of_true rfl rfl
  have hcommand : commandOf (actFrame r) = actCommand r := commandOfBytes_actFrame r
  rw [hcommand, OrdersStop, Orders.Stop, ← h.brake, ← h.mode, ← hover]
  show (r.safetyOverride = actCanSafetyForceStop ∨ r.curMode ≠ modeRemote ∨
    r.ctr.brake = actCanBrakeOn) ↔ _
  constructor
  · rintro (hs | hm | hb)
    · exact Or.inr (Or.inr hs)
    · exact Or.inr (Or.inl hm)
    · exact Or.inl hb
  · rintro (hb | hm | hs)
    · exact Or.inr (Or.inr hb)
    · exact Or.inr (Or.inl hm)
    · exact Or.inl hs

/-- A 0x100 frame is the relay's. -/
theorem actFrame_of_can {s : Main} {e : MainEvent} {m : CanMessage}
    (hm : Out.can m ∈ (mainStep s e).out) (hid : m.messageId = 0x100) : m = actFrame (relay s) := by
  rcases can_step hm with ⟨-, rfl | rfl⟩ | ⟨-, h | h⟩
  · rfl
  · have hid : (0x110 : Nat) = 0x100 := hid
    exact absurd hid (by decide)
  · exact absurd (hid.symm.trans h) (by decide)
  · exact absurd (hid.symm.trans h) (by decide)

/-- A collision event on CAN, and what happens before and after it. -/
structure Collision where
  before : List MainEvent
  env : Env
  event : CanRx
  between : List MainEvent
  isEvent : event.messageId = 0x210

def Collision.received (c : Collision) : MainEvent := ⟨c.env, .canRead c.event⟩

/-- The whole list of calls. -/
def Collision.events (c : Collision) : List MainEvent := c.before ++ c.received :: c.between

/-- The operations before the event, and those after it. -/
def Collision.ops (c : Collision) : List RelayOp :=
  trace mainStep relayOps mainReset c.before ++
    trace mainStep relayOps (mainStep (mainRun c.before) c.received) c.between

/-- **The event is nothing to the relay.** -/
theorem trace_collision (c : Collision) :
    trace mainStep relayOps mainReset c.events = c.ops := by
  rw [Collision.events, trace_append]
  rfl

/-- **AFTER A COLLISION EVENT**, a 0x100 frame orders a stop exactly when the packets,
    time-outs and diagnostic sessions do: the last packet has the brake on, the mode is not
    remote, or the last packet was found too old.  This holds of every such frame, the first
    one included. -/
theorem collision_stop_iff (c : Collision) {tx : MainEvent} {m : CanMessage}
    (hm : Out.can m ∈ (mainStep (mainRun c.events) tx).out) (hid : m.messageId = 0x100) :
    OrdersStop (commandOf m) ↔ (ordersAfter c.ops).Stop := by
  rw [actFrame_of_can hm hid, ← trace_collision]
  exact ordersStop_actFrame (follows_run c.events)

/-- No 0x100 frame is sent. -/
def NoActFrame (s : Main) (e : MainEvent) : Prop :=
  ∀ m, Out.can m ∈ (mainStep s e).out → m.messageId ≠ 0x100

/-- Accelerating in gear D, and then the collision. -/
def driveCollision : Collision where
  before := [⟨freeEnv 10, .lwip (control drivePacket)⟩]
  env := freeEnv 15
  event := ⟨0x210, 5, ofList [1, 0, 0, 0, 15]⟩
  between := []
  isEvent := rfl

/-- Its frame is one that the law is about. -/
theorem collision_stop_iff_drive :
    OrdersStop (commandOf (fdMessage 0x100 6 [1, 1, 0, 3, 1, 0])) ↔
      (ordersAfter driveCollision.ops).Stop := by
  have hsent : Out.can (fdMessage 0x100 6 [1, 1, 0, 3, 1, 0]) ∈
      (mainStep (mainRun driveCollision.events) ⟨freeEnv 30, .comTxMainFunction⟩).out := by
    decide +kernel
  exact collision_stop_iff driveCollision hsent rfl

/-- **The first frame after the collision still drives.** -/
theorem collision_does_not_stop :
    ¬ ∀ (c : Collision) (tx : MainEvent) (m : CanMessage),
      AllSteps mainStep NoActFrame (mainRun (c.before ++ [c.received])) c.between →
      Out.can m ∈ (mainStep (mainRun c.events) tx).out → m.messageId = 0x100 →
      OrdersStop (commandOf m) := by
  intro h
  have hstop := h driveCollision ⟨freeEnv 30, .comTxMainFunction⟩
    (fdMessage 0x100 6 [1, 1, 0, 3, 1, 0]) trivial (by decide +kernel) rfl
  exact absurd hstop (by decide +kernel)

end CollisionStop
