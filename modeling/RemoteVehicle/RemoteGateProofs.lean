import RemoteVehicle.PcControlProofs

/-!
# Control requests outside a remote-control session

Starting and stopping remote control write one dictionary, control requests another, and the
packets are made of the second alone.  So the packets of an inactive backend are idle as long
as nobody sends it a request that switches the ignition on or accelerates
(`idle_while_inactive_iff`); such a request is not refused.
-/

namespace RemoteGate

open Runs MainState MainCom MainTcp MainLoop MainSpec MainFrame PcBackend PcControl

/-! ## Idle packets -/

/-- Ignition off and no accelerator. -/
def Idle (packet : List UInt8) : Prop := packet.getD 7 0 = 0 ∧ packet.getD 1 0 = 0

/-- A packet that is built now is idle, unless remote control is active. -/
def IdleWhileInactive (s : Pc) : Prop :=
  s.vehicle.remoteControlActive = false → Idle (controlPacket s.control)

/-- **MAIN after an idle packet** is in default mode and does not accelerate. -/
theorem main_idle {p : Pbuf} {s : Pc} (hp : p.bytes = controlPacket s.control)
    (h : Idle (controlPacket s.control)) (m : Main) (env : Env) (addr : IpAddr) (port : Nat) :
    (mainStep m ⟨env, .lwip (.udpRecv 5000 p addr port)⟩).com.curMode = modeDefault ∧
      (mainStep m ⟨env, .lwip (.udpRecv 5000 p addr port)⟩).com.rxUdpCtr.accel = 0 := by
  have hrelay := relay_packet hp m env addr port
  have hmode : ignitionMode (ctrOf s.control).ignition (relay m).curMode = modeDefault := by
    have hignition : (ctrOf s.control).ignition = 0 := h.1
    rw [hignition]
    rfl
  constructor
  · exact (congrArg Relay.curMode hrelay).trans hmode
  · exact (congrArg (fun r => r.ctr.accel) hrelay).trans h.2

/-! ## Requests that are not idle -/

/-- A request that switches the ignition on, or accelerates. -/
def Powers : PcEvent → Prop
  | .control (some (.obj fields)) =>
      (getField "type" fields).is "ignition" = true ∧ (getField "value" fields).is "ON" = true ∨
      (getField "type" fields).is "drive" = true ∧
        ∃ d, lookupValue validDriveValues (getField "value" fields) = some d ∧ driveAccel d = 1
  | _ => False

section Step

variable {s : Pc}

theorem idle_drive (hidle : Idle (controlPacket s.control)) (d : Drive) :
    Idle (controlPacket (applyDrive d s).control) ↔ ¬ driveAccel d = 1 := by
  have hignition : UInt8.ofNat s.control.ignition = 0 := hidle.1
  cases d <;> simp [Idle, controlPacket, hignition, driveAccel]

theorem idle_ignition (hidle : Idle (controlPacket s.control)) (value : Json) :
    Idle (controlPacket { s.control with ignition := onOff value }) ↔ value.is "ON" = false := by
  have haccel : UInt8.ofNat s.control.accel = 0 := hidle.2
  cases hvalue : value.is "ON" <;> simp [Idle, controlPacket, onOff, hvalue, haccel]

/-- Neither a drive nor an ignition request. -/
theorem not_powers {fields : List (String × Json)}
    (hdrive : (getField "type" fields).is "drive" = false ∨
      lookupValue validDriveValues (getField "value" fields) = none)
    (hignition : (getField "type" fields).is "ignition" = false) :
    ¬ Powers (.control (some (.obj fields))) := by
  rintro (⟨htype, -⟩ | ⟨htype, d, hvalue, -⟩)
  · rw [hignition] at htype
    cases htype
  · rcases hdrive with hother | hnone
    · rw [hother] at htype
      cases htype
    · rw [hnone] at hvalue
      cases hvalue

theorem idle_fields (hidle : Idle (controlPacket s.control)) (fields : List (String × Json)) :
    Idle (controlPacket (controlFields fields s).2.control) ↔
      ¬ Powers (.control (some (.obj fields))) := by
  rcases fields_cases fields s with ⟨d, htype, hvalue, hdrive⟩ | ⟨htype, hignition⟩ | haside
  · have hother := is_other htype (by decide : "drive" ≠ "ignition")
    rw [hdrive, idle_drive hidle d, not_iff_not]
    constructor
    · exact fun haccel => Or.inr ⟨htype, d, hvalue, haccel⟩
    · rintro (⟨htype', -⟩ | ⟨-, d', hd', haccel⟩)
      · rw [hother] at htype'
        cases htype'
      · rw [hvalue] at hd'
        cases hd'
        exact haccel
  · have hother := is_other htype (by decide : "ignition" ≠ "drive")
    rw [hignition, idle_ignition hidle]
    constructor
    · rintro hoff (⟨-, hon⟩ | ⟨htype', -⟩)
      · rw [hoff] at hon
        cases hon
      · rw [hother] at htype'
        cases htype'
    · intro hno
      exact Bool.eq_false_iff.mpr fun hon => hno (Or.inl ⟨htype, hon⟩)
  · refine iff_of_true ?_ (not_powers haside.notDriven haside.notIgnition)
    obtain ⟨hignition, haccel⟩ := hidle
    constructor
    · show UInt8.ofNat _ = 0
      rw [haside.ignition]
      exact hignition
    · show UInt8.ofNat _ = 0
      rw [haside.accel]
      exact haccel

/-- A request to an inactive backend. -/
theorem idle_control (hidle : Idle (controlPacket s.control)) (body : Option Json) :
    Idle (controlPacket (controlCommand body s).2.control) ↔ ¬ Powers (.control body) := by
  simp only [controlCommand]
  cases body with
  | none => exact iff_of_true hidle id
  | some commandData =>
      dsimp only
      cases commandData with
      | obj fields =>
          split
          · rename_i hempty
            have hnil : fields = [] := List.isEmpty_iff.mp hempty
            subst hnil
            exact iff_of_true hidle (not_powers (Or.inl rfl) rfl)
          · exact idle_fields hidle fields
      | null => exact iff_of_true hidle id
      | bool b => split <;> exact iff_of_true hidle id
      | num q => split <;> exact iff_of_true hidle id
      | str t => split <;> exact iff_of_true hidle id
      | arr items => split <;> exact iff_of_true hidle id

/-- **Step lemma.**  A step keeps the packets idle exactly when it is not one of these
    requests to an inactive backend. -/
theorem idleWhileInactive_step_iff (h : IdleWhileInactive s) (e : PcEvent) :
    IdleWhileInactive (pcStep s e) ↔ ¬ (s.vehicle.remoteControlActive = false ∧ Powers e) := by
  cases e with
  | start => exact iff_of_true (fun hactive => by cases hactive) fun hp => hp.2
  | stop => exact iff_of_true (fun _ => ⟨rfl, rfl⟩) fun hp => hp.2
  | send => exact iff_of_true (fun hactive => h hactive) fun hp => hp.2
  | control body =>
      have hactive : (pcStep s (.control body)).vehicle.remoteControlActive =
          s.vehicle.remoteControlActive := (effect_control body s).untouched.active
      rw [IdleWhileInactive, hactive]
      constructor
      · rintro hidle ⟨hoff, hp⟩
        exact (idle_control (h hoff) body).mp (hidle hoff) hp
      · intro hno hoff
        exact (idle_control (h hoff) body).mpr fun hp => hno ⟨hoff, hp⟩

end Step

/-- **The packets of an inactive backend are idle** throughout a run exactly when nobody
    sends it a request that switches the ignition on or accelerates while it is inactive; and
    then MAIN, after any packet from an inactive backend, is in default mode and does not
    accelerate. -/
theorem idle_while_inactive_iff (es : List PcEvent) :
    (AllSteps pcStep (fun s e => IdleWhileInactive (pcStep s e)) pcInitial es ↔
      AllSteps pcStep (fun s e => ¬ (s.vehicle.remoteControlActive = false ∧ Powers e))
        pcInitial es) ∧
    (AllSteps pcStep (fun s e => ¬ (s.vehicle.remoteControlActive = false ∧ Powers e))
        pcInitial es →
      AllSteps pcStep
        (fun s e => s.vehicle.remoteControlActive = false → ∀ packet ∈ packetsOf s e,
          ∀ (p : Pbuf) (m : Main) (env : Env) addr port, p.bytes = packet →
            (mainStep m ⟨env, .lwip (.udpRecv 5000 p addr port)⟩).com.curMode = modeDefault ∧
            (mainStep m ⟨env, .lwip (.udpRecv 5000 p addr port)⟩).com.rxUdpCtr.accel = 0)
        pcInitial es) := by
  have hstart : IdleWhileInactive pcInitial := fun _ => ⟨rfl, rfl⟩
  constructor
  · exact allSteps_iff IdleWhileInactive (fun _ _ _ hP => hP)
      (fun s e h => idleWhileInactive_step_iff h e) hstart
  · intro hok
    refine allSteps_guarded IdleWhileInactive
      (fun s e h hno => (idleWhileInactive_step_iff h e).mpr hno) ?_ hstart hok
    intro s e h _ hoff packet hpacket p m env addr port hp
    cases e with
    | start => cases hpacket
    | stop => cases hpacket
    | control body => cases hpacket
    | send =>
        -- only the sender writes packets, and it copies the idle control state
        rw [List.mem_singleton.mp hpacket] at hp
        exact main_idle hp (h hoff) m env addr port

/-- A request to switch the ignition on. -/
def ignitionOn : PcEvent :=
  .control (some (.obj [("type", .str "ignition"), ("value", .str "ON")]))

/-- A request to drive. -/
def driveForward : PcEvent :=
  .control (some (.obj [("type", .str "drive"), ("value", .str "FORWARD")]))

/-- **Without a session** the two requests are answered with OK, and the next packet puts
    MAIN into remote mode and accelerates. -/
theorem inactive_backend_drives :
    let s := run pcStep pcInitial [ignitionOn, driveForward]
    s.vehicle.remoteControlActive = false ∧
      controlPacket s.control = [0, 1, 0, 0, 3, 0, 0, 1, 0, 0, 0, 0, 0] ∧
      ∃ p : Pbuf, p.bytes = controlPacket s.control ∧
        (mainStep mainReset ⟨freeEnv 10, .lwip (MainSpec.control p)⟩).com.curMode = modeRemote ∧
        (mainStep mainReset ⟨freeEnv 10, .lwip (MainSpec.control p)⟩).com.rxUdpCtr.accel = 1 :=
  ⟨rfl, rfl, Pbuf.ofBytes [0, 1, 0, 0, 3, 0, 0, 1, 0, 0, 0, 0, 0] (by decide), rfl, rfl, rfl⟩

end RemoteGate
