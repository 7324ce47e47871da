import RemoteVehicle.MotionChain

/-!
# The motor turns only when the operator asked for it

Along the chain from the page to the motor a request becomes a packet, the packet a relay, the
relay a frame and the frame a command; any of them may be late or come twice.  `Asked` is what a
packet must have been built from, and the invariant `Chained` says that nothing else is anywhere
on the way.
-/

namespace Motion

open Runs CanFrame MainState MainCom MainTcp MainLoop MainSpec MainFrame
open ActMotor ActState ActUdsDiag ActCan ActLoop ActSpec PcBackend PcControl MotionChain

/-! ## What the operator asked for -/

/-- The last drive request and the last ignition request since the last start or stop. -/
structure Wish where
  drive : Option Drive
  ignition : Bool
deriving DecidableEq, Repr

def Wish.none : Wish := ⟨.none, false⟩

/-- A control request by its type. -/
def Wish.fields (fields : List (String × Json)) (w : Wish) : Wish :=
  if (getField "type" fields).is "drive" then
    match lookupValue validDriveValues (getField "value" fields) with
    | .none => w
    | some d => { w with drive := some d }
  else if (getField "type" fields).is "ignition" then
    { w with ignition := (getField "value" fields).is "ON" }
  else w

def Wish.step (w : Wish) : PcEvent → Wish
  | .start => Wish.none
  | .stop => Wish.none
  | .control (some (.obj fields)) => w.fields fields
  | _ => w

def wishAfter (es : List PcEvent) : Wish := run Wish.step Wish.none es

/-- The accelerator and the ignition of a wish. -/
def Wish.accel (w : Wish) : Nat := (w.drive.map driveAccel).getD 0
def Wish.power (w : Wish) : Nat := if w.ignition then 1 else 0

/-- Accelerator and ignition of the backend are those of the wish. -/
structure Granted (s : Pc) (w : Wish) : Prop where
  accel : s.control.accel = w.accel
  ignition : s.control.ignition = w.power

theorem granted_fields {s : Pc} {w : Wish} (h : Granted s w) (fields : List (String × Json)) :
    Granted (controlFields fields s).2 (w.fields fields) := by
  rcases fields_cases fields s with ⟨d, htype, hvalue, hdrive⟩ | ⟨htype, hignition⟩ | haside
  · have hwish : w.fields fields = { w with drive := some d } := by
      rw [Wish.fields, if_pos htype, hvalue]
    rw [hdrive, hwish]
    refine ⟨?_, ?_⟩
    · rw [applyDrive_accel]
      rfl
    · rw [applyDrive_ignition]
      exact h.ignition
  · have hwish : w.fields fields = { w with ignition := (getField "value" fields).is "ON" } := by
      rw [Wish.fields, if_neg (Bool.eq_false_iff.mp (is_other htype (by decide))), if_pos htype]
    rw [hignition, hwish]
    exact ⟨h.accel, rfl⟩
  · have hwish : w.fields fields = w := by
      rw [Wish.fields]
      split
      · rename_i htype
        rcases haside.notDriven with hother | hnone
        · rw [hother] at htype
          cases htype
        · rw [hnone]
      · rw [if_neg (Bool.eq_false_iff.mp haside.notIgnition)]
    rw [hwish]
    exact ⟨haside.accel.trans h.accel, haside.ignition.trans h.ignition⟩

/-- **Step lemma.** -/
theorem granted_step {s : Pc} {w : Wish} (h : Granted s w) (e : PcEvent) :
    Granted (pcStep s e) (w.step e) := by
  cases e with
  | start => exact ⟨rfl, rfl⟩
  | stop => exact ⟨rfl, rfl⟩
  | send => exact ⟨h.accel, h.ignition⟩
  | control body =>
      show Granted (controlCommand body s).2 (w.step (.control body))
      rw [controlCommand.eq_def]
      cases body with
      | none => exact h
      | some commandData =>
          dsimp only
          cases commandData with
          | obj fields =>
              split
              · rename_i hempty
                obtain rfl : fields = [] := List.isEmpty_iff.mp hempty
                exact h
              · exact granted_fields h fields
          | null => exact h
          | bool b => split <;> exact h
          | num q => split <;> exact h
          | str t => split <;> exact h
          | arr items => split <;> exact h

/-- **Run lemma.** -/
theorem granted_steps {s : Pc} {w : Wish} (h : Granted s w) (es : List PcEvent) :
    Granted (run pcStep s es) (run Wish.step w es) := by
  induction es generalizing s w with
  | nil => exact h
  | cons e es ih => exact ih (granted_step h e)

theorem granted_run (es : List PcEvent) : Granted (pcAfter es) (wishAfter es) :=
  granted_steps ⟨rfl, rfl⟩ es

theorem valid_run (es : List PcEvent) : ValidControl (pcAfter es).control :=
  run_invariant (fun s : Pc => ValidControl s.control) (fun _ e h => valid_step h e)
    (valid_reset pcInitial.control) es

/-- The operator's last drive request accelerates, the ignition is on, the brake is off, and the
    gear is that of the motion. -/
structure Asked (m : MotorState) (es : List PcEvent) : Prop where
  drive : ∃ d, (wishAfter es).drive = some d ∧ driveAccel d = 1
  ignition : (wishAfter es).ignition = true
  brake : (pcAfter es).control.brake = 0
  gear : (pcAfter es).control.gear = if m = .forward then 3 else 1

/-! ## From a packet to the command -/

/-- Some packet that was built asked for this motion. -/
def Behind (built : List (List PcEvent)) (m : MotorState) : Prop :=
  m = .stop ∨ ∃ es ∈ built, Asked m es

/-- The fields of the packets that were built. -/
def Packets (built : List (List PcEvent)) (ctr : UdpCtr) : Prop :=
  ∃ es ∈ built, ctr = ctrOf (pcAfter es).control

section Command

variable {built later : List (List PcEvent)} {r : Relay}

theorem Behind.more {m : MotorState} (h : Behind built m) : Behind (built ++ later) m := by
  rcases h with hrest | ⟨es, hes, hasked⟩
  · exact Or.inl hrest
  · exact Or.inr ⟨es, List.mem_append_left _ hes, hasked⟩

theorem Packets.more {ctr : UdpCtr} (h : Packets built ctr) : Packets (built ++ later) ctr := by
  obtain ⟨es, hes, hctr⟩ := h
  exact ⟨es, List.mem_append_left _ hes, hctr⟩

/-- A drive state other than the stop needs accelerator, gear and no brake. -/
theorem driveState_cases (c : ActCommand) :
    driveState c = .stop ∨ (c.brakeRaw ≠ actCanBrakeOn ∧ c.accelRaw ≠ actCanAccelOff ∧
      ((c.gearRaw = actCanGearD ∧ driveState c = .forward) ∨
        (c.gearRaw = actCanGearR ∧ driveState c = .reverse))) := by
  rw [driveState]
  split
  · exact Or.inl rfl
  · rename_i hbrake
    split
    · exact Or.inl rfl
    · rename_i haccel
      split
      · rename_i hgear
        exact Or.inr ⟨hbrake, haccel, Or.inl ⟨hgear, rfl⟩⟩
      · split
        · rename_i hgear
          exact Or.inr ⟨hbrake, haccel, Or.inr ⟨hgear, rfl⟩⟩
        · exact Or.inl rfl

/-- Only in remote drive does a command turn the motor. -/
theorem actDecode_motorState (c : ActCommand) :
    (actDecode c).motorState = .stop ∨ (c.controlModeRaw = actCanControlRemoteDrive ∧
      (actDecode c).motorState = driveState c) := by
  rw [actDecode]
  split
  · exact Or.inl rfl
  · split
    · exact Or.inl rfl
    · rename_i hmode
      exact Or.inr ⟨not_not.mp hmode, rfl⟩

/-- A control state with these bytes asks for the motion. -/
theorem asked_of_bytes {es : List PcEvent} {m : MotorState} {gear : UInt8}
    (hignition : (ctrOf (pcAfter es).control).ignition = ignitionOn)
    (hbrake : (ctrOf (pcAfter es).control).brake ≠ actCanBrakeOn)
    (haccel : (ctrOf (pcAfter es).control).accel ≠ actCanAccelOff)
    (hgear : (ctrOf (pcAfter es).control).gear = gear)
    (hm : gear.toNat = if m = .forward then 3 else 1) : Asked m es := by
  have hvalid := valid_run es
  have hgranted := granted_run es
  have hpower : (pcAfter es).control.ignition = 1 := by
    have hbyte := congrArg UInt8.toNat hignition
    exact (toNat_ofNat hvalid.ignition (by decide)).symm.trans hbyte
  have hfree : (pcAfter es).control.brake = 0 := by
    have hle := hvalid.brake
    have hne : (pcAfter es).control.brake ≠ 1 := fun hon => hbrake (congrArg UInt8.ofNat hon)
    omega
  have hgas : (pcAfter es).control.accel = 1 := by
    have hle := hvalid.accel
    have hne : (pcAfter es).control.accel ≠ 0 := fun hoff => haccel (congrArg UInt8.ofNat hoff)
    omega
  refine ⟨?_, ?_, hfree, ?_⟩
  · have hwish := hgranted.accel
    rw [hgas, Wish.accel] at hwish
    rcases hd : (wishAfter es).drive with _ | d
    · rw [hd] at hwish
      cases hwish
    · rw [hd] at hwish
      exact ⟨d, rfl, hwish.symm⟩
  · have hwish := hgranted.ignition
    rw [hpower, Wish.power] at hwish
    by_contra hoff
    rw [if_neg hoff] at hwish
    cases hwish
  · rw [← hm, ← hgear]
    exact (toNat_ofNat hvalid.gear (by decide)).symm

/-- **What a frame of the relay commands** was asked for. -/
theorem behind_command (h : Sourced (Packets built) r) :
    Behind built (actDecode (actCommand r)).motorState := by
  rcases actDecode_motorState (actCommand r) with hrest | ⟨hmode, hdrive⟩
  · exact Or.inl hrest
  · rcases h with hdefault | ⟨ctr, ⟨es, hes, rfl⟩, hon, hsame⟩
    · have hcontra : modeDefault = actCanControlRemoteDrive := hdefault.symm.trans hmode
      cases hcontra
    · rcases driveState_cases (actCommand r) with hrest | ⟨hbrake, haccel, hgear⟩
      · exact Or.inl (hdrive.trans hrest)
      · refine Or.inr ⟨es, hes, ?_⟩
        have hbytes : ∀ f : UdpCtr → UInt8, f r.ctr = f { ctrOf (pcAfter es).control with
            turnSignal := r.ctr.turnSignal } := fun f => congrArg f hsame
        have hbrake' := hbytes UdpCtr.brake
        have haccel' := hbytes UdpCtr.accel
        have hgear' := hbytes UdpCtr.gear
        rw [hdrive]
        rcases hgear with ⟨hraw, hstate⟩ | ⟨hraw, hstate⟩
        · rw [hstate]
          exact asked_of_bytes hon (fun hc => hbrake (hbrake'.trans hc))
            (fun hc => haccel (haccel'.trans hc)) (hgear'.symm.trans hraw) rfl
        · rw [hstate]
          exact asked_of_bytes hon (fun hc => hbrake (hbrake'.trans hc))
            (fun hc => haccel (haccel'.trans hc)) (hgear'.symm.trans hraw) rfl

end Command

/-! ## The chain -/

/-- Nothing but requested motion is on its way. -/
structure Chained (s : Chain) : Prop where
  prefixes : ∀ es ∈ s.built, es <+: s.requests
  relay : Sourced (Packets s.built) (relay s.main)
  frames : ∀ m ∈ s.frames, ∀ c, accepted m = some c → Behind s.built (actDecode c).motorState
  act : Cleared (Behind s.built) s.act

theorem chained_initial (r : ActReset) : Chained (Chain.initial r) where
  prefixes := fun es hes => by cases hes
  relay := Or.inl rfl
  frames := fun m hm => by cases hm
  act := cleared_reset (Or.inl rfl) r

/-- The backend handles a request, or builds a packet. -/
theorem chained_pc {s : Chain} (h : Chained s) (e : PcEvent) : Chained (chainStep s (.pc e)) where
  prefixes := by
    intro es hes
    rcases List.mem_append.mp hes with hold | hnew
    · exact (h.prefixes es hold).trans (List.prefix_append _ _)
    · cases e with
      | send =>
          obtain rfl := List.mem_singleton.mp hnew
          exact List.prefix_append _ _
      | start => cases hnew
      | stop => cases hnew
      | control body => cases hnew
  relay := h.relay.mono fun _ hctr => hctr.more
  frames := fun m hm c hc => (h.frames m hm c hc).more
  act := h.act.mono fun _ hm => hm.more

/-- MAIN makes a call, after which its relay is sourced. -/
theorem chained_main {s : Chain} (h : Chained s) {e : MainEvent}
    (hrelay : Sourced (Packets s.built) (relay (MainLoop.mainStep s.main e))) :
    Chained (mainEvent s e) where
  prefixes := h.prefixes
  relay := hrelay
  frames := by
    intro m hm c hc
    rcases List.mem_append.mp hm with hold | hnew
    · exact h.frames m hold c hc
    · have hid : m.messageId = actCanCmdId := (ActFrame.accepted_inv hc).1
      rcases can_step (mem_framesOf.mp hnew) with ⟨-, rfl | rfl⟩ | ⟨-, hother | hother⟩
      · rw [accepted_actFrame] at hc
        split at hc
        · obtain rfl := Option.some.inj hc
          exact behind_command h.relay
        · cases hc
      · cases hid
      · rw [hid] at hother
        cases hother
      · rw [hid] at hother
        cases hother
  act := h.act

/-- **Step lemma.** -/
theorem chained_step (s : Chain) (e : ChainEvent) (h : Chained s) (he : Lawful s e) :
    Chained (chainStep s e) := by
  cases e with
  | pc e => exact chained_pc h e
  | datagram env p addr port =>
      obtain ⟨es, hes, hbytes⟩ := he
      refine chained_main h ?_
      rw [controlEvent, relay_packet hbytes]
      refine sourced_packet ⟨es, hes, rfl⟩ ?_ _
      have hle := (valid_run es).ignition
      obtain hoff | hon :
          (pcAfter es).control.ignition = 0 ∨ (pcAfter es).control.ignition = 1 := by omega
      · exact Or.inr (congrArg UInt8.ofNat hoff)
      · exact Or.inl (congrArg UInt8.ofNat hon)
  | main e => exact chained_main h (sourced_step h.relay he)
  | act e =>
      cases e with
      | rxIsr m =>
          refine { h with act := cleared_rxIsr h.act fun c hc => ?_ }
          exact h.frames m (he (ActFrame.accepted_inv hc).1) c hc
      | call inp => exact { h with act := cleared_call (Or.inl rfl) h.act inp }

/-- **THE MOTOR TURNS ONLY WHEN ASKED TO.**  Over every order of requests to the backend, of
    control packets that arrive late, repeatedly, out of order or never, of anything else that
    happens to MAIN, of frames that reach ACT late or never, and of ACT's own calls, each receive
    interrupt falling between two of them: when the motor turns and the motor test is not running,
    some packet was built after requests of which the last drive request accelerates and the last
    ignition request switches on, with the brake off and the gear of this motion. -/
theorem motion_asked (r : ActReset) (es : List ChainEvent)
    (hes : AllSteps chainStep Lawful (Chain.initial r) es)
    (hmotor : (run chainStep (Chain.initial r) es).act.act.motor.motorState ≠ .stop)
    (htest : (run chainStep (Chain.initial r) es).act.act.uds.routineState ≠ .motorTest) :
    ∃ asked ∈ (run chainStep (Chain.initial r) es).built,
      asked <+: (run chainStep (Chain.initial r) es).requests ∧
        Asked (run chainStep (Chain.initial r) es).act.act.motor.motorState asked := by
  have hchained := run_guarded Chained chained_step (chained_initial r) hes
  rcases hchained.act.motor htest with hrest | ⟨asked, hbuilt, hasked⟩
  · exact absurd hrest hmotor
  · exact ⟨asked, hbuilt, hchained.prefixes asked hbuilt, hasked⟩

/-- A request of the page. -/
def pageRequest (type value : String) : ChainEvent :=
  .pc (.control (some (.obj [("type", .str type), ("value", .str value)])))

/-- The packet that the backend builds after them. -/
def drivePacket : List UInt8 := [0, 1, 0, 0, 3, 0, 0, 1, 0, 0, 0, 0, 0]

theorem drivePacket_length : drivePacket.length < 65536 := by decide

/-- The operator switches on and drives; the packet and the frame arrive. -/
def driveOff : List ChainEvent :=
  [.pc .start, pageRequest "ignition" "ON", pageRequest "drive" "FORWARD", .pc .send,
    .datagram (freeEnv 10) (Pbuf.ofBytes drivePacket drivePacket_length) ⟨192, 168, 10, 1⟩ 40000,
    .main ⟨freeEnv 30, .comTxMainFunction⟩,
    .act (.rxIsr (fdMessage actCanCmdId actCanDlcIfx [1, 0, 0, 3, 1, 0])), .act (.call restInputs)]

/-- ACT has booted by then. -/
def boot : List ActEvent := List.replicate 955 (.call restInputs)

def driveRun : List ChainEvent := boot.map .act ++ driveOff

theorem run_act (s : Chain) (es : List ActEvent) :
    run chainStep s (es.map .act) = { s with act := run actStep s.act es } := by
  induction es generalizing s with
  | nil => rfl
  | cons e es ih => exact ih (chainStep s (.act e))

theorem driveRun_lawful : AllSteps chainStep Lawful (Chain.initial restReset) driveRun := by
  refine allSteps_append.mpr ⟨allSteps_of_mem fun s e he => ?_, ?_⟩
  · obtain ⟨a, ha, rfl⟩ := List.mem_map.mp he
    obtain rfl := (List.mem_replicate.mp ha).2
    trivial
  · rw [run_act]
    refine ⟨trivial, trivial, trivial, trivial, ⟨_, List.mem_singleton_self _, rfl⟩, ?_, ?_,
      trivial, trivial⟩
    · intro env p addr port hcontra
      cases hcontra
    · intro _
      decide +kernel

theorem motion_asked_forward :
    (run chainStep (Chain.initial restReset) driveRun).act.act.motor.motorState = .forward ∧
      ∃ asked ∈ (run chainStep (Chain.initial restReset) driveRun).built,
        asked <+: (run chainStep (Chain.initial restReset) driveRun).requests ∧
          Asked (run chainStep (Chain.initial restReset) driveRun).act.act.motor.motorState
            asked := by
  have hforward : (run chainStep (Chain.initial restReset) driveRun).act.act.motor.motorState =
      .forward := by decide +kernel
  have hroutine : (run chainStep (Chain.initial restReset) driveRun).act.act.uds.routineState =
      .none := by decide +kernel
  refine ⟨hforward, motion_asked restReset driveRun driveRun_lawful ?_ ?_⟩
  · rw [hforward]
    exact fun hcontra => by cases hcontra
  · rw [hroutine]
    exact fun hcontra => by cases hcontra

end Motion
