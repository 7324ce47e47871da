import RemoteVehicle.ActWatch
import RemoteVehicle.UdsTrace

/-!
# Coasting and braking

A command in remote drive with the brake off coasts when the accelerator is off or the gear is
P or N: `MotorControl_Coast` stops the motor and releases the brake pins.  The motor state it
leaves is the one that `MotorControl_Brake` leaves, and `MotorControl_Update` drives the brake
pins from the motor state.

* `motorUpdate_brakes`: an update brakes exactly when the motor state is STOP.
* `canUpdate_spares`, `udsUpdate_pins`, `loopCall_brakes`: what the other calls of the loop
  do to the brake pins.
* `coast_released_iff`: after a coasting command the pins stay released, until something
  orders the brake, exactly as long as no update is made in STOP.
-/

namespace Coast

open Runs CanFrame ActMotor ActServo ActSensors ActState ActUdsDiag ActCan ActLoop ActSpec
open ActFrame ActWatch UdsFrame UdsAnswer UdsTrace

/-! ## Brake pins and who orders them -/

/-- Both brake pins are low. -/
def BrakesReleased (p : MotorPins) : Prop := p.brakeA = false ∧ p.brakeB = false

/-- Both brake pins are high. -/
def BrakesOn (p : MotorPins) : Prop := p.brakeA = true ∧ p.brakeB = true

instance (p : MotorPins) : Decidable (BrakesReleased p) := inferInstanceAs (Decidable (_ ∧ _))

theorem not_released_of_on {p : MotorPins} (h : BrakesOn p) : ¬ BrakesReleased p := by
  rintro ⟨hA, -⟩
  rw [h.1] at hA
  cases hA

/-- The command lets the vehicle roll: remote drive, brake off, and no drive asked for. -/
def Coasts (c : ActCommand) : Prop :=
  c.safetyOverrideRaw = actCanSafetyNormal ∧ c.controlModeRaw = actCanControlRemoteDrive ∧
    c.brakeRaw = actCanBrakeOff ∧
    (c.accelRaw = actCanAccelOff ∨ c.gearRaw = actCanGearP ∨ c.gearRaw = actCanGearN)

instance (c : ActCommand) : Decidable (Coasts c) := inferInstanceAs (Decidable (_ ∧ _))

/-- The command brakes, or enters the safe or an inhibit state. -/
def OrdersBrake (c : ActCommand) : Prop :=
  c.safetyOverrideRaw = actCanSafetyForceStop ∨ c.controlModeRaw ≠ actCanControlRemoteDrive ∨
    c.brakeRaw = actCanBrakeOn

instance (c : ActCommand) : Decidable (OrdersBrake c) := inferInstanceAs (Decidable (_ ∨ _))

/-- The time-out has expired when the next `ActCan_Update100us` looks at it. -/
def Expired (s : Act) : Prop :=
  actCanCmdTimeout100usTicks ≤ (countTimeout s).can.cmdTimeoutTick100us

instance (s : Act) : Decidable (Expired s) := inferInstanceAs (Decidable (_ ≤ _))

/-- The command that the next `ActCan_Update100us` applies. -/
def appliedCommand (s : Act) : Option ActCommand :=
  if Expired s then none else if s.can.rxUpdated then some s.can.rx else none

/-- The next `UdsDiag_Update1ms` ends the motor test, with `MotorControl_Stop`. -/
def EndsMotorTest (s : Act) : Prop :=
  s.uds.routineState = .motorTest ∧ 1000 ≤ s.uds.routineTimerMs + 1

instance (s : Act) : Decidable (EndsMotorTest s) := inferInstanceAs (Decidable (_ ∧ _))

/-- A call of the loop orders the brake: the safe state of the time-out, a command, or the
    stop at the end of the motor test. -/
def CallBrakes (s : Act) : LoopCall → Prop
  | .canUpdate100us => Expired s ∨ ∃ c ∈ appliedCommand s, OrdersBrake c
  | .udsUpdate1ms => EndsMotorTest s
  | _ => False

instance (s : Act) : (c : LoopCall) → Decidable (CallBrakes s c)
  | .canUpdate100us => inferInstanceAs (Decidable (_ ∨ _))
  | .udsUpdate1ms => inferInstanceAs (Decidable (EndsMotorTest s))
  | .motorUpdate => inferInstanceAs (Decidable False)
  | .encoderUpdate1ms => inferInstanceAs (Decidable False)
  | .potUpdate1ms => inferInstanceAs (Decidable False)
  | .sendStatusIfNeeded => inferInstanceAs (Decidable False)
  | .steeringTimer => inferInstanceAs (Decidable False)
  | .pulseHigh => inferInstanceAs (Decidable False)
  | .pulseRest _ => inferInstanceAs (Decidable False)

/-! ## The motor update -/

/-- An action that leaves the brakes alone. -/
def SparesBrakes (a : MotorAction) : Prop := a ≠ .setBrakeOnBoth ∧ a ≠ .setBrakeOffBoth

theorem step_spares {a : MotorAction} (h : SparesBrakes a) (level : Nat → Bool)
    (p : MotorPins × Encoder × Nat) :
    (motorActionStep level p a).1.brakeA = p.1.brakeA ∧
      (motorActionStep level p a).1.brakeB = p.1.brakeB := by
  obtain ⟨hon, hoff⟩ := h
  cases a with
  | setBrakeOnBoth => exact absurd rfl hon
  | setBrakeOffBoth => exact absurd rfl hoff
  | _ => exact ⟨rfl, rfl⟩

theorem foldl_spares {acts : List MotorAction} (h : ∀ a ∈ acts, SparesBrakes a)
    (level : Nat → Bool) (p : MotorPins × Encoder × Nat) :
    (acts.foldl (motorActionStep level) p).1.brakeA = p.1.brakeA ∧
      (acts.foldl (motorActionStep level) p).1.brakeB = p.1.brakeB := by
  induction acts generalizing p with
  | nil => exact ⟨rfl, rfl⟩
  | cons a acts ih =>
      obtain ⟨hA, hB⟩ := step_spares (h a List.mem_cons_self) level p
      obtain ⟨ihA, ihB⟩ := ih (fun b hb => h b (List.mem_cons_of_mem a hb))
        (motorActionStep level p a)
      exact ⟨ihA.trans hA, ihB.trans hB⟩

theorem spares_delay (us : Nat) : SparesBrakes (.delayUs us) := ⟨by simp, by simp⟩

theorem spares_ifPositive (us : Nat) {act : MotorAction} (hact : SparesBrakes act) :
    ∀ a ∈ ifPositive us act, SparesBrakes a := by
  intro a ha
  rw [ifPositive] at ha
  split at ha
  · obtain rfl := List.mem_singleton.mp ha
    exact hact
  · cases ha

theorem spares_restOfPeriod (us : Nat) : ∀ a ∈ restOfPeriod us, SparesBrakes a := by
  intro a ha
  rw [restOfPeriod] at ha
  split at ha
  · obtain rfl := List.mem_singleton.mp ha
    exact spares_delay _
  · cases ha

/-- The PWM cycle writes PWM pins only. -/
theorem spares_pwmCycle (dutyA dutyB : UInt32) :
    ∀ a ∈ motorSendPwmOneCycleChannels dutyA dutyB, SparesBrakes a := by
  have hlow : SparesBrakes .setPwmLowBoth ∧ SparesBrakes .setPwmLowA ∧
      SparesBrakes .setPwmLowB := by simp [SparesBrakes]
  have hhigh : SparesBrakes .setPwmHighA ∧ SparesBrakes .setPwmHighB := by simp [SparesBrakes]
  have hwaits : ∀ acts ∈ channelWaits (highTimeUs dutyA) (highTimeUs dutyB), ∀ a ∈ acts,
      SparesBrakes a := by
    rw [channelWaits]
    split
    · simp only [List.forall_mem_cons, List.not_mem_nil, false_implies, implies_true, and_true]
      exact ⟨spares_ifPositive _ (spares_delay _), hlow.1, spares_restOfPeriod _⟩
    · split
      · simp only [List.forall_mem_cons, List.not_mem_nil, false_implies, implies_true, and_true]
        exact ⟨spares_ifPositive _ (spares_delay _), hlow.2.1, spares_delay _, hlow.2.2,
          spares_restOfPeriod _⟩
      · simp only [List.forall_mem_cons, List.not_mem_nil, false_implies, implies_true, and_true]
        exact ⟨spares_ifPositive _ (spares_delay _), hlow.2.2, spares_delay _, hlow.2.1,
          spares_restOfPeriod _⟩
  intro a ha
  rw [motorSendPwmOneCycleChannels, List.mem_cons, List.mem_append, List.mem_append] at ha
  rcases ha with rfl | (ha | ha) | ha
  · exact hlow.1
  · exact spares_ifPositive _ hhigh.1 a ha
  · exact spares_ifPositive _ hhigh.2 a ha
  · obtain ⟨acts, hacts, hmem⟩ := List.mem_flatten.mp ha
    exact hwaits acts hacts a hmem

/-- **A motor update** brakes in STOP and releases the brakes otherwise. -/
theorem motorUpdate_brakes (inp : ActInputs) (s : Act) :
    (s.motor.motorState = .stop →
      BrakesOn (motorControlUpdateCall inp s).motor.pins) ∧
    (s.motor.motorState ≠ .stop →
      BrakesReleased (motorControlUpdateCall inp s).motor.pins) := by
  have hturns : ∀ (dir : MotorAction) (acts : List MotorAction), SparesBrakes dir →
      (∀ a ∈ acts, SparesBrakes a) → ∀ p : MotorPins × Encoder × Nat,
      BrakesReleased ((MotorAction.setBrakeOffBoth :: dir :: acts).foldl
        (motorActionStep inp.encoderA) p).1 := by
    intro dir acts hdir hacts p
    have hspares : ∀ a ∈ dir :: acts, SparesBrakes a := by
      intro a ha
      rcases List.mem_cons.mp ha with rfl | ha
      · exact hdir
      · exact hacts a ha
    exact foldl_spares hspares inp.encoderA (motorActionStep inp.encoderA p .setBrakeOffBoth)
  rw [motorControlUpdateCall, motorControlUpdate]
  cases hstate : s.motor.motorState with
  | stop =>
      refine ⟨fun _ => ⟨rfl, rfl⟩, fun h => absurd rfl h⟩
  | forward =>
      refine ⟨fun h => absurd h (by simp), fun _ => ?_⟩
      exact hturns .setDirectionForwardBoth _ ⟨by simp, by simp⟩ (spares_pwmCycle _ _) _
  | reverse =>
      refine ⟨fun h => absurd h (by simp), fun _ => ?_⟩
      exact hturns .setDirectionReverseBoth _ ⟨by simp, by simp⟩ (spares_pwmCycle _ _) _

/-! ## The other calls -/

theorem countTimeout_box (s : Act) : (countTimeout s).can.rxUpdated = s.can.rxUpdated ∧
    (countTimeout s).can.rx = s.can.rx ∧ (countTimeout s).motor = s.motor := by
  rw [countTimeout]
  split <;> exact ⟨rfl, rfl, rfl⟩

theorem applySteering_pins (steeringRaw : UInt8) (s : Act) :
    (actCanApplySteering steeringRaw s).motor.pins = s.motor.pins := by
  rw [actCanApplySteering]
  split
  · rfl
  · split <;> rfl

/-- The drive part of a command that does not brake coasts, or leaves the pins to the next
    motor update. -/
theorem applyDrive_brakes {accelRaw brakeRaw gearRaw : UInt8} (h : brakeRaw ≠ actCanBrakeOn)
    (s : Act) :
    (BrakesReleased s.motor.pins →
      BrakesReleased (actCanApplyDrive accelRaw brakeRaw gearRaw s).motor.pins) ∧
    ((accelRaw = actCanAccelOff ∨ gearRaw = actCanGearP ∨ gearRaw = actCanGearN) →
      BrakesReleased (actCanApplyDrive accelRaw brakeRaw gearRaw s).motor.pins) := by
  -- a drive is asked for in the gears D and R only
  have hdrives (gear : UInt8) (hgear : gearRaw = gear) (hP : gear ≠ actCanGearP)
      (hN : gear ≠ actCanGearN) (haccel : accelRaw ≠ actCanAccelOff) :
      ¬ (accelRaw = actCanAccelOff ∨ gearRaw = actCanGearP ∨ gearRaw = actCanGearN) := by
    rw [hgear]
    rintro (hoff | hpark | hneutral)
    · exact haccel hoff
    · exact hP hpark
    · exact hN hneutral
  rw [actCanApplyDrive, if_neg h]
  split_ifs with haccel hd hr
  · exact ⟨fun _ => ⟨rfl, rfl⟩, fun _ => ⟨rfl, rfl⟩⟩
  · have hno := hdrives actCanGearD hd (by decide) (by decide) haccel
    exact ⟨fun hs => hs, fun hcoasts => absurd hcoasts hno⟩
  · have hno := hdrives actCanGearR hr (by decide) (by decide) haccel
    exact ⟨fun hs => hs, fun hcoasts => absurd hcoasts hno⟩
  · exact ⟨fun _ => ⟨rfl, rfl⟩, fun _ => ⟨rfl, rfl⟩⟩

/-- **`ActCan_Update100us`** by the command it applies. -/
theorem canUpdate_eq {s : Act} (h : ¬ Expired s) :
    (appliedCommand s = none ∧ actCanUpdate100us s = countTimeout s) ∨
    ∃ c t, appliedCommand s = some c ∧ t.motor = s.motor ∧
      actCanUpdate100us s = applyCommand c t := by
  have hstep : ¬ actCanCmdTimeout100usTicks ≤ (countTimeout s).can.cmdTimeoutTick100us := h
  obtain ⟨hfresh, hrx, hmotor⟩ := countTimeout_box s
  rw [actCanUpdate100us, appliedCommand]
  dsimp only
  rw [if_neg hstep, if_neg h, hfresh]
  split
  · refine Or.inr ⟨s.can.rx, _, rfl, ?_, by rw [hrx]⟩
    exact hmotor
  · exact Or.inl ⟨rfl, rfl⟩

theorem applyCommand_drive {c : ActCommand} (h : ¬ OrdersBrake c) (s : Act) :
    ∃ t, t.motor.pins = s.motor.pins ∧
      applyCommand c s = actCanApplyDrive c.accelRaw c.brakeRaw c.gearRaw t := by
  obtain ⟨hsafety, hmode, -⟩ : ¬ c.safetyOverrideRaw = actCanSafetyForceStop ∧
      ¬ c.controlModeRaw ≠ actCanControlRemoteDrive ∧ ¬ c.brakeRaw = actCanBrakeOn := by
    simpa only [OrdersBrake, not_or] using h
  rw [applyCommand]
  dsimp only
  rw [if_neg hsafety, if_neg hmode]
  refine ⟨_, ?_, rfl⟩
  exact applySteering_pins _ _

theorem not_ordersBrake {c : ActCommand} (h : Coasts c) : ¬ OrdersBrake c := by
  obtain ⟨hsafety, hmode, hbrake, -⟩ := h
  rintro (hstop | hother | hon)
  · rw [hsafety] at hstop
    exact absurd hstop (by decide)
  · exact hother hmode
  · rw [hbrake] at hon
    exact absurd hon (by decide)

/-- **A coasting command** releases the brakes. -/
theorem canUpdate_coasts {s : Act} {c : ActCommand} (happlied : appliedCommand s = some c)
    (hcoast : Coasts c) : BrakesReleased (actCanUpdate100us s).motor.pins := by
  have hexp : ¬ Expired s := by
    intro hexp
    rw [appliedCommand, if_pos hexp] at happlied
    cases happlied
  rcases canUpdate_eq hexp with ⟨hnone, -⟩ | ⟨d, t, hsome, -, heq⟩
  · rw [hnone] at happlied
    cases happlied
  · obtain rfl : c = d := Option.some.inj (happlied.symm.trans hsome)
    have hno := not_ordersBrake hcoast
    obtain ⟨u, -, hdrive⟩ := applyCommand_drive hno t
    rw [heq, hdrive]
    exact (applyDrive_brakes (fun hon => hno (Or.inr (Or.inr hon))) u).2 hcoast.2.2.2

/-- **A CAN update that orders no brake** releases the brakes or leaves them alone. -/
theorem canUpdate_spares {s : Act} (h : ¬ CallBrakes s .canUpdate100us)
    (hs : BrakesReleased s.motor.pins) : BrakesReleased (actCanUpdate100us s).motor.pins := by
  obtain ⟨hexp, hcmd⟩ : ¬ Expired s ∧ ¬ ∃ c ∈ appliedCommand s, OrdersBrake c := not_or.mp h
  rcases canUpdate_eq hexp with ⟨-, heq⟩ | ⟨c, t, hsome, hmotor, heq⟩
  · rw [heq, (countTimeout_box s).2.2]
    exact hs
  · have hno : ¬ OrdersBrake c := fun hc => hcmd ⟨c, hsome, hc⟩
    obtain ⟨u, hpins, hdrive⟩ := applyCommand_drive hno t
    rw [heq, hdrive]
    refine (applyDrive_brakes (fun hon => hno (Or.inr (Or.inr hon))) u).1 ?_
    rw [hpins, hmotor]
    exact hs

/-- What serving a request leaves of the pins and of a running motor test. -/
structure Serves (s t : Act) : Prop where
  pins : t.motor.pins = s.motor.pins
  ends : EndsMotorTest t ↔ EndsMotorTest s

theorem serves_same {s t : Act} (hmotor : t.motor.pins = s.motor.pins)
    (hstate : t.uds.routineState = s.uds.routineState)
    (htimer : t.uds.routineTimerMs = s.uds.routineTimerMs) : Serves s t := by
  refine ⟨hmotor, ?_⟩
  rw [EndsMotorTest, EndsMotorTest, hstate, htimer]

theorem not_ends_early {s : Act} (h : s.uds.routineTimerMs = 0) : ¬ EndsMotorTest s := by
  rintro ⟨-, hlate⟩
  omega

theorem serves_serve (busy : Bool) (req : List UInt8) (s : Act) :
    Serves s (actServe busy req s) := by
  rcases actServe_cases busy req s with ⟨resp, -, -, -, heq⟩ | ⟨-, hidle, hstart⟩
  · obtain ⟨_, _, hsend⟩ := sendSingleFrame_writes busy resp (actServed req s)
    rw [heq, hsend]
    have hserved : (actServed req s).motor = s.motor ∧
        (actServed req s).uds.routineState = s.uds.routineState ∧
        (actServed req s).uds.routineTimerMs = s.uds.routineTimerMs := by
      rw [actServed]
      split
      · exact ⟨rfl, rfl, rfl⟩
      · split <;> exact ⟨rfl, rfl, rfl⟩
    obtain ⟨hmotor, hstate, htimer⟩ := hserved
    exact serves_same (congrArg Motor.pins hmotor) hstate htimer
  · -- a routine that starts has its timer at zero
    have hno : ¬ EndsMotorTest s := by
      rintro ⟨hrun, -⟩
      rw [hidle] at hrun
      cases hrun
    rcases hstart with ⟨-, heq⟩ | ⟨-, heq⟩
    · have hfresh : ¬ EndsMotorTest (udsDiagStartMotorRoutine s) := not_ends_early rfl
      rw [heq]
      exact ⟨rfl, iff_of_false hfresh hno⟩
    · have hfresh : ¬ EndsMotorTest (udsDiagStartServoRoutine s) := not_ends_early rfl
      rw [heq]
      exact ⟨rfl, iff_of_false hfresh hno⟩

theorem serves_serveRequest (busy : Bool) (s : Act) : Serves s (udsDiagServeRequest busy s) := by
  rcases serveRequest_eq busy s with ⟨-, heq | heq⟩ | ⟨req, -, heq⟩
  · rw [heq]
    exact ⟨rfl, Iff.rfl⟩
  · rw [heq]
    exact ⟨rfl, Iff.rfl⟩
  · rw [heq]
    obtain ⟨hpins, hends⟩ := serves_serve busy req (actTaken s)
    exact ⟨hpins, hends⟩

theorem sendSingleFrame_motor (busy : Bool) (p : List UInt8) (s : Act) :
    (udsDiagSendSingleFrame busy p s).motor = s.motor := by
  obtain ⟨_, _, hsend⟩ := sendSingleFrame_writes busy p s
  rw [hsend]

/-- A routine writes brake pins only when the motor test ends. -/
theorem updateRoutine_pins {s : Act} (h : ¬ EndsMotorTest s) (busy : Bool) :
    (udsDiagUpdateRoutine1ms busy s).motor.pins = s.motor.pins := by
  rw [udsDiagUpdateRoutine1ms]
  split
  · rename_i hrun
    have hearly : ¬ 1000 ≤ s.uds.routineTimerMs + 1 := fun hlate => h ⟨hrun, hlate⟩
    rw [udsDiagUpdateMotorRoutine1ms]
    dsimp only
    rw [if_neg hearly]
    rfl
  · rw [udsDiagUpdateServoRoutine1ms]
    dsimp only
    split
    · rfl
    · split
      · simp only [udsDiagEndRoutine, udsDiagSendRoutineResult, sendSingleFrame_motor]
      · rfl
  · rfl

/-- **`UdsDiag_Update1ms`** leaves the brakes alone unless it ends the motor test. -/
theorem udsUpdate_pins {s : Act} (h : ¬ EndsMotorTest s) (inp : ActInputs) :
    (udsDiagUpdate1ms inp s).motor.pins = s.motor.pins := by
  obtain ⟨hpins, hends⟩ := serves_serveRequest inp.responseTxBusy s
  have hmonitor : ∀ t, (udsDiagUpdateDtcMonitor1ms t).motor = t.motor := by
    intro t
    simp only [udsDiagUpdateDtcMonitor1ms]
    split <;> rfl
  rw [udsDiagUpdate1ms, hmonitor, updateRoutine_pins (fun hend => h (hends.mp hend)), hpins]

/-- **A call of the loop** that orders no brake keeps the brakes released, unless it is a
    motor update in STOP. -/
theorem loopCall_brakes {s : Act} {c : LoopCall} (h : ¬ CallBrakes s c)
    (hs : BrakesReleased s.motor.pins) (inp : ActInputs) :
    BrakesReleased (loopCall inp c s).motor.pins ↔
      ¬ (c = .motorUpdate ∧ s.motor.motorState = .stop) := by
  cases c with
  | canUpdate100us =>
      exact ⟨fun _ hc => absurd hc.1 (by simp), fun _ => canUpdate_spares h hs⟩
  | udsUpdate1ms =>
      refine ⟨fun _ hc => absurd hc.1 (by simp), fun _ => ?_⟩
      have hpins : (loopCall inp .udsUpdate1ms s).motor.pins = s.motor.pins :=
        udsUpdate_pins h inp
      rw [hpins]
      exact hs
  | motorUpdate =>
      obtain ⟨hstop, hturns⟩ := motorUpdate_brakes inp s
      constructor
      · rintro hrel ⟨-, hstate⟩
        exact not_released_of_on (hstop hstate) hrel
      · intro hno
        exact hturns fun hstate => hno ⟨rfl, hstate⟩
  | sendStatusIfNeeded =>
      refine ⟨fun _ hc => absurd hc.1 (by simp), fun _ => ?_⟩
      have hmotor : (loopCall inp .sendStatusIfNeeded s).motor = s.motor := by
        simp only [loopCall, appSendStatusIfNeeded, canCommSendActStatus]
        split
        · rfl
        · split <;> rfl
      rw [hmotor]
      exact hs
  | encoderUpdate1ms => exact ⟨fun _ hc => absurd hc.1 (by simp), fun _ => hs⟩
  | potUpdate1ms => exact ⟨fun _ hc => absurd hc.1 (by simp), fun _ => hs⟩
  | steeringTimer => exact ⟨fun _ hc => absurd hc.1 (by simp), fun _ => hs⟩
  | pulseHigh => exact ⟨fun _ hc => absurd hc.1 (by simp), fun _ => hs⟩
  | pulseRest us => exact ⟨fun _ hc => absurd hc.1 (by simp), fun _ => hs⟩

/-! ## Runs of the program -/

/-- The next step applies a coasting command. -/
def AppliesCoast (s : ActMachine) : Prop :=
  callAt s.pc = .inr .canUpdate100us ∧ ∃ c ∈ appliedCommand s.act, Coasts c

instance (s : ActMachine) : Decidable (AppliesCoast s) := inferInstanceAs (Decidable (_ ∧ _))

/-- A step orders the brake. -/
def StepBrakes (s : ActMachine) : ActEvent → Prop
  | .rxIsr _ => False
  | .call _ => ∃ c, callAt s.pc = .inr c ∧ CallBrakes s.act c

/-- A step is a `MotorControl_Update` in the motor state STOP. -/
def UpdatesStopped (s : ActMachine) : ActEvent → Prop
  | .rxIsr _ => False
  | .call _ => callAt s.pc = .inr .motorUpdate ∧ s.act.motor.motorState = .stop

/-- The main loop runs and the brakes are released. -/
def Rolls (s : ActMachine) : Prop := ¬ InBoot s.pc ∧ BrakesReleased s.act.motor.pins

/-- **One step** in a rolling vehicle that orders no brake. -/
theorem step_brakes {s : ActMachine} {e : ActEvent} (hs : Rolls s) (h : ¬ StepBrakes s e) :
    BrakesReleased (actStep s e).act.motor.pins ↔ ¬ UpdatesStopped s e := by
  obtain ⟨hboot, hrel⟩ := hs
  cases e with
  | rxIsr m =>
      refine ⟨fun _ hstopped => hstopped, fun _ => ?_⟩
      have hmotor : (actCanRxIsrHandler m s.act).motor = s.act.motor := (rxIsr_output m s.act).2.2
      show BrakesReleased (actCanRxIsrHandler m s.act).motor.pins
      rw [hmotor]
      exact hrel
  | call inp =>
      rcases hcall : callAt s.pc with c | c
      · rw [callAt_boot hcall] at hboot
        exact absurd trivial hboot
      · have hact : (actStep s (.call inp)).act = loopCall inp c s.act := by
          simp only [actStep, mainStep, hcall]
        have hspares : ¬ CallBrakes s.act c := fun hbrakes => h ⟨c, hcall, hbrakes⟩
        have hstopped : UpdatesStopped s (.call inp) ↔
            c = .motorUpdate ∧ s.act.motor.motorState = .stop := by
          simp only [UpdatesStopped, hcall, Sum.inr.injEq]
        rw [hact, hstopped]
        exact loopCall_brakes hspares hrel inp

/-- The main loop is not left. -/
theorem step_loop {s : ActMachine} (hs : ¬ InBoot s.pc) (e : ActEvent) :
    ¬ InBoot (actStep s e).pc := by
  cases e with
  | rxIsr m => exact hs
  | call inp => exact fun hnext => hs (inBoot_of_next hnext)

/-- **Coasting is not braking as long as no update is made in STOP.**  After a step that
    applies a coasting command the brakes are released, and while nothing orders the brake
    they stay released in every step exactly if none is a motor update in STOP. -/
theorem coast_released_iff (r : ActReset) (es : List ActEvent) (inp : ActInputs)
    (fs : List ActEvent) (hcoast : AppliesCoast (actRun r es))
    (hfs : AllSteps actStep (fun s e => ¬ StepBrakes s e)
      (actStep (actRun r es) (.call inp)) fs) :
    BrakesReleased (actStep (actRun r es) (.call inp)).act.motor.pins ∧
    (AllSteps actStep (fun s e => BrakesReleased (actStep s e).act.motor.pins)
        (actStep (actRun r es) (.call inp)) fs ↔
      AllSteps actStep (fun s e => ¬ UpdatesStopped s e)
        (actStep (actRun r es) (.call inp)) fs) := by
  obtain ⟨hcall, c, happlied, hc⟩ := hcoast
  obtain ⟨i, hpc⟩ := callAt_canUpdate hcall
  have hact : (actStep (actRun r es) (.call inp)).act = actCanUpdate100us (actRun r es).act := by
    simp only [actStep, mainStep, hcall, loopCall]
  have hrel : BrakesReleased (actStep (actRun r es) (.call inp)).act.motor.pins := by
    rw [hact]
    exact canUpdate_coasts happlied hc
  have hloop : ¬ InBoot (actRun r es).pc := by
    rw [hpc]
    exact fun hboot => hboot
  have hrolls : Rolls (actStep (actRun r es) (.call inp)) := ⟨step_loop hloop _, hrel⟩
  refine ⟨hrel, allSteps_iff_guarded Rolls ?_ ?_ hrolls hfs⟩
  · intro s e hs _ hnext
    exact ⟨step_loop hs.1 e, hnext⟩
  · intro s e hs hok
    exact step_brakes hs hok

/-! ## A command that coasts for less than a millisecond -/

/-- `n` calls of the main program with nothing received. -/
def calls (n : Nat) : List ActEvent := List.replicate n (.call restInputs)

/-- Remote drive in gear D, brake and accelerator off. -/
def coastFrame : CanMessage := fdMessage actCanCmdId actCanDlcIfx [0, 0, 0, 3, 1, 0]

/-- The boot phase, and the coasting command received. -/
def coastRun : List ActEvent := calls 955 ++ [.rxIsr coastFrame]

instance (s : ActMachine) : (e : ActEvent) → Decidable (StepBrakes s e)
  | .rxIsr _ => inferInstanceAs (Decidable False)
  | .call _ =>
      match h : callAt s.pc with
      | .inl c => isFalse (by
          rintro ⟨d, hd, -⟩
          exact absurd (h.symm.trans hd) (by simp))
      | .inr c => decidable_of_iff (CallBrakes s.act c) (by simp [StepBrakes, h])

instance (s : ActMachine) : (e : ActEvent) → Decidable (UpdatesStopped s e)
  | .rxIsr _ => inferInstanceAs (Decidable False)
  | .call _ => inferInstanceAs (Decidable (_ ∧ _))

/-- A drive command that follows within the millisecond keeps the brakes released. -/
theorem coast_released_drive :
    AllSteps actStep (fun s e => BrakesReleased (actStep s e).act.motor.pins)
      (actStep (actRun restReset coastRun) (.call restInputs))
      (.rxIsr driveLeftFrame :: calls 11) :=
  (coast_released_iff restReset coastRun restInputs (.rxIsr driveLeftFrame :: calls 11)
    (by decide +kernel) (by decide +kernel)).2.mpr (by decide +kernel)

/-- **Coasting turns into braking.**  Eleven calls after the coasting command, nothing else
    having been received, the first motor update has put the brakes on. -/
theorem coast_brakes :
    ¬ ∀ (r : ActReset) (es : List ActEvent) (inp : ActInputs) (fs : List ActEvent),
      AppliesCoast (actRun r es) →
      AllSteps actStep (fun s e => ¬ StepBrakes s e) (actStep (actRun r es) (.call inp)) fs →
      AllSteps actStep (fun s e => BrakesReleased (actStep s e).act.motor.pins)
        (actStep (actRun r es) (.call inp)) fs := by
  intro h
  have hreleased := h restReset coastRun restInputs (calls 11) (by decide +kernel)
    (by decide +kernel)
  revert hreleased
  decide +kernel

end Coast
