import RemoteVehicle.ActSpec

/-!
# What the calls of ACT write

Inversion lemmas, one per function of the source, that say everything later proofs need
about who writes what.

1. The receive interrupt accepts a command, stores a request or counts a bad frame
   (`rxIsr_cases`).
2. `ActCan_Update100us` is a tick of the latch inside ACT (`actLatch_update`).
3. `UdsDiag_Update1ms` leaves the CAN path alone; it drives the motor only through a
   running motor test (`udsUpdate_motor`) and touches no output while no routine runs
   (`udsUpdate_idle`).
4. Every other call of the main loop leaves the CAN path, the outputs and the
   diagnostics alone (`loopCall_quiet`).
-/

namespace ActFrame

open CanFrame ActMotor ActServo ActSensors ActState ActUdsDiag ActCan ActLoop ActSpec
open HeldCommand

/-! ## Receive interrupt -/

theorem accepted_inv {m : CanMessage} {c : ActCommand} (h : accepted m = some c) :
    m.messageId = actCanCmdId ∧ actCanIsCanFdFrameMode m.frameMode = true ∧
      m.dataLengthCode = actCanDlcIfx ∧ actCanIsValidCommand c = true ∧
      c = commandOfBytes (rxByte m) := by
  rw [accepted] at h
  split at h
  · rename_i hm
    obtain rfl := Option.some.inj h
    exact ⟨hm.1, hm.2.1, hm.2.2.1, hm.2.2.2, rfl⟩
  · exact absurd h (by simp)

/-- An accepted frame stores its command. -/
theorem rxIsr_accepted {m : CanMessage} {c : ActCommand} (h : accepted m = some c) (s : Act) :
    actCanRxIsrHandler m s = storeCommand c s := by
  obtain ⟨hid, hfd, hdlc, hv, rfl⟩ := accepted_inv h
  have hne : m.messageId ≠ udsDiagReqCanId := by rw [hid]; decide
  simp only [actCanRxIsrHandler]
  rw [if_neg hne, if_neg (by simp [hid, hfd, hdlc]), if_pos hv]

/-- A diagnostic request fills the request buffer. -/
theorem rxIsr_request {m : CanMessage} (h : IsDiagRequest m) (s : Act) :
    actCanRxIsrHandler m s = { s with uds := udsDiagOnCanRequest (rxByte m) s.uds } := by
  simp only [actCanRxIsrHandler]
  rw [if_pos h.1, if_pos h.2]

/-- Every other frame is counted as invalid, and nothing else. -/
theorem rxIsr_invalid {m : CanMessage} (hc : accepted m = none) (hr : ¬ IsDiagRequest m)
    (s : Act) : actCanRxIsrHandler m s = countInvalid s := by
  simp only [actCanRxIsrHandler]
  by_cases hid : m.messageId = udsDiagReqCanId
  · rw [if_pos hid, if_neg (fun h => hr ⟨hid, h⟩)]
  · rw [if_neg hid]
    split
    · rfl
    · rename_i hhead
      simp only [not_or, ne_eq, not_not, Bool.not_eq_false] at hhead
      rw [if_neg]
      intro hv
      rw [accepted, if_pos ⟨hhead.1, hhead.2.1, hhead.2.2, hv⟩] at hc
      exact absurd hc (by simp)

/-- **The receive interrupt**, by what the frame is. -/
theorem rxIsr_cases (m : CanMessage) (s : Act) :
    (∃ c, accepted m = some c ∧ actCanRxIsrHandler m s = storeCommand c s) ∨
    (accepted m = none ∧
      (actCanRxIsrHandler m s = { s with uds := udsDiagOnCanRequest (rxByte m) s.uds } ∨
        actCanRxIsrHandler m s = countInvalid s)) := by
  rcases hc : accepted m with _ | c
  · right
    refine ⟨rfl, ?_⟩
    by_cases hr : IsDiagRequest m
    · exact Or.inl (rxIsr_request hr s)
    · exact Or.inr (rxIsr_invalid hc hr s)
  · exact Or.inl ⟨c, rfl, rxIsr_accepted hc s⟩

/-- The interrupt writes no output and does not touch the routine. -/
theorem rxIsr_output (m : CanMessage) (s : Act) :
    actOutput (actCanRxIsrHandler m s) = actOutput s ∧
      (actCanRxIsrHandler m s).uds.routineState = s.uds.routineState ∧
      (actCanRxIsrHandler m s).motor = s.motor := by
  rcases rxIsr_cases m s with ⟨c, -, h⟩ | ⟨-, h | h⟩
  · rw [h]; exact ⟨rfl, rfl, rfl⟩
  · rw [h]; exact ⟨rfl, rfl, rfl⟩
  · rw [h]; exact ⟨rfl, rfl, rfl⟩

/-! ## The 100 us update -/

/-- Counting changes the counter only, as the latch counts. -/
theorem countTimeout_eq (s : Act) :
    countTimeout s = { s with can := { s.can with
      cmdTimeoutTick100us := (actLatch s).count actCanCmdTimeout100usTicks } } := by
  rw [countTimeout]
  by_cases h : s.can.cmdTimeoutTick100us < actCanCmdTimeout100usTicks
  · have hcount : (actLatch s).count actCanCmdTimeout100usTicks =
        s.can.cmdTimeoutTick100us + 1 := if_pos h
    rw [if_pos h, hcount]
  · have hcount : (actLatch s).count actCanCmdTimeout100usTicks =
        s.can.cmdTimeoutTick100us := if_neg h
    rw [if_neg h, hcount]

theorem countTimeout_counter (s : Act) :
    (countTimeout s).can.cmdTimeoutTick100us =
      (actLatch s).count actCanCmdTimeout100usTicks := by
  rw [countTimeout_eq]

theorem latchTimeout_can (s : Act) :
    (latchTimeout s).can.cmdTimeoutTick100us = s.can.cmdTimeoutTick100us ∧
      (latchTimeout s).can.rxUpdated = s.can.rxUpdated ∧
      (latchTimeout s).can.rx = s.can.rx := by
  rw [latchTimeout]
  split <;> exact ⟨rfl, rfl, rfl⟩

theorem actLatch_safe (s : Act) :
    actLatch (actCanEnterSafeState s) = { actLatch s with out := actSafe } := rfl

theorem actLatch_inhibit (m : UInt8) (s : Act) :
    actLatch (actCanEnterModeInhibitState m s) =
      { actLatch s with out := actInhibit m } := rfl

/-- Applying the drive part sets the motor state that the specification names. -/
theorem applyDrive_spec (accelRaw brakeRaw gearRaw : UInt8) (c : ActCommand)
    (ha : c.accelRaw = accelRaw) (hb : c.brakeRaw = brakeRaw) (hg : c.gearRaw = gearRaw)
    (s : Act) :
    actLatch (actCanApplyDrive accelRaw brakeRaw gearRaw s) =
      { actLatch s with out := { actOutput s with
          motorState := driveState c, gearState := gearRaw } } := by
  subst ha hb hg
  simp only [actCanApplyDrive, driveState]
  split
  · rfl
  · split
    · rfl
    · split
      · rfl
      · split <;> rfl

/-- Applying the steering part sets the key and the wheel duties. -/
theorem applySteering_spec (c : ActCommand) (s : Act) :
    actLatch (actCanApplySteering c.steeringRaw s) =
      { actLatch s with out := { actOutput s with
          steeringKey := (steerState c).1
          leftDutyPercent := (steerState c).2.1
          rightDutyPercent := (steerState c).2.2 } } := by
  simp only [actCanApplySteering, steerState]
  split
  · rfl
  · split <;> rfl

/-- **Applying a command is decoding it.** -/
theorem applyCommand_spec (c : ActCommand) (s : Act) :
    actLatch (applyCommand c s) = { actLatch s with out := actDecode c } := by
  simp only [applyCommand, actDecode]
  split
  · exact actLatch_safe _
  · split
    · exact actLatch_inhibit _ _
    · have hsteer := applySteering_spec c { s with can := { s.can with
        currentControlMode := c.controlModeRaw
        currentSafetyOverride := c.safetyOverrideRaw } }
      have hout := congrArg Latch.out hsteer
      rw [applyDrive_spec c.accelRaw c.brakeRaw c.gearRaw c rfl rfl rfl, hsteer]
      simp only [actLatch] at hout ⊢
      rw [hout]
      rfl

/-- **One update is one tick of the latch.** -/
theorem actLatch_update (s : Act) :
    actLatch (actCanUpdate100us s) =
      (actLatch s).tick actCanCmdTimeout100usTicks actSafe actDecode := by
  simp only [actCanUpdate100us, Latch.tick, countTimeout_counter]
  split
  · obtain ⟨hcnt, hfresh, hbox⟩ := latchTimeout_can (countTimeout s)
    rw [actLatch_safe]
    simp only [actLatch, hcnt, hfresh, hbox, countTimeout_counter]
    rw [countTimeout_eq]
  · rw [countTimeout_eq]
    show actLatch (if s.can.rxUpdated then _ else _) = (if s.can.rxUpdated then _ else _)
    split
    · rw [applyCommand_spec]
      rfl
    · rfl

/-- CAN state, motor and steering are all that differs. -/
def DrivesOnly (s t : Act) : Prop :=
  ∃ can motor steering, t = { s with can := can, motor := motor, steering := steering }

theorem DrivesOnly.trans {s t u : Act} (h₁ : DrivesOnly s t) (h₂ : DrivesOnly t u) :
    DrivesOnly s u := by
  obtain ⟨_, _, _, rfl⟩ := h₁
  obtain ⟨can, motor, steering, rfl⟩ := h₂
  exact ⟨can, motor, steering, rfl⟩

theorem applySteering_drives (steeringRaw : UInt8) (s : Act) :
    DrivesOnly s (actCanApplySteering steeringRaw s) := by
  rw [actCanApplySteering]
  split
  · exact ⟨_, _, _, rfl⟩
  · split
    · exact ⟨_, _, _, rfl⟩
    · exact ⟨_, _, _, rfl⟩

theorem applyDrive_drives (accelRaw brakeRaw gearRaw : UInt8) (s : Act) :
    DrivesOnly s (actCanApplyDrive accelRaw brakeRaw gearRaw s) := by
  rw [actCanApplyDrive]
  split
  · exact ⟨_, _, _, rfl⟩
  · split
    · exact ⟨_, _, _, rfl⟩
    · split
      · exact ⟨_, _, _, rfl⟩
      · split
        · exact ⟨_, _, _, rfl⟩
        · exact ⟨_, _, _, rfl⟩

theorem applyCommand_drives (c : ActCommand) (s : Act) : DrivesOnly s (applyCommand c s) := by
  rw [applyCommand]
  split
  · exact ⟨_, _, _, rfl⟩
  · split
    · exact ⟨_, _, _, rfl⟩
    · refine DrivesOnly.trans ?_ (applyDrive_drives _ _ _ _)
      refine DrivesOnly.trans ?_ (applySteering_drives _ _)
      exact ⟨_, _, _, rfl⟩

/-- **What the update writes**: CAN state, motor and steering. -/
theorem update_drives (s : Act) : DrivesOnly s (actCanUpdate100us s) := by
  have hcount : DrivesOnly s (countTimeout s) := by
    rw [countTimeout_eq]
    exact ⟨_, _, _, rfl⟩
  rw [actCanUpdate100us]
  dsimp only
  split
  · refine hcount.trans ?_
    rw [latchTimeout]
    split
    · exact ⟨_, _, _, rfl⟩
    · exact ⟨_, _, _, rfl⟩
  · split
    · refine hcount.trans (DrivesOnly.trans ?_ (applyCommand_drives _ _))
      exact ⟨_, _, _, rfl⟩
    · exact hcount

theorem update_uds (s : Act) : (actCanUpdate100us s).uds = s.uds := by
  obtain ⟨_, _, _, hupdate⟩ := update_drives s
  rw [hupdate]

/-! ## Diagnostics -/

/-- The CAN path, the commanded motor state and outputs and the routine are untouched. -/
structure KeepsControl (s t : Act) : Prop where
  can : t.can = s.can
  output : actOutput t = actOutput s
  uds : t.uds.routineState = s.uds.routineState ∧ t.uds.reqPending = s.uds.reqPending

theorem KeepsControl.refl (s : Act) : KeepsControl s s := ⟨rfl, rfl, rfl, rfl⟩

theorem KeepsControl.trans {s t u : Act} (h₁ : KeepsControl s t) (h₂ : KeepsControl t u) :
    KeepsControl s u :=
  ⟨h₂.can.trans h₁.can, h₂.output.trans h₁.output, h₂.uds.1.trans h₁.uds.1,
    h₂.uds.2.trans h₁.uds.2⟩

theorem KeepsControl.motorState {s t : Act} (h : KeepsControl s t) :
    t.motor.motorState = s.motor.motorState := congrArg ActOutput.motorState h.output

/-- **What sending writes**: the frames that were sent and the buffer that comes next. -/
theorem sendSingleFrame_writes (busy : Bool) (p : List UInt8) (s : Act) :
    ∃ sent index, udsDiagSendSingleFrame busy p s =
      { s with sent := sent, uds := { s.uds with udsTxBufferIndex := index } } := by
  rw [udsDiagSendSingleFrame]
  dsimp only
  split
  · exact ⟨s.sent, s.uds.udsTxBufferIndex, rfl⟩
  · split
    · exact ⟨s.sent, s.uds.udsTxBufferIndex, rfl⟩
    · exact ⟨_, _, rfl⟩

theorem sendSingleFrame_keeps (busy : Bool) (p : List UInt8) (s : Act) :
    KeepsControl s (udsDiagSendSingleFrame busy p s) := by
  obtain ⟨_, _, hsend⟩ := sendSingleFrame_writes busy p s
  rw [hsend]
  exact ⟨rfl, rfl, rfl, rfl⟩

theorem sessionControl_keeps (busy : Bool) (u : List UInt8) (s : Act) :
    KeepsControl s (udsDiagHandleSessionControl busy u s) := by
  simp only [udsDiagHandleSessionControl]
  split
  · exact sendSingleFrame_keeps busy _ s
  · split
    · exact sendSingleFrame_keeps busy _ s
    · refine KeepsControl.trans ?_ (sendSingleFrame_keeps busy _ _)
      exact ⟨rfl, rfl, rfl, rfl⟩

theorem readDID_keeps (busy : Bool) (u : List UInt8) (s : Act) :
    KeepsControl s (udsDiagHandleReadDID busy u s) := by
  simp only [udsDiagHandleReadDID]
  repeat' split
  all_goals exact sendSingleFrame_keeps busy _ s

theorem readDTC_keeps (busy : Bool) (u : List UInt8) (s : Act) :
    KeepsControl s (udsDiagHandleReadDTC busy u s) := by
  simp only [udsDiagHandleReadDTC]
  repeat' split
  all_goals exact sendSingleFrame_keeps busy _ s

theorem clearDTC_keeps (busy : Bool) (u : List UInt8) (s : Act) :
    KeepsControl s (udsDiagHandleClearDTC busy u s) := by
  simp only [udsDiagHandleClearDTC]
  split
  · exact sendSingleFrame_keeps busy _ s
  · split
    · exact sendSingleFrame_keeps busy _ s
    · refine KeepsControl.trans ?_ (sendSingleFrame_keeps busy _ _)
      exact ⟨rfl, rfl, rfl, rfl⟩

/-- A routine was started: it runs, its timer is at zero and nobody drives yet. -/
structure Starts (s t : Act) : Prop where
  idle : s.uds.routineState = .none
  running : t.uds.routineState ≠ .none
  timer : t.uds.routineTimerMs = 0
  can : t.can = s.can
  motorState : t.motor.motorState = s.motor.motorState

theorem routineControl_cases (busy : Bool) (u : List UInt8) (s : Act) :
    KeepsControl s (udsDiagHandleRoutineControl busy u s) ∨
      Starts s (udsDiagHandleRoutineControl busy u s) := by
  simp only [udsDiagHandleRoutineControl]
  split
  · exact Or.inl (sendSingleFrame_keeps busy _ s)
  · split
    · exact Or.inl (sendSingleFrame_keeps busy _ s)
    · split
      · exact Or.inl (sendSingleFrame_keeps busy _ s)
      · split
        · exact Or.inl (sendSingleFrame_keeps busy _ s)
        · rename_i hidle
          have hnone : s.uds.routineState = .none := not_not.mp hidle
          split
          · exact Or.inr ⟨hnone, by simp [udsDiagStartMotorRoutine], rfl, rfl, rfl⟩
          · split
            · exact Or.inr ⟨hnone, by simp [udsDiagStartServoRoutine], rfl, rfl, rfl⟩
            · exact Or.inl (sendSingleFrame_keeps busy _ s)

theorem processRequest_cases (busy : Bool) (d : Vector UInt8 8) (s : Act) :
    KeepsControl s (udsDiagProcessRequest busy d s) ∨
      Starts s (udsDiagProcessRequest busy d s) := by
  simp only [udsDiagProcessRequest]
  split
  · exact Or.inl (KeepsControl.refl s)
  · split
    · exact Or.inl (KeepsControl.refl s)
    · split
      · exact Or.inl (sessionControl_keeps busy _ s)
      · split
        · exact Or.inl (readDID_keeps busy _ s)
        · split
          · exact Or.inl (readDTC_keeps busy _ s)
          · split
            · exact Or.inl (clearDTC_keeps busy _ s)
            · split
              · exact routineControl_cases busy _ s
              · exact Or.inl (sendSingleFrame_keeps busy _ s)

/-- Serving the pending request changes nothing in the control path or starts a routine. -/
theorem serveRequest_cases (busy : Bool) (s : Act) :
    ((udsDiagServeRequest busy s).can = s.can ∧
      actOutput (udsDiagServeRequest busy s) = actOutput s ∧
      (udsDiagServeRequest busy s).uds.routineState = s.uds.routineState) ∨
      Starts s (udsDiagServeRequest busy s) := by
  rw [udsDiagServeRequest]
  split
  · rcases processRequest_cases busy s.uds.reqData
      { s with uds := { s.uds with reqPending := false } } with h | h
    · exact Or.inl ⟨h.can, h.output, h.uds.1⟩
    · exact Or.inr ⟨h.idle, h.running, h.timer, h.can, h.motorState⟩
  · exact Or.inl ⟨rfl, rfl, rfl⟩

/-- The motor test either drives forward and goes on, or stops and is over. -/
theorem motorRoutine_cases (busy : Bool) (s : Act) (h : s.uds.routineState = .motorTest) :
    (udsDiagUpdateMotorRoutine1ms busy s).can = s.can ∧
    (((udsDiagUpdateMotorRoutine1ms busy s).uds.routineState = .motorTest ∧
      (udsDiagUpdateMotorRoutine1ms busy s).motor.motorState = .forward ∧
      s.uds.routineTimerMs + 1 < 1000) ∨
     ((udsDiagUpdateMotorRoutine1ms busy s).uds.routineState = .none ∧
      (udsDiagUpdateMotorRoutine1ms busy s).motor.motorState = .stop ∧
      1000 ≤ s.uds.routineTimerMs + 1)) := by
  simp only [udsDiagUpdateMotorRoutine1ms, udsDiagSendRoutineResult]
  split
  · rename_i ht
    have hsend := sendSingleFrame_keeps busy
      [sidRoutineControl + posRespOffset, 0x01, UInt8.ofNat (routineMotorTest / 256),
        UInt8.ofNat routineMotorTest, routineResultOk]
      { s with
        uds := { s.uds with routineTimerMs := s.uds.routineTimerMs + 1 }
        motor := motorControlSetDutyPercent s.uds.savedMotorDuty.val
          (motorControlStop (motorControlForward (motorControlSetDutyPercent 30 s.motor))) }
    exact ⟨hsend.can, Or.inr ⟨rfl, hsend.motorState, ht⟩⟩
  · rename_i ht
    exact ⟨rfl, Or.inl ⟨h, rfl, Nat.not_le.mp ht⟩⟩

/-- The servo test never touches the motor. -/
theorem servoRoutine_cases (busy : Bool) (s : Act) (h : s.uds.routineState = .servoTest) :
    (udsDiagUpdateServoRoutine1ms busy s).can = s.can ∧
    (udsDiagUpdateServoRoutine1ms busy s).motor.motorState = s.motor.motorState ∧
    ((udsDiagUpdateServoRoutine1ms busy s).uds.routineState = .servoTest ∨
      ((udsDiagUpdateServoRoutine1ms busy s).uds.routineState = .none ∧
        800 ≤ s.uds.routineTimerMs + 1)) := by
  simp only [udsDiagUpdateServoRoutine1ms, udsDiagSendRoutineResult]
  split
  · exact ⟨rfl, rfl, Or.inl h⟩
  · rename_i ht
    split
    · have hsend := sendSingleFrame_keeps busy
        [sidRoutineControl + posRespOffset, 0x01, UInt8.ofNat (routineServoTest / 256),
          UInt8.ofNat routineServoTest, routineResultOk]
        { s with
          uds := { s.uds with routineTimerMs := 0, routineStep := s.uds.routineStep + 1 }
          steering := steeringSetKey .null
            (steeringSetKey (servoRoutineKey s.uds.routineStep) s.steering) }
      exact ⟨hsend.can, hsend.motorState,
        Or.inr ⟨rfl, Nat.not_lt.mp ht⟩⟩
    · exact ⟨rfl, rfl, Or.inl h⟩

/-- Outputs, frames and the variables of a routine are all that differs. -/
def RoutineOnly (s t : Act) : Prop :=
  ∃ sent motor steering index timer step state, t =
    { s with
      sent := sent, motor := motor, steering := steering
      uds := { s.uds with
        udsTxBufferIndex := index, routineTimerMs := timer, routineStep := step
        routineState := state } }

theorem RoutineOnly.trans {s t u : Act} (h₁ : RoutineOnly s t) (h₂ : RoutineOnly t u) :
    RoutineOnly s u := by
  obtain ⟨_, _, _, _, _, _, _, rfl⟩ := h₁
  obtain ⟨sent, motor, steering, index, timer, step, state, rfl⟩ := h₂
  exact ⟨sent, motor, steering, index, timer, step, state, rfl⟩

theorem endRoutine_only (busy : Bool) (rid : Nat) (result : UInt8) (s : Act) :
    RoutineOnly s (udsDiagEndRoutine (udsDiagSendRoutineResult busy rid result s)) := by
  obtain ⟨sent, index, hsend⟩ := sendSingleFrame_writes busy
    [sidRoutineControl + posRespOffset, 0x01, UInt8.ofNat (rid / 256), UInt8.ofNat rid, result] s
  rw [udsDiagSendRoutineResult, hsend]
  exact ⟨sent, s.motor, s.steering, index, 0, 0, .none, rfl⟩

/-- **What a running routine writes.** -/
theorem updateRoutine_only (busy : Bool) (s : Act) :
    RoutineOnly s (udsDiagUpdateRoutine1ms busy s) := by
  rw [udsDiagUpdateRoutine1ms]
  split
  · rw [udsDiagUpdateMotorRoutine1ms]
    dsimp only
    split
    · refine RoutineOnly.trans ?_ (endRoutine_only busy _ _ _)
      exact ⟨_, _, _, _, _, _, _, rfl⟩
    · exact ⟨_, _, _, _, _, _, _, rfl⟩
  · rw [udsDiagUpdateServoRoutine1ms]
    dsimp only
    split
    · exact ⟨_, _, _, _, _, _, _, rfl⟩
    · split
      · refine RoutineOnly.trans ?_ (endRoutine_only busy _ _ _)
        exact ⟨_, _, _, _, _, _, _, rfl⟩
      · exact ⟨_, _, _, _, _, _, _, rfl⟩
  · exact ⟨_, _, _, _, _, _, _, rfl⟩

/-- The monitor writes its own variables only. -/
theorem dtcMonitor_keeps (s : Act) : KeepsControl s (udsDiagUpdateDtcMonitor1ms s) := by
  simp only [udsDiagUpdateDtcMonitor1ms]
  split <;> exact ⟨rfl, rfl, rfl, rfl⟩

/-- Advancing the routine leaves the CAN path alone. -/
theorem updateRoutine_can (busy : Bool) (s : Act) :
    (udsDiagUpdateRoutine1ms busy s).can = s.can := by
  obtain ⟨_, _, _, _, _, _, _, hupdate⟩ := updateRoutine_only busy s
  rw [hupdate]

theorem serveRequest_can (busy : Bool) (s : Act) :
    (udsDiagServeRequest busy s).can = s.can := by
  rcases serveRequest_cases busy s with h | h
  · exact h.1
  · exact h.can

theorem serveRequest_motorState (busy : Bool) (s : Act) :
    (udsDiagServeRequest busy s).motor.motorState = s.motor.motorState := by
  rcases serveRequest_cases busy s with h | h
  · exact congrArg ActOutput.motorState h.2.1
  · exact h.motorState

/-- **Diagnostics leave the CAN path alone.** -/
theorem udsUpdate_can (inp : ActInputs) (s : Act) : (udsDiagUpdate1ms inp s).can = s.can := by
  rw [udsDiagUpdate1ms, (dtcMonitor_keeps _).can, updateRoutine_can, serveRequest_can]

theorem serveRequest_routine (busy : Bool) (s : Act)
    (h : s.uds.routineState = .motorTest) :
    (udsDiagServeRequest busy s).uds.routineState = .motorTest := by
  rcases serveRequest_cases busy s with hs | hs
  · exact hs.2.2.trans h
  · exact absurd (hs.idle.symm.trans h) (by simp)

/-- **The motor under diagnostics.**  Unless a motor test is running afterwards, the motor
    is stopped, or none was running before and it is in the state it had before. -/
theorem udsUpdate_motor (inp : ActInputs) (s : Act)
    (h : (udsDiagUpdate1ms inp s).uds.routineState ≠ .motorTest) :
    (udsDiagUpdate1ms inp s).motor.motorState = .stop ∨
      ((udsDiagUpdate1ms inp s).motor.motorState = s.motor.motorState ∧
        s.uds.routineState ≠ .motorTest) := by
  rw [udsDiagUpdate1ms, (dtcMonitor_keeps _).uds.1] at h
  rw [udsDiagUpdate1ms, (dtcMonitor_keeps _).motorState]
  rw [← serveRequest_motorState inp.responseTxBusy s]
  rw [udsDiagUpdateRoutine1ms] at h ⊢
  rcases hr : (udsDiagServeRequest inp.responseTxBusy s).uds.routineState with _ | _ | _
  · refine Or.inr ⟨rfl, fun hs => ?_⟩
    exact absurd ((serveRequest_routine _ s hs).symm.trans hr) (by simp)
  · rw [hr] at h
    rcases (motorRoutine_cases inp.routineTxBusy _ hr).2 with hm | hm
    · exact absurd hm.1 h
    · exact Or.inl hm.2.1
  · refine Or.inr ⟨(servoRoutine_cases inp.routineTxBusy _ hr).2.1, fun hs => ?_⟩
    exact absurd ((serveRequest_routine _ s hs).symm.trans hr) (by simp)

/-- A motor test that is running after the call drives forward. -/
theorem udsUpdate_motorTest (inp : ActInputs) (s : Act)
    (h : (udsDiagUpdate1ms inp s).uds.routineState = .motorTest) :
    (udsDiagUpdate1ms inp s).motor.motorState = .forward := by
  rw [udsDiagUpdate1ms, (dtcMonitor_keeps _).uds.1] at h
  rw [udsDiagUpdate1ms, (dtcMonitor_keeps _).motorState]
  rw [udsDiagUpdateRoutine1ms] at h ⊢
  rcases hr : (udsDiagServeRequest inp.responseTxBusy s).uds.routineState with _ | _ | _
  · rw [hr] at h
    exact absurd (hr.symm.trans h) (by simp)
  · rw [hr] at h
    rcases (motorRoutine_cases inp.routineTxBusy _ hr).2 with hm | hm
    · exact hm.2.1
    · exact absurd (hm.1.symm.trans h) (by simp)
  · rw [hr] at h
    rcases (servoRoutine_cases inp.routineTxBusy _ hr).2.2 with hm | hm
    · exact absurd (hm.symm.trans h) (by simp)
    · exact absurd (hm.1.symm.trans h) (by simp)

/-- **Idle diagnostics write no output.**  When no routine runs before and after the call,
    the outputs are what they were: a routine that starts is still running at the end. -/
theorem udsUpdate_idle (inp : ActInputs) (s : Act) (h₀ : s.uds.routineState = .none)
    (h : (udsDiagUpdate1ms inp s).uds.routineState = .none) :
    actOutput (udsDiagUpdate1ms inp s) = actOutput s := by
  rw [udsDiagUpdate1ms, (dtcMonitor_keeps _).uds.1] at h
  rw [udsDiagUpdate1ms, (dtcMonitor_keeps _).output]
  rcases serveRequest_cases inp.responseTxBusy s with hs | hs
  · have hnone := hs.2.2.trans h₀
    rw [udsDiagUpdateRoutine1ms, hnone]
    exact hs.2.1
  · rw [udsDiagUpdateRoutine1ms] at h
    have htimer := hs.timer
    rcases hr : (udsDiagServeRequest inp.responseTxBusy s).uds.routineState with _ | _ | _
    · exact absurd hr hs.running
    · rw [hr] at h
      rcases (motorRoutine_cases inp.routineTxBusy _ hr).2 with hm | hm
      · exact absurd (hm.1.symm.trans h) (by simp)
      · omega
    · rw [hr] at h
      rcases (servoRoutine_cases inp.routineTxBusy _ hr).2.2 with hm | hm
      · exact absurd (hm.symm.trans h) (by simp)
      · omega

/-! ## The other calls -/

theorem motorUpdateCall_keeps (inp : ActInputs) (s : Act) :
    KeepsControl s (motorControlUpdateCall inp s) := ⟨rfl, rfl, rfl, rfl⟩

theorem sendStatus_keeps (busy : Bool) (s : Act) :
    KeepsControl s (appSendStatusIfNeeded busy s) := by
  simp only [appSendStatusIfNeeded, canCommSendActStatus]
  split
  · exact ⟨rfl, rfl, rfl, rfl⟩
  · split
    · exact ⟨rfl, rfl, rfl, rfl⟩
    · exact ⟨rfl, rfl, rfl, rfl⟩

/-- **Frame rule.**  A call other than the CAN update and the diagnostics leaves the CAN
    path, the outputs and the routine alone. -/
theorem loopCall_quiet (inp : ActInputs) (c : LoopCall) (s : Act)
    (hc : c ≠ .canUpdate100us) (hu : c ≠ .udsUpdate1ms) :
    KeepsControl s (loopCall inp c s) := by
  cases c with
  | canUpdate100us => exact absurd rfl hc
  | udsUpdate1ms => exact absurd rfl hu
  | motorUpdate => exact motorUpdateCall_keeps inp s
  | encoderUpdate1ms => exact ⟨rfl, rfl, rfl, rfl⟩
  | potUpdate1ms => exact ⟨rfl, rfl, rfl, rfl⟩
  | sendStatusIfNeeded => exact sendStatus_keeps inp.statusTxBusy s
  | steeringTimer => exact ⟨rfl, rfl, rfl, rfl⟩
  | pulseHigh => exact ⟨rfl, rfl, rfl, rfl⟩
  | pulseRest us => exact ⟨rfl, rfl, rfl, rfl⟩

end ActFrame
