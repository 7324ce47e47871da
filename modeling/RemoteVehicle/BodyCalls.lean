import RemoteVehicle.BodyControl
import RemoteVehicle.Runs

/-!
# The functions of `BodyControl.c` in any order

`ControlCall` is a call of one of the public functions that change the state of
`BodyControl.c`, and a run is a list of such calls after `BodyControl_Init`: commands,
diagnostic requests and the 1 ms update in any order.

The 1 ms update falls into three parts: what comes before the blinking, the blinking, and the
diagnosis.  `beforeBlink_writes` says what the first part writes; it touches no request, no lamp
pin, no blink phase and no lamp fault.
-/

namespace BodyCalls

open Runs BodyState BodyControl

/-! ## Calls -/

/-- The public functions of `BodyControl.c` that change its state, and time that passes between
    two of them. -/
inductive ControlCall where
  | setHeadlamp (on : Bool)
  | setBrakeLamp (on : Bool)
  | setLeftTurn (on : Bool)
  | setRightTurn (on : Bool)
  | setTurnSignal (turnMode : UInt8)
  | setCollisionWarningLamp (on : Bool)
  | setHorn (on : Bool)
  | consumeCollisionButtonPressedEvent
  | allOff (inp : BodyInputs)
  | clearDiagFaults
  | clearDtcHistory
  | runBuzzerDiagnosticRoutine
  | runLedDiagnosticRoutine
  | runUltrasonicDiagnosticRoutine (echo : UltrasonicEcho)
  | update1ms (inp : BodyInputs)
  | wait (us : Nat)

/-- The effect of a call. -/
def controlStep (s : BodyControlState) : ControlCall → BodyControlState
  | .setHeadlamp on => setHeadlamp on s
  | .setBrakeLamp on => setBrakeLamp on s
  | .setLeftTurn on => setLeftTurn on s
  | .setRightTurn on => setRightTurn on s
  | .setTurnSignal turnMode => setTurnSignal turnMode s
  | .setCollisionWarningLamp on => setCollisionWarningLamp on s
  | .setHorn on => setHorn on s
  | .consumeCollisionButtonPressedEvent => (consumeCollisionButtonPressedEvent s).2
  | .allOff inp => allOff inp s
  | .clearDiagFaults => clearDiagFaults s
  | .clearDtcHistory => clearDtcHistory s
  | .runBuzzerDiagnosticRoutine => runBuzzerDiagnosticRoutine s
  | .runLedDiagnosticRoutine => runLedDiagnosticRoutine s
  | .runUltrasonicDiagnosticRoutine echo => (runUltrasonicDiagnosticRoutine echo s).2
  | .update1ms inp => update1ms inp s
  | .wait us => delayUs us s

/-- The state after `BodyControl_Init` and a list of calls. -/
def controlRun (inp : BodyInputs) (cs : List ControlCall) : BodyControlState :=
  run controlStep (init inp) cs

/-- The call is a 1 ms update. -/
def ControlCall.isUpdate : ControlCall → Bool
  | .update1ms _ => true
  | _ => false

/-- The 1 ms updates in a list of calls. -/
def updates (cs : List ControlCall) : Nat := cs.countP ControlCall.isUpdate

theorem updates_cons (c : ControlCall) (cs : List ControlCall) :
    updates (c :: cs) = updates [c] + updates cs := by
  rw [← List.singleton_append]
  exact List.countP_append

/-! ## The three parts of the update -/

/-- Switch, sensor, horn, warning sound and trouble code. -/
def beforeBlink (inp : BodyInputs) (s : BodyControlState) : BodyControlState :=
  updateDiagDangerLedBlink1ms (updateDtcStatus1ms inp (updateCollisionWarningSound1ms
    (updateHorn1ms (updateUltrasonic1ms inp
      { s with button := updateCollisionButton1ms inp.buttonHigh s.button }))))

theorem update1ms_eq (inp : BodyInputs) (s : BodyControlState) :
    update1ms inp s = updateDiagnosis1ms inp (updateBlink (beforeBlink inp s)) := rfl

/-- The lamp bits of a fault mask. -/
def lampBits : UInt8 :=
  diagBrakeLampBit ||| diagHeadlampBit ||| diagLeftTurnBit ||| diagRightTurnBit

/-- The ultrasonic bit is no lamp bit. -/
theorem lampBits_ultrasonic : ∀ mask : UInt8,
    (mask ||| diagUltrasonicBit) &&& lampBits = mask &&& lampBits ∧
      (mask &&& ~~~ diagUltrasonicBit) &&& lampBits = mask &&& lampBits := by
  rintro ⟨b⟩
  revert b
  decide +kernel

section Writes

variable (inp : BodyInputs) (s : BodyControlState)

theorem updateUltrasonic_writes : ∃ u w mask led stm,
    updateUltrasonic1ms inp s = { s with
      ultrasonic := u, sound := w, diag := { s.diag with faultMask := mask }
      pins := { s.pins with dangerLed := led }, stmUs := stm } ∧
      mask &&& lampBits = s.diag.faultMask &&& lampBits := by
  simp only [updateUltrasonic1ms]
  split
  · exact ⟨_, _, _, _, _, rfl, rfl⟩
  · split
    · exact ⟨_, _, _, _, _, rfl, rfl⟩
    · simp only [measurePeriodic]
      split
      · exact ⟨_, _, _, _, _, rfl, (lampBits_ultrasonic s.diag.faultMask).1⟩
      · exact ⟨_, _, _, _, _, rfl, rfl⟩

theorem updateHorn_writes : ∃ horn on,
    updateHorn1ms s = { s with horn := horn, pins := { s.pins with buzzer := on } } := by
  simp only [updateHorn1ms]
  split
  · exact ⟨_, _, rfl⟩
  · split
    · exact ⟨_, _, rfl⟩
    · exact ⟨_, _, rfl⟩

theorem silenceWarning_writes : ∃ on,
    silenceWarning s = { s with pins := { s.pins with buzzer := on } } := by
  rw [silenceWarning]
  split
  · exact ⟨_, rfl⟩
  · exact ⟨_, rfl⟩

theorem updateSound_writes : ∃ w on,
    updateCollisionWarningSound1ms s =
      { s with sound := w, pins := { s.pins with buzzer := on } } := by
  simp only [updateCollisionWarningSound1ms]
  split
  · obtain ⟨on, hsilence⟩ := silenceWarning_writes { s with sound := resetCollisionWarningSound }
    exact ⟨_, on, hsilence⟩
  · split
    · exact ⟨_, _, rfl⟩
    · simp only [writeBuzzerIf]
      split
      · exact ⟨_, _, rfl⟩
      · exact ⟨_, _, rfl⟩

theorem runUltrasonic_writes (echo : UltrasonicEcho) : ∃ cm valid mask led stm,
    (runUltrasonicDiagnosticRoutine echo s).2 = { s with
      ultrasonic := { s.ultrasonic with distanceCm := cm, distanceValid := valid }
      diag := { s.diag with faultMask := mask }
      pins := { s.pins with dangerLed := led }, stmUs := stm } ∧
      mask &&& lampBits = s.diag.faultMask &&& lampBits := by
  simp only [runUltrasonicDiagnosticRoutine]
  split
  · exact ⟨_, _, _, _, _, rfl, (lampBits_ultrasonic s.diag.faultMask).1⟩
  · exact ⟨_, _, _, _, _, rfl, rfl⟩

theorem syncFaultMask_writes : ∃ mask led,
    syncUltrasonicDtcFaultMask s = { s with
      diag := { s.diag with faultMask := mask }, pins := { s.pins with dangerLed := led } } ∧
      mask &&& lampBits = s.diag.faultMask &&& lampBits := by
  refine ⟨_, _, rfl, ?_⟩
  split
  · exact (lampBits_ultrasonic s.diag.faultMask).1
  · exact (lampBits_ultrasonic s.diag.faultMask).2

theorem updateUltrasonicDtc_writes (failed : Bool) : ∃ dtc danger mask led,
    updateUltrasonicDtcStatus failed s = { s with
      dtc := dtc, danger := danger, diag := { s.diag with faultMask := mask }
      pins := { s.pins with dangerLed := led } } ∧
      mask &&& lampBits = s.diag.faultMask &&& lampBits := by
  simp only [updateUltrasonicDtcStatus]
  split
  · obtain ⟨mask, led, hsync, hmask⟩ := syncFaultMask_writes
      (startDiagDangerLedBlink { s with dtc := countUltrasonicDtc failed s.dtc })
    exact ⟨_, _, mask, led, hsync, hmask⟩
  · obtain ⟨mask, led, hsync, hmask⟩ := syncFaultMask_writes
      { s with dtc := countUltrasonicDtc failed s.dtc }
    exact ⟨_, _, mask, led, hsync, hmask⟩

theorem updateDtc_writes : ∃ cm valid dtc danger mask led stm,
    updateDtcStatus1ms inp s = { s with
      ultrasonic := { s.ultrasonic with distanceCm := cm, distanceValid := valid }
      dtc := dtc, danger := danger, diag := { s.diag with faultMask := mask }
      pins := { s.pins with dangerLed := led }, stmUs := stm } ∧
      mask &&& lampBits = s.diag.faultMask &&& lampBits := by
  simp only [updateDtcStatus1ms]
  split
  · exact ⟨_, _, _, _, _, _, _, rfl, rfl⟩
  · obtain ⟨cm, valid, mask, led, stm, hrun, hmask⟩ := runUltrasonic_writes
      { s with dtc := { s.dtc with checkTimerMs := 0 } } inp.dtcEcho
    rw [hrun]
    obtain ⟨dtc, danger, mask', led', hdtc, hmask'⟩ := updateUltrasonicDtc_writes
      { s with
        ultrasonic := { s.ultrasonic with distanceCm := cm, distanceValid := valid }
        dtc := { s.dtc with checkTimerMs := 0 }, diag := { s.diag with faultMask := mask }
        pins := { s.pins with dangerLed := led }, stmUs := stm }
      (!(runUltrasonicDiagnosticRoutine inp.dtcEcho
        { s with dtc := { s.dtc with checkTimerMs := 0 } }).1.1)
    exact ⟨cm, valid, dtc, danger, mask', led', stm, hdtc, hmask'.trans hmask⟩

theorem updateDangerBlink_writes : ∃ danger led,
    updateDiagDangerLedBlink1ms s =
      { s with danger := danger, pins := { s.pins with dangerLed := led } } := by
  simp only [updateDiagDangerLedBlink1ms]
  split
  · exact ⟨_, _, rfl⟩
  · split
    · exact ⟨_, _, rfl⟩
    · split
      · exact ⟨_, _, rfl⟩
      · exact ⟨_, _, rfl⟩

theorem playTone_writes (freqHz ms : Nat) : ∃ on us, playToneForMs freqHz ms s =
    { s with pins := { s.pins with buzzer := on }, stmUs := us } := by
  simp only [playToneForMs]
  split
  · exact ⟨_, _, rfl⟩
  · exact ⟨_, _, rfl⟩

theorem hornSlices_writes (holdMs fuel freqHz otherHz elapsedMs : Nat) : ∃ on us,
    hornSlices holdMs fuel freqHz otherHz elapsedMs s =
      { s with pins := { s.pins with buzzer := on }, stmUs := us } := by
  induction fuel generalizing freqHz otherHz elapsedMs s with
  | zero => exact ⟨_, _, rfl⟩
  | succ fuel ih =>
      simp only [hornSlices]
      split
      · generalize (if holdMs < elapsedMs + 35 then holdMs - elapsedMs else 35) = sliceMs
        obtain ⟨on, us, htone⟩ := playTone_writes s freqHz sliceMs
        rw [htone]
        obtain ⟨on', us', hrest⟩ :=
          ih { s with pins := { s.pins with buzzer := on }, stmUs := us }
            otherHz freqHz (elapsedMs + sliceMs)
        exact ⟨on', us', hrest⟩
      · exact ⟨_, _, rfl⟩

/-- The buzzer test writes the buzzer pin only, and takes its time. -/
theorem runBuzzer_writes : ∃ on us, runBuzzerDiagnosticRoutine s =
    { s with pins := { s.pins with buzzer := on }, stmUs := us } := by
  rw [runBuzzerDiagnosticRoutine, hornForMs, if_pos (by decide)]
  obtain ⟨on, us, htone⟩ := playTone_writes s 520 80
  obtain ⟨on', us', hslices⟩ := hornSlices_writes
    { s with pins := { s.pins with buzzer := on }, stmUs := us } 500 500 390 430 80
  rw [htone, hslices]
  exact ⟨_, _, rfl⟩

theorem setWarningLamp_writes (on : Bool) : ∃ u w buzzer,
    setCollisionWarningLamp on s = { s with
      requests := { s.requests with collisionWarningLampOn := on }
      ultrasonic := u, sound := w, pins := { s.pins with buzzer := buzzer } } := by
  simp only [setCollisionWarningLamp]
  split
  · exact ⟨_, _, _, rfl⟩
  · obtain ⟨buzzer, hsilence⟩ := silenceWarning_writes { s with
      requests := { s.requests with collisionWarningLampOn := on }
      ultrasonic := forgetUltrasonicDistance, sound := resetCollisionWarningSound }
    exact ⟨_, _, buzzer, hsilence⟩

theorem setHorn_writes (on : Bool) : ∃ horn buzzer,
    setHorn on s = { s with
      requests := { s.requests with hornEnabled := on }
      horn := horn, pins := { s.pins with buzzer := buzzer } } := by
  rw [setHorn]
  split
  · exact ⟨_, _, rfl⟩
  · exact ⟨_, _, rfl⟩

theorem clearDtc_writes : ∃ dtc danger mask led,
    clearDtcHistory s = { s with
      dtc := dtc, danger := danger, diag := { s.diag with faultMask := mask }
      pins := { s.pins with dangerLed := led } } ∧
      mask &&& lampBits = s.diag.faultMask &&& lampBits := by
  obtain ⟨mask, led, hsync, hmask⟩ := syncFaultMask_writes { s with
    dtc := { s.dtc with
      status := s.dtc.status &&& ~~~ dtcStatusHistoryBit, consecutiveFailCount := 0 }
    danger := ⟨false, false, 0, 0⟩ }
  exact ⟨_, _, mask, led, hsync, hmask⟩

/-- **What comes before the blinking** writes no request, no blink phase, no lamp pin and no
    lamp timer, and keeps the lamp faults. -/
theorem beforeBlink_writes : ∃ u w horn dtc danger mask buzzer led stm,
    beforeBlink inp s = { s with
      button := updateCollisionButton1ms inp.buttonHigh s.button
      ultrasonic := u, sound := w, horn := horn, dtc := dtc, danger := danger
      diag := { s.diag with faultMask := mask }
      pins := { s.pins with buzzer := buzzer, dangerLed := led }, stmUs := stm } ∧
      mask &&& lampBits = s.diag.faultMask &&& lampBits := by
  obtain ⟨u₁, w₁, mask₁, led₁, stm₁, hultra, hmask₁⟩ := updateUltrasonic_writes inp
    { s with button := updateCollisionButton1ms inp.buttonHigh s.button }
  rw [beforeBlink, hultra]
  obtain ⟨horn, on₁, hhorn⟩ := updateHorn_writes { s with
    button := updateCollisionButton1ms inp.buttonHigh s.button
    ultrasonic := u₁, sound := w₁, diag := { s.diag with faultMask := mask₁ }
    pins := { s.pins with dangerLed := led₁ }, stmUs := stm₁ }
  rw [hhorn]
  obtain ⟨w₂, on₂, hsound⟩ := updateSound_writes { s with
    button := updateCollisionButton1ms inp.buttonHigh s.button
    ultrasonic := u₁, sound := w₁, horn := horn, diag := { s.diag with faultMask := mask₁ }
    pins := { s.pins with buzzer := on₁, dangerLed := led₁ }, stmUs := stm₁ }
  rw [hsound]
  obtain ⟨cm, valid, dtc, danger, mask₂, led₂, stm₂, hdtc, hmask₂⟩ := updateDtc_writes inp
    { s with
      button := updateCollisionButton1ms inp.buttonHigh s.button
      ultrasonic := u₁, sound := w₂, horn := horn, diag := { s.diag with faultMask := mask₁ }
      pins := { s.pins with buzzer := on₂, dangerLed := led₁ }, stmUs := stm₁ }
  rw [hdtc]
  obtain ⟨danger', led₃, hblink⟩ := updateDangerBlink_writes { s with
    button := updateCollisionButton1ms inp.buttonHigh s.button
    ultrasonic := { u₁ with distanceCm := cm, distanceValid := valid }, sound := w₂
    horn := horn, dtc := dtc, danger := danger, diag := { s.diag with faultMask := mask₂ }
    pins := { s.pins with buzzer := on₂, dangerLed := led₂ }, stmUs := stm₂ }
  rw [hblink]
  exact ⟨_, _, _, _, _, _, _, _, _, rfl, hmask₂.trans hmask₁⟩

end Writes

end BodyCalls
