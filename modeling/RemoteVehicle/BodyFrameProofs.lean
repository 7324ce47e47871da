import RemoteVehicle.BodyCommandProofs
import RemoteVehicle.UdsTrace

/-!
# Who writes the trouble code of BODY, and who waits

Two variables of `BodyControl.c` are written in few places: the trouble code by the check
and by the clear request, and the system timer, which the model advances wherever the
source waits.  `codeTime` is the pair of them.  Most functions leave it alone; the waits
and the measurements move the time and leave the trouble code alone.

`codeTime_update1ms` and `codeTime_served` say what a 1 ms update and a served request do
to the pair; `codeTime_canUpdate` puts them together for `BodyCan_Update1ms`.
-/

namespace BodyFrame

open Runs CanFrame BodyState BodyUds BodyCan BodySpec UdsFrame UdsAnswer UdsTrace

/-- The trouble code and the timer. -/
def codeTime (s : BodyControlState) : UltrasonicDtc × Nat := (s.dtc, s.stmUs)

/-- `us` later. -/
def later (us : Nat) (p : UltrasonicDtc × Nat) : UltrasonicDtc × Nat := (p.1, p.2 + us)

theorem later_later (us vs : Nat) (p : UltrasonicDtc × Nat) :
    later us (later vs p) = later (vs + us) p := by
  rw [later, later, later, Nat.add_assoc]

/-! ## Functions that do not wait -/

section Still

variable (s : BodyControlState)

@[simp] theorem codeTime_applyOutputs : codeTime (BodyControl.applyOutputs s) = codeTime s := rfl

@[simp] theorem codeTime_writeBuzzerPin (on : Bool) :
    codeTime (BodyControl.writeBuzzerPin on s) = codeTime s := rfl

@[simp] theorem codeTime_buzzerOff : codeTime (BodyControl.buzzerOff s) = codeTime s := rfl

@[simp] theorem codeTime_writeAllLamps (on : Bool) :
    codeTime (BodyControl.writeAllLamps on s) = codeTime s := rfl

@[simp] theorem codeTime_dangerLed :
    codeTime (BodyControl.updateDiagDangerLed s) = codeTime s := rfl

@[simp] theorem codeTime_latchFault :
    codeTime (BodyControl.latchUltrasonicFault s) = codeTime s := rfl

@[simp] theorem codeTime_syncFaultMask :
    codeTime (BodyControl.syncUltrasonicDtcFaultMask s) = codeTime s := rfl

@[simp] theorem codeTime_startBlink :
    codeTime (BodyControl.startDiagDangerLedBlink s) = codeTime s := rfl

@[simp] theorem codeTime_setTurnSignal (turnMode : UInt8) :
    codeTime (BodyControl.setTurnSignal turnMode s) = codeTime s := by
  rw [BodyControl.setTurnSignal]
  repeat' split
  all_goals rfl

@[simp] theorem codeTime_setHorn (on : Bool) :
    codeTime (BodyControl.setHorn on s) = codeTime s := by
  rw [BodyControl.setHorn]
  split <;> rfl

@[simp] theorem codeTime_silenceWarning : codeTime (BodyControl.silenceWarning s) = codeTime s := by
  rw [BodyControl.silenceWarning]
  split <;> rfl

@[simp] theorem codeTime_setWarningLamp (on : Bool) :
    codeTime (BodyControl.setCollisionWarningLamp on s) = codeTime s := by
  simp only [BodyControl.setCollisionWarningLamp]
  split
  · rfl
  · exact codeTime_silenceWarning _

@[simp] theorem codeTime_updateHorn1ms : codeTime (BodyControl.updateHorn1ms s) = codeTime s := by
  rw [BodyControl.updateHorn1ms]
  split
  · rfl
  · split <;> rfl

@[simp] theorem codeTime_updateWarningSound :
    codeTime (BodyControl.updateCollisionWarningSound1ms s) = codeTime s := by
  simp only [BodyControl.updateCollisionWarningSound1ms]
  split
  · exact codeTime_silenceWarning _
  · split
    · rfl
    · simp only [BodyControl.writeBuzzerIf]
      split <;> rfl

@[simp] theorem codeTime_updateDangerBlink :
    codeTime (BodyControl.updateDiagDangerLedBlink1ms s) = codeTime s := by
  rw [BodyControl.updateDiagDangerLedBlink1ms]
  split
  · rfl
  · split
    · rfl
    · split <;> rfl

@[simp] theorem codeTime_updateBlink : codeTime (BodyControl.updateBlink s) = codeTime s := by
  rw [BodyControl.updateBlink]
  split
  · rfl
  · split <;> rfl

/-- A command is applied without waiting. -/
theorem codeTime_applyBodyCommand (inp : BodyInputs) (c : BodyCommand) (b : Body) :
    codeTime (bodyCanApplyBodyCommand inp c b).control = codeTime b.control := by
  rw [bodyCanApplyBodyCommand]
  split
  · rfl
  · simp only [codeTime_setWarningLamp, codeTime_setHorn, BodyControl.setBrakeLamp,
      BodyControl.setHeadlamp, codeTime_applyOutputs]
    exact codeTime_setTurnSignal _ _

end Still

/-! ## Waits -/

section Waits

variable (s : BodyControlState)

@[simp] theorem codeTime_delayUs (us : Nat) :
    codeTime (BodyControl.delayUs us s) = later us (codeTime s) := rfl

@[simp] theorem codeTime_delayMs (ms : Nat) :
    codeTime (BodyControl.delayMs ms s) = later (1000 * ms) (codeTime s) := rfl

/-- The time a tone takes. -/
def toneUs (freqHz durationMs : Nat) : Nat :=
  if freqHz = 0 then 1000 * durationMs
  else BodyControl.playToneUs (if 500000 / freqHz = 0 then 1 else 500000 / freqHz)
    (durationMs * 1000) (durationMs * 1000) 0

theorem codeTime_playTone (freqHz durationMs : Nat) :
    codeTime (BodyControl.playToneForMs freqHz durationMs s) =
      later (toneUs freqHz durationMs) (codeTime s) := by
  rw [BodyControl.playToneForMs, toneUs]
  split <;> rfl

/-- A tone lasts at least as long as it should. -/
theorem le_playToneUs {halfPeriodUs durationUs fuel elapsedUs : Nat} (hhalf : 1 ≤ halfPeriodUs)
    (hfuel : durationUs ≤ elapsedUs + fuel) :
    durationUs ≤ BodyControl.playToneUs halfPeriodUs durationUs fuel elapsedUs := by
  induction fuel generalizing elapsedUs with
  | zero => exact hfuel
  | succ fuel ih =>
      rw [BodyControl.playToneUs]
      split
      · exact ih (by omega)
      · omega

theorem le_toneUs (freqHz durationMs : Nat) : 1000 * durationMs ≤ toneUs freqHz durationMs := by
  rw [toneUs]
  split
  · exact Nat.le_refl _
  · rw [Nat.mul_comm]
    refine le_playToneUs ?_ (Nat.le_add_left _ _)
    split
    · exact Nat.le_refl 1
    · rename_i hne
      exact Nat.one_le_iff_ne_zero.mpr hne

/-- One slice of the horn: what is left, but at most 35 ms. -/
theorem hornSlices_step {hold fuel elapsed : Nat} (hlt : elapsed < hold) (freqHz otherHz : Nat) :
    BodyControl.hornSlices hold (fuel + 1) freqHz otherHz elapsed s =
      BodyControl.hornSlices hold fuel otherHz freqHz (elapsed + min 35 (hold - elapsed))
        (BodyControl.playToneForMs freqHz (min 35 (hold - elapsed)) s) := by
  have hslice : (if hold < elapsed + 35 then hold - elapsed else 35) = min 35 (hold - elapsed) := by
    split <;> omega
  rw [BodyControl.hornSlices, if_pos hlt, ← hslice]

/-- The time the slices take. -/
def slicesUs (hold : Nat) : Nat → Nat → Nat → Nat → Nat
  | 0, _, _, _ => 0
  | fuel + 1, freqHz, otherHz, elapsed =>
      if elapsed < hold then
        toneUs freqHz (min 35 (hold - elapsed)) +
          slicesUs hold fuel otherHz freqHz (elapsed + min 35 (hold - elapsed))
      else 0

theorem codeTime_hornSlices (hold fuel freqHz otherHz elapsed : Nat) :
    codeTime (BodyControl.hornSlices hold fuel freqHz otherHz elapsed s) =
      later (slicesUs hold fuel freqHz otherHz elapsed) (codeTime s) := by
  induction fuel generalizing freqHz otherHz elapsed s with
  | zero => rfl
  | succ fuel ih =>
      rw [slicesUs]
      split
      · rename_i hlt
        rw [hornSlices_step s hlt, ih, codeTime_playTone, later_later]
      · rename_i hge
        rw [BodyControl.hornSlices, if_neg hge]
        rfl

/-- The horn plays at least as long as it should. -/
theorem le_slicesUs {hold fuel elapsed : Nat} (hfuel : hold ≤ elapsed + fuel)
    (freqHz otherHz : Nat) :
    1000 * (hold - elapsed) ≤ slicesUs hold fuel freqHz otherHz elapsed := by
  induction fuel generalizing freqHz otherHz elapsed with
  | zero =>
      rw [slicesUs]
      omega
  | succ fuel ih =>
      rw [slicesUs]
      split
      · have htone := le_toneUs freqHz (min 35 (hold - elapsed))
        have hrest : 1000 * (hold - (elapsed + min 35 (hold - elapsed))) ≤
            slicesUs hold fuel otherHz freqHz (elapsed + min 35 (hold - elapsed)) :=
          ih (by omega) otherHz freqHz
        omega
      · omega

/-- **The buzzer test** waits for half a second or more. -/
def buzzerUs : Nat := toneUs 520 80 + slicesUs 500 500 390 430 80

theorem codeTime_runBuzzer :
    codeTime (BodyControl.runBuzzerDiagnosticRoutine s) = later buzzerUs (codeTime s) := by
  show codeTime (BodyControl.hornForMs 500 s) = _
  rw [BodyControl.hornForMs, if_pos (by decide), codeTime_buzzerOff, codeTime_hornSlices,
    codeTime_playTone, later_later]
  rfl

theorem le_buzzerUs : 500000 ≤ buzzerUs := by
  have htone := le_toneUs 520 80
  have hslices : 1000 * (500 - 80) ≤ slicesUs 500 500 390 430 80 := le_slicesUs (by omega) 390 430
  rw [buzzerUs]
  omega

/-- **The LED test** waits for a second. -/
theorem codeTime_runLed :
    codeTime (BodyControl.runLedDiagnosticRoutine s) = later 1000000 (codeTime s) := rfl

/-- The time a measurement takes. -/
def echoUs (echo : UltrasonicEcho) (timeoutUs : Nat) : Nat :=
  (BodyControl.measureUltrasonicDistanceCmWithTimeout echo timeoutUs).2

/-- The measurement fails. -/
def echoFails (echo : UltrasonicEcho) (timeoutUs : Nat) : Bool :=
  (BodyControl.measureUltrasonicDistanceCmWithTimeout echo timeoutUs).1.isNone

theorem codeTime_runUltrasonic (echo : UltrasonicEcho) :
    codeTime (BodyControl.runUltrasonicDiagnosticRoutine echo s).2 =
      later (echoUs echo BodyControl.ultrasonicDiagEchoTimeoutUs) (codeTime s) := by
  simp only [BodyControl.runUltrasonicDiagnosticRoutine]
  split <;> rfl

theorem runUltrasonic_failed (echo : UltrasonicEcho) :
    (!(BodyControl.runUltrasonicDiagnosticRoutine echo s).1.1) =
      echoFails echo BodyControl.ultrasonicDiagEchoTimeoutUs := by
  simp only [BodyControl.runUltrasonicDiagnosticRoutine, echoFails]
  split <;> rename_i h <;> rw [h] <;> rfl

end Waits

/-! ## The 1 ms update -/

/-- The update makes its periodic measurement, the check of the trouble code. -/
def Measures (s : BodyControlState) : Prop :=
  s.requests.collisionWarningLampOn = true ∧
    BodyControl.ultrasonicMeasurePeriodMs ≤ s.ultrasonic.measureTimerMs

def Checks (d : UltrasonicDtc) : Prop := BodyControl.dtcCheckPeriodMs ≤ d.checkTimerMs

instance (s : BodyControlState) : Decidable (Measures s) := by unfold Measures; infer_instance
instance (d : UltrasonicDtc) : Decidable (Checks d) := by unfold Checks; infer_instance

/-- What an update waits for its two measurements. -/
def periodicUs (inp : BodyInputs) (s : BodyControlState) : Nat :=
  if Measures s then echoUs inp.periodicEcho BodyControl.ultrasonicEchoTimeoutUs else 0

def checkUs (inp : BodyInputs) (d : UltrasonicDtc) : Nat :=
  if Checks d then echoUs inp.dtcEcho BodyControl.ultrasonicDiagEchoTimeoutUs else 0

/-- The trouble code after an update. -/
def checkedDtc (inp : BodyInputs) (d : UltrasonicDtc) : UltrasonicDtc :=
  if Checks d then
    BodyControl.countUltrasonicDtc
      (echoFails inp.dtcEcho BodyControl.ultrasonicDiagEchoTimeoutUs) { d with checkTimerMs := 0 }
  else { d with checkTimerMs := d.checkTimerMs + 1 }

section Update

variable (inp : BodyInputs) (s : BodyControlState)

theorem codeTime_updateUltrasonic :
    codeTime (BodyControl.updateUltrasonic1ms inp s) = later (periodicUs inp s) (codeTime s) := by
  rw [periodicUs]
  by_cases hlamp : s.requests.collisionWarningLampOn = true
  · simp only [BodyControl.updateUltrasonic1ms]
    rw [if_neg (by simp [hlamp])]
    by_cases hdue : s.ultrasonic.measureTimerMs < BodyControl.ultrasonicMeasurePeriodMs
    · have hno : ¬ Measures s := fun h => absurd h.2 (by omega)
      rw [if_pos hdue, if_neg hno]
      rfl
    · have hyes : Measures s := ⟨hlamp, Nat.not_lt.mp hdue⟩
      rw [if_neg hdue, if_pos hyes]
      simp only [BodyControl.measurePeriodic]
      split <;> rfl
  · have hno : ¬ Measures s := fun h => hlamp h.1
    simp only [BodyControl.updateUltrasonic1ms]
    rw [if_pos (by simpa using hlamp), if_neg hno]
    rfl

theorem codeTime_updateUltrasonicDtc (failed : Bool) :
    codeTime (BodyControl.updateUltrasonicDtcStatus failed s) =
      (BodyControl.countUltrasonicDtc failed s.dtc, s.stmUs) := by
  simp only [BodyControl.updateUltrasonicDtcStatus]
  split
  · rw [codeTime_syncFaultMask, codeTime_startBlink]
    rfl
  · rw [codeTime_syncFaultMask]
    rfl

theorem codeTime_updateDtc :
    codeTime (BodyControl.updateDtcStatus1ms inp s) =
      later (checkUs inp s.dtc) (checkedDtc inp s.dtc, s.stmUs) := by
  simp only [BodyControl.updateDtcStatus1ms, checkUs, checkedDtc]
  by_cases hdue : s.dtc.checkTimerMs < BodyControl.dtcCheckPeriodMs
  · have hno : ¬ Checks s.dtc := fun h => absurd h (by rw [Checks]; omega)
    rw [if_pos hdue, if_neg hno, if_neg hno]
    rfl
  · have hyes : Checks s.dtc := Nat.not_lt.mp hdue
    rw [if_neg hdue, if_pos hyes, if_pos hyes, codeTime_updateUltrasonicDtc, runUltrasonic_failed]
    have hroutine :=
      codeTime_runUltrasonic { s with dtc := { s.dtc with checkTimerMs := 0 } } inp.dtcEcho
    have hdtc := congrArg Prod.fst hroutine
    have htime := congrArg Prod.snd hroutine
    simp only [codeTime, later] at hdtc htime
    rw [hdtc, htime]
    rfl

/-- **The 1 ms update** waits for its measurements and checks the trouble code. -/
theorem codeTime_update1ms :
    codeTime (BodyControl.update1ms inp s) =
      later (periodicUs inp s + checkUs inp s.dtc) (checkedDtc inp s.dtc, s.stmUs) := by
  have hdiagnosis : ∀ t, codeTime (BodyControl.updateDiagnosis1ms inp t) = codeTime t :=
    fun _ => rfl
  have hultra := codeTime_updateUltrasonic inp
    { s with button := BodyControl.updateCollisionButton1ms inp.buttonHigh s.button }
  have hbutton : periodicUs inp
      { s with button := BodyControl.updateCollisionButton1ms inp.buttonHigh s.button } =
      periodicUs inp s := rfl
  simp only [BodyControl.update1ms, hdiagnosis, codeTime_updateBlink, codeTime_updateDangerBlink,
    codeTime_updateDtc]
  have hsound := (codeTime_updateWarningSound (BodyControl.updateHorn1ms
    (BodyControl.updateUltrasonic1ms inp { s with
      button := BodyControl.updateCollisionButton1ms inp.buttonHigh s.button }))).trans
    ((codeTime_updateHorn1ms _).trans hultra)
  have hdtc := congrArg Prod.fst hsound
  have htime := congrArg Prod.snd hsound
  simp only [codeTime, later] at hdtc htime
  rw [hdtc, htime, hbutton]
  exact later_later (checkUs inp s.dtc) (periodicUs inp s) (checkedDtc inp s.dtc, s.stmUs)

end Update

/-! ## Requests -/

/-- The trouble code after a request. -/
def servedDtc (req : List UInt8) (d : UltrasonicDtc) : UltrasonicDtc :=
  if ClearsDtc req then
    { d with status := d.status &&& ~~~ BodyControl.dtcStatusHistoryBit, consecutiveFailCount := 0 }
  else d

/-- What a request waits for. -/
def servedUs (inp : BodyInputs) (req : List UInt8) : Nat :=
  if ReadsDistance req ∨ routineOf 0x7F req = some udsRidUltrasonicTest then
    echoUs inp.requestEcho BodyControl.ultrasonicDiagEchoTimeoutUs
  else if routineOf 0x7F req = some udsRidBuzzerTest then buzzerUs
  else if routineOf 0x7F req = some udsRidLedAllTest then 1000000
  else 0

/-- A clear request is no other one. -/
theorem clears_only {req : List UInt8} (h : ClearsDtc req) :
    ¬ ReadsDistance req ∧ routineOf 0x7F req = none := by
  have hsid : req.getD 0 0 = 0x14 := h.2.1
  exact ⟨not_readsDistance_sid (by rw [hsid]; decide), routineOf_sid (by rw [hsid]; decide)⟩

/-- **A served request** clears the trouble code, or waits for what it asks for. -/
theorem codeTime_served (inp : BodyInputs) (req : List UInt8) (c : BodyControlState) :
    codeTime (bodyControlServed inp req c) =
      later (servedUs inp req) (servedDtc req c.dtc, c.stmUs) := by
  rw [bodyControlServed, servedUs, servedDtc]
  by_cases hclear : ClearsDtc req
  · obtain ⟨hread, hroutine⟩ := clears_only hclear
    rw [if_pos hclear, if_pos hclear, hroutine, BodyControl.clearDtcHistory, codeTime_syncFaultMask,
      if_neg (by simp [hread]), if_neg (by simp), if_neg (by simp)]
    rfl
  · rw [if_neg hclear, if_neg hclear]
    by_cases hultra : ReadsDistance req ∨ routineOf 0x7F req = some udsRidUltrasonicTest
    · rw [if_pos hultra, if_pos hultra]
      exact codeTime_runUltrasonic c inp.requestEcho
    · rw [if_neg hultra, if_neg hultra]
      by_cases hbuzzer : routineOf 0x7F req = some udsRidBuzzerTest
      · rw [if_pos hbuzzer, if_pos hbuzzer]
        exact codeTime_runBuzzer c
      · rw [if_neg hbuzzer, if_neg hbuzzer]
        by_cases hled : routineOf 0x7F req = some udsRidLedAllTest
        · rw [if_pos hled, if_pos hled]
          exact codeTime_runLed c
        · rw [if_neg hled, if_neg hled]
          rfl

/-- What the waiting request, if any, does to the trouble code and how long it waits. -/
def waitingDtc (c : BodyCanState) (d : UltrasonicDtc) : UltrasonicDtc :=
  (bodyWaiting c).foldl (fun d req => servedDtc req d) d

def waitingUs (inp : BodyInputs) (c : BodyCanState) : Nat :=
  ((bodyWaiting c).map (servedUs inp)).sum

section CanUpdate

variable (inp : BodyInputs) (s : Body)

theorem codeTime_prepared : codeTime (bodyPrepared inp s).control = codeTime s.control := by
  have htimeout : ∀ t : Body, codeTime (checkTimeout inp t).control = codeTime t.control := by
    intro t
    rw [checkTimeout]
    split <;> rfl
  rw [bodyPrepared, applyUpdated]
  split
  · exact (codeTime_applyBodyCommand inp _ _).trans (htimeout _)
  · exact htimeout _

theorem sendRawFrame_control (busy : Bool) (messageId dlc : Nat) (txByte : List UInt8) (t : Body) :
    (sendRawFrame busy messageId dlc txByte t).2.control = t.control := by
  rw [sendRawFrame]
  split <;> rfl

theorem sendUdsPayload_control (busy : Bool) (payload : List UInt8) (t : Body) :
    (sendUdsPayload busy payload t).control = t.control := by
  rw [sendUdsPayload]
  split
  · rfl
  · exact sendRawFrame_control _ _ _ _ t

theorem sendCollision_control (busy : Bool) (t : Body) :
    (bodyCanSendPendingCollisionEventIfNeeded busy t).control = t.control := by
  have hsend : ∀ time, (bodyCanSendCollisionEvent busy time t).control = t.control := by
    intro time
    simp only [bodyCanSendCollisionEvent]
    split
    · exact sendRawFrame_control _ _ _ _ t
    · exact sendRawFrame_control _ _ _ _ t
  simp only [bodyCanSendPendingCollisionEventIfNeeded]
  split
  · rfl
  · split
    · exact hsend _
    · exact hsend _

theorem sendHeartbeat_control (busy : Bool) (t : Body) :
    (bodyCanSendHeartbeatIfNeeded busy t).control = t.control := by
  simp only [bodyCanSendHeartbeatIfNeeded]
  split
  · rfl
  · simp only [bodyCanSendHeartbeat]
    split
    · exact sendRawFrame_control busy _ _ _ _
    · exact sendRawFrame_control busy _ _ _ _

/-- The waiting request is served in the prepared state. -/
theorem codeTime_processUds (t : Body) :
    codeTime (processUdsRequestIfNeeded inp t).control =
      later (waitingUs inp t.can) (waitingDtc t.can t.control.dtc, t.control.stmUs) := by
  rcases processUds_eq inp t with ⟨hnone, -, hcontrol⟩ | ⟨req, hreq, heq⟩
  · rw [hcontrol, waitingUs, waitingDtc, hnone]
    rfl
  · obtain ⟨resp, -, -, -, hserve⟩ := bodyServe_eq inp req (bodyTaken t)
    rw [heq, hserve, sendUdsPayload_control, waitingUs, waitingDtc, hreq]
    exact codeTime_served inp req t.control

/-- **`BodyCan_Update1ms`** serves the waiting request. -/
theorem codeTime_canUpdate :
    codeTime (bodyCanUpdate1ms inp s).control =
      later (waitingUs inp s.can) (waitingDtc s.can s.control.dtc, s.control.stmUs) := by
  have hprepared := codeTime_prepared inp s
  have hdtc : (bodyPrepared inp s).control.dtc = s.control.dtc := congrArg Prod.fst hprepared
  have htime : (bodyPrepared inp s).control.stmUs = s.control.stmUs := congrArg Prod.snd hprepared
  obtain ⟨-, -, -, hwaiting⟩ := bodyPrepared_kept inp s
  have hupdate : (bodyCanUpdate1ms inp s).control =
      (processUdsRequestIfNeeded inp (bodyPrepared inp s)).control :=
    (sendHeartbeat_control inp.heartbeatTxBusy _).trans
      (sendCollision_control inp.collisionTxBusy _)
  rw [hupdate, codeTime_processUds, waitingUs, waitingDtc, hwaiting, hdtc, htime]
  rfl

end CanUpdate

end BodyFrame
