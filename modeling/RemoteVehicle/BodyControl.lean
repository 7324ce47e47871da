import RemoteVehicle.BodyState

/-!
# BODY outputs — `BodyControl.c`

Lamps, blinkers, buzzer and ultrasonic sensor.  Commands set request flags; the outputs
follow the flags at once (lamps) or in the 1 ms update (blinking, horn, warning sound).
The diagnostic routines drive pins and the sensor directly and leave the request flags
alone.
-/

namespace BodyControl

open BodyState

/-! ## Constants -/

/-- `BODY_BLINK_HALF_PERIOD_MS`. -/
def blinkHalfPeriodMs : Nat := 500

/-- `BODY_COLLISION_WARNING_STAGE*_CM`, `BODY_COLLISION_WARNING_HYSTERESIS_CM`. -/
def collisionWarningStage1Cm : Nat := 30
def collisionWarningStage2Cm : Nat := 20
def collisionWarningStage3Cm : Nat := 10
def collisionWarningHysteresisCm : Nat := 5

/-- `BODY_COLLISION_WARNING_BEEP_ON_MS` and the cycle times. -/
def collisionWarningBeepOnMs : Nat := 120
def collisionWarningStage1CycleMs : Nat := 500
def collisionWarningStage2CycleMs : Nat := 250
def collisionWarningToneHalfMs : Nat := 1

/-- `BODY_ULTRASONIC_*`. -/
def ultrasonicMeasurePeriodMs : Nat := 60
def ultrasonicValidHoldMs : Nat := 300
def ultrasonicEchoTimeoutUs : Nat := 3000
def ultrasonicDiagEchoTimeoutUs : Nat := 50000
def ultrasonicEchoIdleTimeoutUs : Nat := 300
def ultrasonicNoObjectCm : Nat := 400

/-- `BODY_DTC_*`. -/
def dtcCheckPeriodMs : Nat := 3000
def dtcConfirmFailCount : Nat := 3
def dtcStatusCurrentBit : UInt8 := 0x01
def dtcStatusHistoryBit : UInt8 := 0x08

/-- `BODY_DIAG_DANGER_BLINK_*`. -/
def diagDangerBlinkHalfPeriodMs : Nat := 250
def diagDangerBlinkCycles : Nat := 3

/-- `BODY_DIAG_*_BIT`. -/
def diagBrakeLampBit : UInt8 := 0x01
def diagHeadlampBit : UInt8 := 0x02
def diagLeftTurnBit : UInt8 := 0x04
def diagRightTurnBit : UInt8 := 0x08
def diagUltrasonicBit : UInt8 := 0x10

/-- `BODY_DIAG_STEADY_CONFIRM_MS`, `BODY_DIAG_BLINK_CONFIRM_MS`,
    `BODY_DIAG_STARTUP_SELF_TEST_MS`. -/
def diagSteadyConfirmMs : Nat := 100
def diagBlinkConfirmMs : Nat := 1200
def diagStartupSelfTestMs : Nat := 1000

/-- `BODY_COLLISION_BUTTON_DEBOUNCE_MS`. -/
def collisionButtonDebounceMs : Nat := 20

/-- `BODY_CONTROL_TURN_*`. -/
def turnLeft : UInt8 := 1
def turnRight : UInt8 := 2
def turnHazard : UInt8 := 3

/-! ## Waits and pins -/

/-- `BodyControl_DelayUs`. -/
def delayUs (us : Nat) (s : BodyControlState) : BodyControlState :=
  { s with stmUs := s.stmUs + us }

/-- `BodyControl_DelayMs`. -/
def delayMs (ms : Nat) (s : BodyControlState) : BodyControlState := delayUs (1000 * ms) s

/-- `BodyControl_WriteBuzzerPin`. -/
def writeBuzzerPin (on : Bool) (s : BodyControlState) : BodyControlState :=
  { s with pins := { s.pins with buzzer := on } }

/-- `BodyControl_BuzzerOff`. -/
def buzzerOff (s : BodyControlState) : BodyControlState := writeBuzzerPin false s

/-- `BodyControl_ApplyOutputs`.  The source first computes other turn outputs for an active
    collision warning and then overwrites them. -/
def applyOutputs (s : BodyControlState) : BodyControlState :=
  { s with pins := { s.pins with
      headlamp := s.requests.headlampOn
      brakeLamp := s.requests.brakeLampOn
      leftTurn := s.requests.leftTurnEnabled && s.blink.outputOn
      rightTurn := s.requests.rightTurnEnabled && s.blink.outputOn } }

/-! ## Collision button -/

/-- A new stable state; a press is an event. -/
def setStablePressed (rawPressed : Bool) (b : CollisionButton) : CollisionButton :=
  if rawPressed then
    { b with
      stablePressed := rawPressed
      eventPending := true
      pressedEventCount := b.pressedEventCount + 1 }
  else { b with stablePressed := rawPressed }

/-- `BodyControl_UpdateCollisionButton1ms`. -/
def updateCollisionButton1ms (rawPressed : Bool) (b : CollisionButton) : CollisionButton :=
  if rawPressed ≠ b.lastRawPressed then
    { b with lastRawPressed := rawPressed, debounceTimerMs := 0 }
  else if b.debounceTimerMs < collisionButtonDebounceMs then
    { b with debounceTimerMs := b.debounceTimerMs + 1 }
  else if rawPressed ≠ b.stablePressed then setStablePressed rawPressed b
  else b

/-- `BodyControl_ConsumeCollisionButtonPressedEvent`: whether there was an event. -/
def consumeCollisionButtonPressedEvent (s : BodyControlState) : Bool × BodyControlState :=
  if s.button.eventPending = false then (false, s)
  else (true, { s with button := { s.button with eventPending := false } })

/-! ## Ultrasonic sensor -/

/-- A wait for a level that is there after `afterUs`: the time waited, unless it is too
    late (`BodyControl_WaitUltrasonicEchoState` returns FALSE). -/
def waitUltrasonicEchoState (afterUs timeoutUs : Nat) : Option Nat :=
  if afterUs ≤ timeoutUs then some afterUs else none

/-- `BodyControl_MeasureUltrasonicDistanceCmWithTimeout`: the distance and the time the
    call takes, the trigger pulse of 2 and 10 us included. -/
def measureUltrasonicDistanceCmWithTimeout (echo : UltrasonicEcho) (echoTimeoutUs : Nat) :
    Option Nat × Nat :=
  match waitUltrasonicEchoState echo.idleAfterUs ultrasonicEchoIdleTimeoutUs with
  | none => (none, ultrasonicEchoIdleTimeoutUs)
  | some idleUs =>
      match waitUltrasonicEchoState echo.riseAfterUs echoTimeoutUs with
      | none => (none, idleUs + 12 + echoTimeoutUs)
      | some riseUs =>
          match waitUltrasonicEchoState echo.pulseUs echoTimeoutUs with
          | none => (none, idleUs + 12 + riseUs + echoTimeoutUs)
          | some pulseUs =>
              (some (min (pulseUs / 58) ultrasonicNoObjectCm), idleUs + 12 + riseUs + pulseUs)

/-- The warning levels are the numerals of `Fin 4`. -/
scoped instance neZero_levels : NeZero 4 := ⟨by decide⟩

/-- `BodyControl_ComputeCollisionWarningLevel`: a level is entered 5 cm below its stage and
    left 5 cm above it. -/
def computeCollisionWarningLevel (level : Fin 4) (distanceCm : Nat) (distanceValid : Bool) :
    Fin 4 :=
  let enterStage1Cm := collisionWarningStage1Cm - collisionWarningHysteresisCm
  let enterStage2Cm := collisionWarningStage2Cm - collisionWarningHysteresisCm
  let enterStage3Cm := collisionWarningStage3Cm - collisionWarningHysteresisCm
  let exitStage0Cm := collisionWarningStage1Cm + collisionWarningHysteresisCm
  let exitStage1Cm := collisionWarningStage2Cm + collisionWarningHysteresisCm
  let exitStage2Cm := collisionWarningStage3Cm + collisionWarningHysteresisCm
  if distanceValid = false then 0
  else match level with
    | 0 =>
        if distanceCm ≤ enterStage3Cm then 3
        else if distanceCm ≤ enterStage2Cm then 2
        else if distanceCm ≤ enterStage1Cm then 1
        else 0
    | 1 =>
        if distanceCm ≤ enterStage3Cm then 3
        else if distanceCm ≤ enterStage2Cm then 2
        else if exitStage0Cm ≤ distanceCm then 0
        else 1
    | 2 =>
        if distanceCm ≤ enterStage3Cm then 3
        else if exitStage0Cm ≤ distanceCm then 0
        else if exitStage1Cm ≤ distanceCm then 1
        else 2
    | 3 =>
        if exitStage0Cm ≤ distanceCm then 0
        else if exitStage1Cm ≤ distanceCm then 1
        else if exitStage2Cm ≤ distanceCm then 2
        else 3

/-- What `BodyControl_ResetCollisionWarningSound` leaves. -/
def resetCollisionWarningSound : WarningSound := ⟨0, 0, false, 0, 0⟩

/-- No distance, no measurement under way. -/
def forgetUltrasonicDistance : Ultrasonic := ⟨ultrasonicNoObjectCm, false, 0, 0⟩

/-! ## Danger indicator -/

/-- `BodyControl_IsDiagDangerLedSteadyOn`. -/
def isDiagDangerLedSteadyOn (s : BodyControlState) : Bool :=
  s.diag.faultMask &&& ~~~ diagUltrasonicBit != 0 ||
    s.dtc.status &&& dtcStatusCurrentBit != 0

/-- `BodyControl_UpdateDiagDangerLed`. -/
def updateDiagDangerLed (s : BodyControlState) : BodyControlState :=
  { s with pins := { s.pins with dangerLed :=
      if s.danger.active then s.pins.dangerLed else isDiagDangerLedSteadyOn s } }

/-- `BodyControl_StartDiagDangerLedBlink`. -/
def startDiagDangerLedBlink (s : BodyControlState) : BodyControlState :=
  { s with danger := ⟨true, true, 0, 0⟩, pins := { s.pins with dangerLed := true } }

/-- `BodyControl_UpdateDiagDangerLedBlink1ms`. -/
def updateDiagDangerLedBlink1ms (s : BodyControlState) : BodyControlState :=
  if s.danger.active = false then s
  else if s.danger.timerMs < diagDangerBlinkHalfPeriodMs then
    { s with danger := { s.danger with timerMs := s.danger.timerMs + 1 } }
  else if diagDangerBlinkCycles * 2 ≤ s.danger.toggleCount + 1 then
    updateDiagDangerLed { s with danger := ⟨false, false, 0, 0⟩ }
  else
    { s with
      danger := ⟨true, !s.danger.outputOn, s.danger.toggleCount + 1, 0⟩
      pins := { s.pins with dangerLed := !s.danger.outputOn } }

/-- An ultrasonic measurement failed. -/
def latchUltrasonicFault (s : BodyControlState) : BodyControlState :=
  updateDiagDangerLed
    { s with diag := { s.diag with faultMask := s.diag.faultMask ||| diagUltrasonicBit } }

/-! ## Commands -/

/-- `BodyControl_SetHeadlamp`. -/
def setHeadlamp (on : Bool) (s : BodyControlState) : BodyControlState :=
  applyOutputs { s with requests := { s.requests with headlampOn := on } }

/-- `BodyControl_SetBrakeLamp`. -/
def setBrakeLamp (on : Bool) (s : BodyControlState) : BodyControlState :=
  applyOutputs { s with requests := { s.requests with brakeLampOn := on } }

/-- The blink phase after a blink request: a change restarts it. -/
def blinkAfterRequest (r : Requests) (leftOn rightOn : Bool) (b : Blink) : Blink :=
  let oldRequested := r.leftTurnEnabled || r.rightTurnEnabled
  let requestChanged := r.leftTurnEnabled != leftOn || r.rightTurnEnabled != rightOn
  if (leftOn || rightOn) = false then ⟨false, 0⟩
  else if oldRequested = false ∨ requestChanged = true then ⟨true, 0⟩
  else b

/-- `BodyControl_SetBlinkRequest`. -/
def setBlinkRequest (leftOn rightOn : Bool) (s : BodyControlState) : BodyControlState :=
  applyOutputs { s with
    requests := { s.requests with leftTurnEnabled := leftOn, rightTurnEnabled := rightOn }
    blink := blinkAfterRequest s.requests leftOn rightOn s.blink }

/-- `BodyControl_SetTurnSignal`. -/
def setTurnSignal (turnMode : UInt8) (s : BodyControlState) : BodyControlState :=
  if turnMode = turnLeft then setBlinkRequest true false s
  else if turnMode = turnRight then setBlinkRequest false true s
  else if turnMode = turnHazard then setBlinkRequest true true s
  else setBlinkRequest false false s

/-- `BodyControl_SetLeftTurn`. -/
def setLeftTurn (on : Bool) (s : BodyControlState) : BodyControlState :=
  setBlinkRequest on s.requests.rightTurnEnabled s

/-- `BodyControl_SetRightTurn`. -/
def setRightTurn (on : Bool) (s : BodyControlState) : BodyControlState :=
  setBlinkRequest s.requests.leftTurnEnabled on s

/-- The buzzer goes off unless the horn has it. -/
def silenceWarning (s : BodyControlState) : BodyControlState :=
  if s.requests.hornEnabled = false then buzzerOff s else s

/-- `BodyControl_SetCollisionWarningLamp`: the first measurement follows at once. -/
def setCollisionWarningLamp (on : Bool) (s : BodyControlState) : BodyControlState :=
  let requests := { s.requests with collisionWarningLampOn := on }
  if on then
    { s with
      requests := requests
      ultrasonic := { s.ultrasonic with measureTimerMs :=
        if s.requests.collisionWarningLampOn = false then ultrasonicMeasurePeriodMs
        else s.ultrasonic.measureTimerMs } }
  else
    silenceWarning { s with
      requests := requests
      ultrasonic := forgetUltrasonicDistance
      sound := resetCollisionWarningSound }

/-- `BodyControl_SetHorn`. -/
def setHorn (on : Bool) (s : BodyControlState) : BodyControlState :=
  if on = false then
    buzzerOff { s with requests := { s.requests with hornEnabled := on }, horn := ⟨false, 0⟩ }
  else { s with requests := { s.requests with hornEnabled := on } }

/-- `BodyControl_ReadDiagFeedbackMaskRaw`. -/
def readDiagFeedbackMaskRaw (f : LampFeedback) : UInt8 :=
  (if f.brake then diagBrakeLampBit else 0) ||| (if f.head then diagHeadlampBit else 0) |||
    (if f.left then diagLeftTurnBit else 0) ||| (if f.right then diagRightTurnBit else 0)

/-- Nothing requested. -/
def noRequests : Requests := ⟨false, false, false, false, false, false⟩

/-- `BodyControl_AllOff`; faults and trouble code stay. -/
def allOff (inp : BodyInputs) (s : BodyControlState) : BodyControlState :=
  applyOutputs (buzzerOff (updateDiagDangerLed { s with
    requests := noRequests
    horn := ⟨false, 0⟩
    ultrasonic := forgetUltrasonicDistance
    sound := resetCollisionWarningSound
    blink := ⟨false, 0⟩
    diag := ⟨s.diag.faultMask, 0, readDiagFeedbackMaskRaw (inp.feedback s.pins), 0, 0, 0, 0⟩ }))

/-- `BodyControl_ClearDiagFaults`. -/
def clearDiagFaults (s : BodyControlState) : BodyControlState :=
  updateDiagDangerLed { s with
    diag := ⟨0, s.diag.commandMask, s.diag.feedbackMask, 0, 0, 0, 0⟩ }

/-! ## Trouble code -/

/-- `BodyControl_SyncUltrasonicDtcFaultMask`. -/
def syncUltrasonicDtcFaultMask (s : BodyControlState) : BodyControlState :=
  updateDiagDangerLed { s with diag := { s.diag with faultMask :=
    if s.dtc.status &&& dtcStatusCurrentBit ≠ 0 then s.diag.faultMask ||| diagUltrasonicBit
    else s.diag.faultMask &&& ~~~ diagUltrasonicBit } }

/-- The assignments of `BodyControl_UpdateUltrasonicDtcStatus` to status and fail counter. -/
def countUltrasonicDtc (failed : Bool) (d : UltrasonicDtc) : UltrasonicDtc :=
  if failed then
    let count := if d.consecutiveFailCount < dtcConfirmFailCount
      then d.consecutiveFailCount + 1 else d.consecutiveFailCount
    let status := d.status ||| dtcStatusCurrentBit
    { d with
      consecutiveFailCount := count
      status := if dtcConfirmFailCount ≤ count then status ||| dtcStatusHistoryBit else status }
  else
    { d with consecutiveFailCount := 0, status := d.status &&& ~~~ dtcStatusCurrentBit }

/-- `BodyControl_UpdateUltrasonicDtcStatus`: a new history bit starts the danger blink. -/
def updateUltrasonicDtcStatus (failed : Bool) (s : BodyControlState) : BodyControlState :=
  let dtc := countUltrasonicDtc failed s.dtc
  let t := { s with dtc := dtc }
  if s.dtc.status &&& dtcStatusHistoryBit = 0 ∧ dtc.status &&& dtcStatusHistoryBit ≠ 0 then
    syncUltrasonicDtcFaultMask (startDiagDangerLedBlink t)
  else syncUltrasonicDtcFaultMask t

/-- `BodyControl_ClearDtcHistory`. -/
def clearDtcHistory (s : BodyControlState) : BodyControlState :=
  syncUltrasonicDtcFaultMask { s with
    dtc := { s.dtc with
      status := s.dtc.status &&& ~~~ dtcStatusHistoryBit, consecutiveFailCount := 0 }
    danger := ⟨false, false, 0, 0⟩ }

/-! ## Diagnostic routines -/

/-- The loop of `BodyControl_PlayToneForMs`, at most `fuel` periods: the time it takes. -/
def playToneUs (halfPeriodUs durationUs : Nat) : Nat → Nat → Nat
  | 0, elapsedUs => elapsedUs
  | fuel + 1, elapsedUs =>
      if elapsedUs < durationUs then
        playToneUs halfPeriodUs durationUs fuel (elapsedUs + halfPeriodUs * 2)
      else elapsedUs

/-- `BodyControl_PlayToneForMs`: the buzzer is low again at its end. -/
def playToneForMs (freqHz durationMs : Nat) (s : BodyControlState) : BodyControlState :=
  if freqHz = 0 then delayMs durationMs (buzzerOff s)
  else
    let halfPeriodUs := if 500000 / freqHz = 0 then 1 else 500000 / freqHz
    let durationUs := durationMs * 1000
    buzzerOff (delayUs (playToneUs halfPeriodUs durationUs durationUs 0) s)

/-- The alternating tones of `BodyControl_HornForMs`, at most `fuel` slices. -/
def hornSlices (holdTimeMs : Nat) : Nat → Nat → Nat → Nat → BodyControlState → BodyControlState
  | 0, _, _, _, s => s
  | fuel + 1, freqHz, otherHz, elapsedMs, s =>
      if elapsedMs < holdTimeMs then
        let sliceMs := if holdTimeMs < elapsedMs + 35 then holdTimeMs - elapsedMs else 35
        hornSlices holdTimeMs fuel otherHz freqHz (elapsedMs + sliceMs)
          (playToneForMs freqHz sliceMs s)
      else s

/-- `BodyControl_HornForMs`. -/
def hornForMs (holdTimeMs : Nat) (s : BodyControlState) : BodyControlState :=
  if 80 < holdTimeMs then
    buzzerOff (hornSlices holdTimeMs holdTimeMs 390 430 80 (playToneForMs 520 80 s))
  else buzzerOff (hornSlices holdTimeMs holdTimeMs 390 430 0 s)

/-- `BodyControl_RunBuzzerDiagnosticRoutine`. -/
def runBuzzerDiagnosticRoutine (s : BodyControlState) : BodyControlState := hornForMs 500 s

/-- All four lamps driven directly. -/
def writeAllLamps (on : Bool) (s : BodyControlState) : BodyControlState :=
  { s with pins := { s.pins with
      headlamp := on, brakeLamp := on, leftTurn := on, rightTurn := on } }

/-- `BodyControl_RunLedDiagnosticRoutine`. -/
def runLedDiagnosticRoutine (s : BodyControlState) : BodyControlState :=
  applyOutputs (writeAllLamps false (delayMs 1000 (writeAllLamps true s)))

/-- `BodyControl_RunUltrasonicDiagnosticRoutine`: the distance in millimetres, 0xFFFF
    without an echo. -/
def runUltrasonicDiagnosticRoutine (echo : UltrasonicEcho) (s : BodyControlState) :
    (Bool × Nat) × BodyControlState :=
  let r := measureUltrasonicDistanceCmWithTimeout echo ultrasonicDiagEchoTimeoutUs
  match r.1 with
  | none =>
      ((false, 0xFFFF), latchUltrasonicFault (delayUs r.2 { s with ultrasonic :=
        { s.ultrasonic with distanceCm := ultrasonicNoObjectCm, distanceValid := false } }))
  | some distanceCm =>
      ((true, min (distanceCm * 10) 0xFFFF), delayUs r.2 { s with ultrasonic :=
        { s.ultrasonic with distanceCm := distanceCm, distanceValid := true } })

/-! ## The 1 ms update -/

/-- The sensor after the measurement of `BodyControl_UpdateUltrasonic1ms`; a valid distance
    survives failed measurements while its hold timer runs. -/
def ultrasonicAfter (distance : Option Nat) (u : Ultrasonic) : Ultrasonic :=
  match distance with
  | some distanceCm =>
      { u with
        distanceCm := distanceCm
        distanceValid := true
        validHoldTimerMs := ultrasonicValidHoldMs }
  | none =>
      if u.validHoldTimerMs = 0 then
        { u with distanceCm := ultrasonicNoObjectCm, distanceValid := false }
      else u

/-- The measuring branch of `BodyControl_UpdateUltrasonic1ms`. -/
def measurePeriodic (inp : BodyInputs) (u : Ultrasonic) (s : BodyControlState) :
    BodyControlState :=
  let r := measureUltrasonicDistanceCmWithTimeout inp.periodicEcho ultrasonicEchoTimeoutUs
  let u := ultrasonicAfter r.1 { u with measureTimerMs := 0 }
  let t := { s with
    ultrasonic := u
    sound := { s.sound with
      level := computeCollisionWarningLevel s.sound.level u.distanceCm u.distanceValid } }
  if r.1 = none then latchUltrasonicFault (delayUs r.2 t) else delayUs r.2 t

/-- `BodyControl_UpdateUltrasonic1ms`. -/
def updateUltrasonic1ms (inp : BodyInputs) (s : BodyControlState) : BodyControlState :=
  if s.requests.collisionWarningLampOn = false then
    { s with ultrasonic := forgetUltrasonicDistance, sound := resetCollisionWarningSound }
  else
    let u := { s.ultrasonic with validHoldTimerMs := s.ultrasonic.validHoldTimerMs - 1 }
    if u.measureTimerMs < ultrasonicMeasurePeriodMs then
      { s with ultrasonic := { u with measureTimerMs := u.measureTimerMs + 1 } }
    else measurePeriodic inp u s

/-- `BodyControl_UpdateHorn1ms`: toggles at every call while the horn is on. -/
def updateHorn1ms (s : BodyControlState) : BodyControlState :=
  if s.requests.hornEnabled = false then writeBuzzerPin false { s with horn := ⟨false, 0⟩ }
  else if 1 ≤ s.horn.timerMs + 1 then
    writeBuzzerPin (!s.horn.outputOn) { s with horn := ⟨!s.horn.outputOn, 0⟩ }
  else { s with horn := { s.horn with timerMs := s.horn.timerMs + 1 } }

/-- `BodyControl_IsCollisionWarningBeepActive`, which also restarts a finished cycle. -/
def isCollisionWarningBeepActive (w : WarningSound) : Bool × WarningSound :=
  if w.level = 0 then (false, w)
  else if w.level = 3 then (true, w)
  else
    let cycleMs := if w.level = 2 then collisionWarningStage2CycleMs
      else collisionWarningStage1CycleMs
    let patternTimerMs := if cycleMs ≤ w.patternTimerMs then 0 else w.patternTimerMs
    (decide (patternTimerMs < collisionWarningBeepOnMs),
      { w with patternTimerMs := patternTimerMs })

/-- One tick of the tone of an active beep: the new sound state and the buzzer level, if it
    is written. -/
def toggleWarningTone (w : WarningSound) : WarningSound × Option Bool :=
  if collisionWarningToneHalfMs ≤ w.toneTimerMs + 1 then
    ({ w with toneTimerMs := 0, toneOutputOn := !w.toneOutputOn }, some (!w.toneOutputOn))
  else ({ w with toneTimerMs := w.toneTimerMs + 1 }, none)

/-- The beep part of `BodyControl_UpdateCollisionWarningSound1ms`. -/
def updateWarningBeep (w : WarningSound) : WarningSound × Option Bool :=
  let r := isCollisionWarningBeepActive w
  if r.1 = false then
    ({ r.2 with
      toneOutputOn := false
      toneTimerMs := 0
      patternTimerMs := r.2.patternTimerMs + 1 }, some false)
  else
    let t := toggleWarningTone r.2
    if t.1.level ≠ 3 then ({ t.1 with patternTimerMs := t.1.patternTimerMs + 1 }, t.2) else t

/-- A level that differs from the last one starts its pattern anew. -/
def enterWarningLevel (w : WarningSound) : WarningSound :=
  if w.level ≠ w.lastLevel then ⟨w.level, w.level, false, 0, 0⟩ else w

/-- Write the buzzer pin if there is a level to write. -/
def writeBuzzerIf (level : Option Bool) (s : BodyControlState) : BodyControlState :=
  match level with
  | some on => writeBuzzerPin on s
  | none => s

/-- `BodyControl_UpdateCollisionWarningSound1ms`: the horn has the buzzer first. -/
def updateCollisionWarningSound1ms (s : BodyControlState) : BodyControlState :=
  if s.requests.collisionWarningLampOn = false ∨ s.sound.level = 0 then
    silenceWarning { s with sound := resetCollisionWarningSound }
  else if s.requests.hornEnabled then { s with sound := enterWarningLevel s.sound }
  else
    let r := updateWarningBeep (enterWarningLevel s.sound)
    writeBuzzerIf r.2 { s with sound := r.1 }

/-- `BodyControl_UpdateDtcStatus1ms`. -/
def updateDtcStatus1ms (inp : BodyInputs) (s : BodyControlState) : BodyControlState :=
  if s.dtc.checkTimerMs < dtcCheckPeriodMs then
    { s with dtc := { s.dtc with checkTimerMs := s.dtc.checkTimerMs + 1 } }
  else
    let r := runUltrasonicDiagnosticRoutine inp.dtcEcho
      { s with dtc := { s.dtc with checkTimerMs := 0 } }
    updateUltrasonicDtcStatus (!r.1.1) r.2

/-- `BodyControl_UpdateDiagOneSignal`: the low timer and whether the fault is latched. -/
def updateDiagOneSignal (commandOn feedbackOn : Bool) (confirmMs lowTimerMs : Nat) :
    Nat × Bool :=
  if commandOn = false ∨ feedbackOn = true then (0, false)
  else
    let lowTimerMs := if lowTimerMs < confirmMs then lowTimerMs + 1 else lowTimerMs
    (lowTimerMs, decide (confirmMs ≤ lowTimerMs))

/-- The bits of the lamps and the sensor that are requested. -/
def commandMask (r : Requests) : UInt8 :=
  (if r.brakeLampOn then diagBrakeLampBit else 0) |||
    (if r.headlampOn then diagHeadlampBit else 0) |||
    (if r.leftTurnEnabled then diagLeftTurnBit else 0) |||
    (if r.rightTurnEnabled then diagRightTurnBit else 0) |||
    (if r.collisionWarningLampOn then diagUltrasonicBit else 0)

/-- The lamp diagnosis of one tick.  Headlamp and brake lamp are given 100 ms, a blinking
    turn signal 1200 ms to show their feedback. -/
def diagnoseLamps (r : Requests) (f : LampFeedback) (d : LampDiag) : LampDiag :=
  let brake := updateDiagOneSignal r.brakeLampOn f.brake diagSteadyConfirmMs d.brakeLowTimerMs
  let head := updateDiagOneSignal r.headlampOn f.head diagSteadyConfirmMs d.headLowTimerMs
  let left := updateDiagOneSignal r.leftTurnEnabled f.left diagBlinkConfirmMs d.leftLowTimerMs
  let right := updateDiagOneSignal r.rightTurnEnabled f.right diagBlinkConfirmMs
    d.rightLowTimerMs
  { commandMask := commandMask r
    feedbackMask := readDiagFeedbackMaskRaw f
    brakeLowTimerMs := brake.1
    headLowTimerMs := head.1
    leftLowTimerMs := left.1
    rightLowTimerMs := right.1
    faultMask := d.faultMask |||
      (if brake.2 then diagBrakeLampBit else 0) ||| (if head.2 then diagHeadlampBit else 0) |||
      (if left.2 then diagLeftTurnBit else 0) ||| (if right.2 then diagRightTurnBit else 0) }

/-- `BodyControl_UpdateDiagnosis1ms`. -/
def updateDiagnosis1ms (inp : BodyInputs) (s : BodyControlState) : BodyControlState :=
  updateDiagDangerLed
    { s with diag := diagnoseLamps s.requests (inp.feedback s.pins) s.diag }

/-- The blinking of `BodyControl_Update1ms`. -/
def updateBlink (s : BodyControlState) : BodyControlState :=
  if s.requests.leftTurnEnabled = false ∧ s.requests.rightTurnEnabled = false then
    applyOutputs { s with blink := ⟨false, 0⟩ }
  else if blinkHalfPeriodMs ≤ s.blink.timerMs + 1 then
    applyOutputs { s with blink := ⟨!s.blink.outputOn, 0⟩ }
  else { s with blink := { s.blink with timerMs := s.blink.timerMs + 1 } }

/-- `BodyControl_Update1ms`. -/
def update1ms (inp : BodyInputs) (s : BodyControlState) : BodyControlState :=
  let s := { s with button := updateCollisionButton1ms inp.buttonHigh s.button }
  let s := updateCollisionWarningSound1ms (updateHorn1ms (updateUltrasonic1ms inp s))
  let s := updateDiagDangerLedBlink1ms (updateDtcStatus1ms inp s)
  updateDiagnosis1ms inp (updateBlink s)

/-! ## Initialisation -/

/-- `BodyControl_RunStartupSelfDiagnosis`: all lamps on for a second. -/
def runStartupSelfDiagnosis (inp : BodyInputs) (s : BodyControlState) : BodyControlState :=
  let s := delayMs diagStartupSelfTestMs (writeAllLamps true s)
  let feedbackMask := readDiagFeedbackMaskRaw (inp.feedback s.pins)
  let lampBits := diagBrakeLampBit ||| diagHeadlampBit ||| diagLeftTurnBit ||| diagRightTurnBit
  updateDiagDangerLed (writeAllLamps false { s with diag := { s.diag with
    faultMask := s.diag.faultMask ||| (lampBits &&& ~~~ feedbackMask)
    feedbackMask := feedbackMask } })

/-- The assignments of `BodyControl_Init`, all pins low. -/
def initState (buttonHigh : Bool) : BodyControlState where
  requests := noRequests
  horn := ⟨false, 0⟩
  ultrasonic := forgetUltrasonicDistance
  sound := resetCollisionWarningSound
  blink := ⟨false, 0⟩
  button := ⟨buttonHigh, buttonHigh, false, 0, 0⟩
  diag := ⟨0, 0, 0, 0, 0, 0, 0⟩
  dtc := ⟨0, 0, 0⟩
  danger := ⟨false, false, 0, 0⟩
  pins := ⟨false, false, false, false, false, false⟩
  stmUs := 0

/-- `BodyControl_Init`, with the timer at zero. -/
def init (inp : BodyInputs) : BodyControlState :=
  applyOutputs (buzzerOff (runStartupSelfDiagnosis inp (initState inp.buttonHigh)))

end BodyControl
