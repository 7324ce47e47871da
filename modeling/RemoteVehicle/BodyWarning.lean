import RemoteVehicle.BodyCalls

/-!
# The collision warning of BODY — enable, sensor, level, sound

`Alarm` is what the warning consists of: whether it and the horn are requested, the two timers
of the sensor, the level with its sound, the horn and the buzzer pin.

A 1 ms update works on it in three parts, sensor, horn and sound (`alarm_update`); the trouble
code, the blinking and the diagnosis that follow leave it alone.  Between two updates the
warning is switched on or off, and otherwise stays as it is (`between_updates`).
-/

namespace BodyWarning

open BodyState BodyControl BodyCalls

/-! ## The warning -/

@[ext] structure Alarm where
  lampOn : Bool
  hornOn : Bool
  measureTimerMs : Nat
  validHoldTimerMs : Nat
  sound : WarningSound
  horn : Horn
  buzzer : Bool

def alarm (s : BodyControlState) : Alarm where
  lampOn := s.requests.collisionWarningLampOn
  hornOn := s.requests.hornEnabled
  measureTimerMs := s.ultrasonic.measureTimerMs
  validHoldTimerMs := s.ultrasonic.validHoldTimerMs
  sound := s.sound
  horn := s.horn
  buzzer := s.pins.buzzer

/-! ## The update -/

/-- The first part of the update: the switch, then the sensor. -/
def sensed (inp : BodyInputs) (s : BodyControlState) : BodyControlState :=
  updateUltrasonic1ms inp
    { s with button := updateCollisionButton1ms inp.buttonHigh s.button }

/-- The horn toggles its output at every update. -/
def hornTick (a : Alarm) : Alarm :=
  if a.hornOn then { a with horn := ⟨!a.horn.outputOn, 0⟩, buzzer := !a.horn.outputOn }
  else { a with horn := ⟨false, 0⟩, buzzer := false }

/-- The sound of the warning, which leaves the buzzer to the horn. -/
def soundTick (a : Alarm) : Alarm :=
  if a.lampOn = false ∨ a.sound.level = 0 then
    { a with sound := resetCollisionWarningSound, buzzer := a.hornOn && a.buzzer }
  else if a.hornOn then { a with sound := enterWarningLevel a.sound }
  else
    { a with
      sound := (updateWarningBeep (enterWarningLevel a.sound)).1
      buzzer := (updateWarningBeep (enterWarningLevel a.sound)).1.toneOutputOn }

section Ticks

variable {a : Alarm}

theorem hornTick_on (h : a.hornOn = true) :
    hornTick a = { a with horn := ⟨!a.horn.outputOn, 0⟩, buzzer := !a.horn.outputOn } := if_pos h

theorem hornTick_off (h : a.hornOn = false) :
    hornTick a = { a with horn := ⟨false, 0⟩, buzzer := false } := if_neg (ne_true_of_eq_false h)

theorem soundTick_quiet (h : a.lampOn = false ∨ a.sound.level = 0) : soundTick a =
    { a with sound := resetCollisionWarningSound, buzzer := a.hornOn && a.buzzer } := if_pos h

theorem soundTick_horn (hloud : ¬ (a.lampOn = false ∨ a.sound.level = 0))
    (hhorn : a.hornOn = true) : soundTick a = { a with sound := enterWarningLevel a.sound } :=
  (if_neg hloud).trans (if_pos hhorn)

theorem soundTick_play (hloud : ¬ (a.lampOn = false ∨ a.sound.level = 0))
    (hhorn : a.hornOn = false) : soundTick a = { a with
      sound := (updateWarningBeep (enterWarningLevel a.sound)).1
      buzzer := (updateWarningBeep (enterWarningLevel a.sound)).1.toneOutputOn } :=
  (if_neg hloud).trans (if_neg (ne_true_of_eq_false hhorn))

end Ticks

theorem alarm_horn (s : BodyControlState) : alarm (updateHorn1ms s) = hornTick (alarm s) := by
  cases hhorn : s.requests.hornEnabled with
  | false =>
      have hoff : updateHorn1ms s = _ := if_pos hhorn
      rw [hoff, hornTick_off hhorn]
      rfl
  | true =>
      have hon : updateHorn1ms s = _ :=
        (if_neg (ne_false_of_eq_true hhorn)).trans (if_pos (Nat.le_add_left 1 _))
      rw [hon, hornTick_on hhorn]
      rfl

/-- The beep writes the level of its tone to the buzzer, every time. -/
theorem beep_writes (w : WarningSound) :
    (updateWarningBeep w).2 = some (updateWarningBeep w).1.toneOutputOn := by
  have htone (v : WarningSound) :
      toggleWarningTone v = ({ v with toneTimerMs := 0, toneOutputOn := !v.toneOutputOn },
        some (!v.toneOutputOn)) := if_pos (Nat.le_add_left 1 _)
  simp only [updateWarningBeep, htone]
  split_ifs <;> rfl

theorem alarm_sound (s : BodyControlState) :
    alarm (updateCollisionWarningSound1ms s) = soundTick (alarm s) := by
  by_cases hquiet : s.requests.collisionWarningLampOn = false ∨ s.sound.level = 0
  · have hreset : updateCollisionWarningSound1ms s = _ := if_pos hquiet
    rw [hreset, soundTick_quiet hquiet]
    cases hhorn : s.requests.hornEnabled with
    | false =>
        have hoff : silenceWarning { s with sound := resetCollisionWarningSound } = _ :=
          if_pos hhorn
        have hbuzzer : false = ((alarm s).hornOn && s.pins.buzzer) := by
          rw [alarm, hhorn]
          rfl
        rw [hoff]
        exact Alarm.ext rfl rfl rfl rfl rfl rfl hbuzzer
    | true =>
        have hkeep : silenceWarning { s with sound := resetCollisionWarningSound } = _ :=
          if_neg (ne_false_of_eq_true hhorn)
        have hbuzzer : s.pins.buzzer = ((alarm s).hornOn && s.pins.buzzer) := by
          rw [alarm, hhorn]
          rfl
        rw [hkeep]
        exact Alarm.ext rfl rfl rfl rfl rfl rfl hbuzzer
  · by_cases hhorn : s.requests.hornEnabled = true
    · have hkeep : updateCollisionWarningSound1ms s = _ := (if_neg hquiet).trans (if_pos hhorn)
      rw [hkeep, soundTick_horn hquiet hhorn]
      rfl
    · have hplay : updateCollisionWarningSound1ms s = _ := (if_neg hquiet).trans (if_neg hhorn)
      rw [hplay, soundTick_play hquiet ((Bool.not_eq_true _).mp hhorn)]
      simp only [beep_writes, writeBuzzerIf]
      rfl

/-- **The update of the warning**: sensor, horn and sound. -/
theorem alarm_update (inp : BodyInputs) (s : BodyControlState) :
    alarm (update1ms inp s) = soundTick (hornTick (alarm (sensed inp s))) := by
  have hdtc (t : BodyControlState) :
      alarm (updateDiagDangerLedBlink1ms (updateDtcStatus1ms inp t)) = alarm t := by
    obtain ⟨cm, valid, dtc, danger, mask, led, stm, hcheck, -⟩ := updateDtc_writes inp t
    rw [hcheck]
    obtain ⟨danger', led', hblink⟩ := updateDangerBlink_writes { t with
      ultrasonic := { t.ultrasonic with distanceCm := cm, distanceValid := valid }
      dtc := dtc, danger := danger, diag := { t.diag with faultMask := mask }
      pins := { t.pins with dangerLed := led }, stmUs := stm }
    rw [hblink]
    rfl
  have hlamps (t : BodyControlState) :
      alarm (updateDiagnosis1ms inp (updateBlink t)) = alarm t := by
    rw [updateBlink]
    split_ifs <;> rfl
  rw [update1ms_eq, hlamps, ← alarm_horn, ← alarm_sound]
  exact hdtc _

/-- What the sensor part writes: the timers and the level. -/
theorem sensed_writes (inp : BodyInputs) (s : BodyControlState) :
    (sensed inp s).requests = s.requests ∧ (sensed inp s).horn = s.horn ∧
      ((sensed inp s).sound = { s.sound with level := (sensed inp s).sound.level } ∨
        (sensed inp s).sound = resetCollisionWarningSound) := by
  simp only [sensed, updateUltrasonic1ms]
  split_ifs with hoff hwait
  · exact ⟨rfl, rfl, .inr rfl⟩
  · exact ⟨rfl, rfl, .inl rfl⟩
  · simp only [measurePeriodic]
    split_ifs with hfail
    · exact ⟨rfl, rfl, .inl rfl⟩
    · exact ⟨rfl, rfl, .inl rfl⟩

/-- The update measures successfully. -/
def Measured (inp : BodyInputs) (s : BodyControlState) : Prop :=
  s.requests.collisionWarningLampOn = true ∧
    ultrasonicMeasurePeriodMs ≤ s.ultrasonic.measureTimerMs ∧
    (measureUltrasonicDistanceCmWithTimeout inp.periodicEcho ultrasonicEchoTimeoutUs).1 ≠ none

instance (inp : BodyInputs) (s : BodyControlState) : Decidable (Measured inp s) := by
  unfold Measured
  infer_instance

/-- **A measurement** starts the next period.  A success fills the hold timer; a failure leaves
    it as it was, and there is no level once it has run out. -/
theorem measure_cases (inp : BodyInputs) (u : Ultrasonic) (s : BodyControlState) :
    let r := (measureUltrasonicDistanceCmWithTimeout inp.periodicEcho ultrasonicEchoTimeoutUs).1
    let t := measurePeriodic inp u s
    t.ultrasonic.measureTimerMs = 0 ∧
      (r ≠ none → t.ultrasonic.validHoldTimerMs = ultrasonicValidHoldMs) ∧
      (r = none → t.ultrasonic.validHoldTimerMs = u.validHoldTimerMs ∧
        (u.validHoldTimerMs = 0 → t.sound.level = 0)) := by
  intro r t
  cases hr : r with
  | some cm =>
      have hafter : t.ultrasonic =
          ultrasonicAfter (some cm) { u with measureTimerMs := 0 } := by
        simp only [t, measurePeriodic, r, hr]
        rfl
      rw [hafter]
      exact ⟨rfl, fun _ => rfl, fun hnone => absurd hnone (Option.some_ne_none cm)⟩
  | none =>
      have hafter : t.ultrasonic = ultrasonicAfter none { u with measureTimerMs := 0 } := by
        simp only [t, measurePeriodic, r, hr]
        rfl
      have hlevel : t.sound.level = computeCollisionWarningLevel s.sound.level
          t.ultrasonic.distanceCm t.ultrasonic.distanceValid := by
        rw [hafter]
        simp only [t, measurePeriodic, r, hr]
        rfl
      by_cases hold : u.validHoldTimerMs = 0
      · have hgone : t.ultrasonic = _ := hafter.trans (if_pos hold)
        rw [hlevel, hgone]
        exact ⟨rfl, fun hsome => absurd rfl hsome, fun _ => ⟨rfl, fun _ => rfl⟩⟩
      · have hkept : t.ultrasonic = _ := hafter.trans (if_neg hold)
        rw [hkept]
        exact ⟨rfl, fun hsome => absurd rfl hsome, fun _ => ⟨rfl, fun h => absurd h hold⟩⟩

/-- **The sensor**: off; between two measurements; a measurement that succeeds; and one that
    fails, after which there is no level once the last distance is too old. -/
theorem sensed_cases (inp : BodyInputs) (s : BodyControlState) :
    let t := sensed inp s
    let u := s.ultrasonic
    s.requests.collisionWarningLampOn = false ∧ t.sound.level = 0 ∧
        t.ultrasonic.validHoldTimerMs = 0 ∨
      s.requests.collisionWarningLampOn = true ∧ ¬ Measured inp s ∧
        t.ultrasonic.validHoldTimerMs = u.validHoldTimerMs - 1 ∧
        (u.measureTimerMs < ultrasonicMeasurePeriodMs ∧
            t.ultrasonic.measureTimerMs = u.measureTimerMs + 1 ∧
            t.sound.level = s.sound.level ∨
          ultrasonicMeasurePeriodMs ≤ u.measureTimerMs ∧ t.ultrasonic.measureTimerMs = 0 ∧
            (u.validHoldTimerMs - 1 = 0 → t.sound.level = 0)) ∨
      Measured inp s ∧ t.ultrasonic.measureTimerMs = 0 ∧
        t.ultrasonic.validHoldTimerMs = ultrasonicValidHoldMs := by
  intro t u
  by_cases hlamp : s.requests.collisionWarningLampOn = false
  · have hoff : t = _ := if_pos hlamp
    refine .inl ⟨hlamp, ?_, ?_⟩
    · rw [hoff]
      rfl
    · rw [hoff]
      rfl
  · have hon := (Bool.not_eq_false _).mp hlamp
    refine .inr ?_
    by_cases hwait : u.measureTimerMs < ultrasonicMeasurePeriodMs
    · have hnext : t = _ := (if_neg hlamp).trans (if_pos hwait)
      have hnone : ¬ Measured inp s := fun h => absurd h.2.1 (Nat.not_le.mpr hwait)
      refine .inl ⟨hon, hnone, ?_, .inl ⟨hwait, ?_, ?_⟩⟩
      · rw [hnext]
      · rw [hnext]
      · rw [hnext]
    · have hdue : ultrasonicMeasurePeriodMs ≤ u.measureTimerMs := Nat.not_lt.mp hwait
      have hmeasure : t = measurePeriodic inp _ _ := (if_neg hlamp).trans (if_neg hwait)
      rw [hmeasure]
      obtain ⟨hstart, hfull, hfailed⟩ := measure_cases inp
        { u with validHoldTimerMs := u.validHoldTimerMs - 1 }
        { s with button := updateCollisionButton1ms inp.buttonHigh s.button }
      by_cases hr : (measureUltrasonicDistanceCmWithTimeout inp.periodicEcho
          ultrasonicEchoTimeoutUs).1 = none
      · obtain ⟨hhold, hgone⟩ := hfailed hr
        exact .inl ⟨hon, fun h => h.2.2 hr, hhold, .inr ⟨hdue, hstart, hgone⟩⟩
      · exact .inr ⟨⟨hon, hdue, hr⟩, hstart, hfull hr⟩

/-! ## Between two updates -/

/-- A call that leaves the sensor and the sound alone, unless the warning was off. -/
def Leaves (s t : BodyControlState) : Prop :=
  t.sound = s.sound ∧ t.ultrasonic.validHoldTimerMs = s.ultrasonic.validHoldTimerMs ∧
    (s.requests.collisionWarningLampOn = false ∨
      t.requests.collisionWarningLampOn = s.requests.collisionWarningLampOn ∧
        t.ultrasonic.measureTimerMs = s.ultrasonic.measureTimerMs)

theorem leaves_of_alarm {s t : BodyControlState} {hornOn : Bool} {horn : Horn} {buzzer : Bool}
    (h : alarm t = { alarm s with hornOn := hornOn, horn := horn, buzzer := buzzer }) :
    Leaves s t :=
  ⟨congrArg Alarm.sound h, congrArg Alarm.validHoldTimerMs h,
    .inr ⟨congrArg Alarm.lampOn h, congrArg Alarm.measureTimerMs h⟩⟩

/-- **Between two updates** the warning is switched off, with everything it had, or the call
    leaves it alone; only the command that switches it on lets the sensor measure at once. -/
theorem between_updates (s : BodyControlState) {c : ControlCall} (hc : c.isUpdate = false) :
    (controlStep s c).sound = resetCollisionWarningSound ∧
        (controlStep s c).ultrasonic.validHoldTimerMs = 0 ∨
      Leaves s (controlStep s c) := by
  have hkept (h : alarm (controlStep s c) = alarm s) : Leaves s (controlStep s c) :=
    leaves_of_alarm h
  cases c with
  | update1ms inp => exact absurd hc.symm Bool.false_ne_true
  | allOff inp => exact .inl ⟨rfl, rfl⟩
  | setCollisionWarningLamp on =>
      cases on with
      | false =>
          obtain ⟨buzzer, hsilence⟩ := silenceWarning_writes { s with
            requests := { s.requests with collisionWarningLampOn := false }
            ultrasonic := forgetUltrasonicDistance, sound := resetCollisionWarningSound }
          have hoff : controlStep s (.setCollisionWarningLamp false) = _ := hsilence
          rw [hoff]
          exact .inl ⟨rfl, rfl⟩
      | true =>
          refine .inr ⟨rfl, rfl, ?_⟩
          by_cases hlamp : s.requests.collisionWarningLampOn = false
          · exact .inl hlamp
          · exact .inr ⟨((Bool.not_eq_false _).mp hlamp).symm, if_neg hlamp⟩
  | setHorn on =>
      obtain ⟨horn, buzzer, hset⟩ := setHorn_writes s on
      have hafter : controlStep s (.setHorn on) = _ := hset
      rw [hafter]
      exact .inr (leaves_of_alarm rfl)
  | runBuzzerDiagnosticRoutine =>
      obtain ⟨on, us, hrun⟩ := runBuzzer_writes s
      have hafter : controlStep s .runBuzzerDiagnosticRoutine = _ := hrun
      rw [hafter]
      exact .inr (leaves_of_alarm rfl)
  | runUltrasonicDiagnosticRoutine echo =>
      obtain ⟨cm, valid, mask, led, stm, hrun, -⟩ := runUltrasonic_writes s echo
      have hafter : controlStep s (.runUltrasonicDiagnosticRoutine echo) = _ := hrun
      rw [hafter]
      exact .inr (leaves_of_alarm rfl)
  | clearDtcHistory =>
      obtain ⟨dtc, danger, mask, led, hclear, -⟩ := clearDtc_writes s
      have hafter : controlStep s .clearDtcHistory = _ := hclear
      rw [hafter]
      exact .inr (leaves_of_alarm rfl)
  | setTurnSignal m =>
      have hset : alarm (setTurnSignal m s) = alarm s := by
        rw [setTurnSignal]
        split_ifs <;> rfl
      exact .inr (hkept hset)
  | consumeCollisionButtonPressedEvent =>
      have hconsume : alarm (consumeCollisionButtonPressedEvent s).2 = alarm s := by
        rw [consumeCollisionButtonPressedEvent]
        split_ifs <;> rfl
      exact .inr (hkept hconsume)
  | _ => exact .inr (leaves_of_alarm rfl)

/-! ## The sensor of an update -/

theorem hornTick_keeps (a : Alarm) :
    (hornTick a).lampOn = a.lampOn ∧ (hornTick a).hornOn = a.hornOn ∧
      (hornTick a).measureTimerMs = a.measureTimerMs ∧
      (hornTick a).validHoldTimerMs = a.validHoldTimerMs ∧ (hornTick a).sound = a.sound := by
  rw [hornTick]
  split_ifs
  · exact ⟨rfl, rfl, rfl, rfl, rfl⟩
  · exact ⟨rfl, rfl, rfl, rfl, rfl⟩

theorem enter_level (w : WarningSound) : (enterWarningLevel w).level = w.level := by
  rw [enterWarningLevel]
  split_ifs <;> rfl

theorem beep_level (w : WarningSound) : (updateWarningBeep w).1.level = w.level := by
  simp only [updateWarningBeep, isCollisionWarningBeepActive, toggleWarningTone]
  split_ifs <;> rfl

theorem soundTick_keeps (a : Alarm) (ha : a.lampOn = false → a.sound.level = 0) :
    (soundTick a).lampOn = a.lampOn ∧ (soundTick a).hornOn = a.hornOn ∧
      (soundTick a).measureTimerMs = a.measureTimerMs ∧
      (soundTick a).validHoldTimerMs = a.validHoldTimerMs ∧
      (soundTick a).sound.level = a.sound.level := by
  rw [soundTick]
  split_ifs with hquiet hhorn
  · exact ⟨rfl, rfl, rfl, rfl, (hquiet.elim ha id).symm⟩
  · exact ⟨rfl, rfl, rfl, rfl, enter_level _⟩
  · exact ⟨rfl, rfl, rfl, rfl, (beep_level _).trans (enter_level _)⟩

/-- The sensor part has no level without the enable. -/
theorem sensed_off {inp : BodyInputs} {s : BodyControlState}
    (h : s.requests.collisionWarningLampOn = false) :
    (sensed inp s).sound = resetCollisionWarningSound := by
  have hoff : sensed inp s = _ := if_pos h
  rw [hoff]

/-- **The level and the timers after an update** are those that the sensor part leaves. -/
theorem update_sensor (inp : BodyInputs) (s : BodyControlState) :
    (update1ms inp s).requests.collisionWarningLampOn = s.requests.collisionWarningLampOn ∧
      (update1ms inp s).ultrasonic.measureTimerMs = (sensed inp s).ultrasonic.measureTimerMs ∧
      (update1ms inp s).ultrasonic.validHoldTimerMs =
        (sensed inp s).ultrasonic.validHoldTimerMs ∧
      (update1ms inp s).sound.level = (sensed inp s).sound.level := by
  have halarm := alarm_update inp s
  obtain ⟨hrequests, -, -⟩ := sensed_writes inp s
  obtain ⟨hlamp, hhorn, hmeasure, hhold, hsound⟩ := hornTick_keeps (alarm (sensed inp s))
  have hon : (alarm (sensed inp s)).lampOn = s.requests.collisionWarningLampOn :=
    congrArg Requests.collisionWarningLampOn hrequests
  have hoff : (hornTick (alarm (sensed inp s))).lampOn = false →
      (hornTick (alarm (sensed inp s))).sound.level = 0 := by
    intro h
    have hsensed : (alarm (sensed inp s)).sound = _ :=
      sensed_off (hon.symm.trans (hlamp.symm.trans h))
    rw [hsound, hsensed]
    rfl
  obtain ⟨hlamp', -, hmeasure', hhold', hlevel'⟩ := soundTick_keeps _ hoff
  refine ⟨?_, ?_, ?_, ?_⟩
  · exact (congrArg Alarm.lampOn halarm).trans (hlamp'.trans (hlamp.trans hon))
  · exact (congrArg Alarm.measureTimerMs halarm).trans (hmeasure'.trans hmeasure)
  · exact (congrArg Alarm.validHoldTimerMs halarm).trans (hhold'.trans hhold)
  · refine (congrArg (fun a => a.sound.level) halarm).trans (hlevel'.trans ?_)
    rw [hsound]
    rfl

end BodyWarning
