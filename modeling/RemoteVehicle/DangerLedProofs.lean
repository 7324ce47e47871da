import RemoteVehicle.BodyLamps

/-!
# The danger LED follows one rule

Lamp faults, the trouble code, the clears and the blink steps all write the danger LED, and
while a blink sequence is active all but its own steps leave it alone.  `Danger` is what they
read and write, and `DangerOp` what a call means for it.

Two things make the rule hold after every call.  Whatever changes the fault mask or the
current bit ends with `BodyControl_UpdateDiagDangerLed`, so the LED is never stale
(`consistent_op`).  And a sequence is active only while the history bit is set, so it starts
with the bit and at no other time (`together_check`).  How long it lasts is `blinkAt_succ`: the
half period of 250 ms takes 251 updates, because the timer is compared before it is
incremented.
-/

namespace DangerLed

open Runs BodyState BodyControl BodyCalls BodyLamps

/-! ## What the danger LED depends on -/

@[ext] structure Danger where
  blink : DangerBlink
  status : UInt8
  mask : UInt8
  led : Bool

def danger (s : BodyControlState) : Danger :=
  ⟨s.danger, s.dtc.status, s.diag.faultMask, s.pins.dangerLed⟩

/-- What a call means for the danger LED. -/
inductive DangerOp where
  | refresh
  | sensorFault
  | report (current history : Bool)
  | tick
  | lampFaults (failed : Lamp → Bool)
  | clearFaults
  | clearDtc

/-- No blink sequence. -/
def idle : DangerBlink := ⟨false, false, 0, 0⟩

/-- A sequence that has just started. -/
def started : DangerBlink := ⟨true, true, 0, 0⟩

def Danger.steadyOn (d : Danger) : Bool :=
  d.mask &&& ~~~ diagUltrasonicBit != 0 || d.status &&& dtcStatusCurrentBit != 0

def Danger.refresh (d : Danger) : Danger :=
  { d with led := if d.blink.active then d.led else d.steadyOn }

def Danger.syncMask (d : Danger) : Danger :=
  Danger.refresh { d with mask :=
    if d.status &&& dtcStatusCurrentBit ≠ 0 then d.mask ||| diagUltrasonicBit
    else d.mask &&& ~~~ diagUltrasonicBit }

/-- The status after a check: the current bit is its result, the history bit may join. -/
def reportStatus (current history : Bool) (status : UInt8) : UInt8 :=
  if current then
    if history then status ||| dtcStatusCurrentBit ||| dtcStatusHistoryBit
    else status ||| dtcStatusCurrentBit
  else status &&& ~~~ dtcStatusCurrentBit

/-- The history bit is set. -/
def Danger.History (d : Danger) : Prop := d.status &&& dtcStatusHistoryBit ≠ 0

instance (d : Danger) : Decidable d.History :=
  inferInstanceAs (Decidable (d.status &&& dtcStatusHistoryBit ≠ 0))

def Danger.report (status : UInt8) (d : Danger) : Danger :=
  if d.status &&& dtcStatusHistoryBit = 0 ∧ status &&& dtcStatusHistoryBit ≠ 0 then
    Danger.syncMask { d with status := status, blink := started, led := true }
  else Danger.syncMask { d with status := status }

def Danger.tick (d : Danger) : Danger :=
  if d.blink.active = false then d
  else if d.blink.timerMs < diagDangerBlinkHalfPeriodMs then
    { d with blink := { d.blink with timerMs := d.blink.timerMs + 1 } }
  else if diagDangerBlinkCycles * 2 ≤ d.blink.toggleCount + 1 then
    Danger.refresh { d with blink := idle }
  else
    { d with
      blink := ⟨true, !d.blink.outputOn, d.blink.toggleCount + 1, 0⟩
      led := !d.blink.outputOn }

def Danger.step (d : Danger) : DangerOp → Danger
  | .refresh => d.refresh
  | .sensorFault => Danger.refresh { d with mask := d.mask ||| diagUltrasonicBit }
  | .report current history => d.report (reportStatus current history d.status)
  | .tick => d.tick
  | .lampFaults failed => Danger.refresh { d with mask := d.mask |||
      (if failed .brake then diagBrakeLampBit else 0) |||
      (if failed .head then diagHeadlampBit else 0) |||
      (if failed .left then diagLeftTurnBit else 0) |||
      (if failed .right then diagRightTurnBit else 0) }
  | .clearFaults => Danger.refresh { d with mask := 0 }
  | .clearDtc => Danger.syncMask
      { d with status := d.status &&& ~~~ dtcStatusHistoryBit, blink := idle }

/-! ## Every call does what it means -/

/-- The sensor found a fault, or its check was reported; there is no other effect before the
    blink step of an update. -/
def DangerOp.isCheck : DangerOp → Bool
  | .sensorFault => true
  | .report _ _ => true
  | _ => false

/-- What checks of the sensor make of the first. -/
def Checked (d e : Danger) : Prop :=
  ∃ ops : List DangerOp, (∀ op ∈ ops, op.isCheck = true) ∧ e = run Danger.step d ops

theorem checked_refl (d : Danger) : Checked d d :=
  ⟨[], fun _ hop => absurd hop List.not_mem_nil, rfl⟩

theorem checked_one (d : Danger) (op : DangerOp) (hop : op.isCheck = true) :
    Checked d (d.step op) :=
  ⟨[op], fun _ hmem => List.mem_singleton.mp hmem ▸ hop, rfl⟩

theorem checked_trans {d e f : Danger} (hd : Checked d e) (he : Checked e f) : Checked d f := by
  obtain ⟨ops, hops, rfl⟩ := hd
  obtain ⟨ops', hops', rfl⟩ := he
  refine ⟨ops ++ ops', ?_, (run_append ..).symm⟩
  intro op hop
  rcases List.mem_append.mp hop with hop | hop
  · exact hops op hop
  · exact hops' op hop

section Calls

variable (inp : BodyInputs) (s : BodyControlState)

theorem checked_measure (u : Ultrasonic) :
    Checked (danger s) (danger (measurePeriodic inp u s)) := by
  simp only [measurePeriodic]
  split
  · exact checked_one (danger s) .sensorFault rfl
  · exact checked_refl (danger s)

theorem checked_ultrasonic : Checked (danger s) (danger (updateUltrasonic1ms inp s)) := by
  simp only [updateUltrasonic1ms]
  split
  · exact checked_refl (danger s)
  · split
    · exact checked_refl (danger s)
    · exact checked_measure inp s _

theorem danger_horn : danger (updateHorn1ms s) = danger s := by
  obtain ⟨horn, on, hwrites⟩ := updateHorn_writes s
  rw [hwrites]
  rfl

theorem danger_sound : danger (updateCollisionWarningSound1ms s) = danger s := by
  obtain ⟨w, on, hwrites⟩ := updateSound_writes s
  rw [hwrites]
  rfl

theorem checked_routine (echo : UltrasonicEcho) :
    Checked (danger s) (danger (runUltrasonicDiagnosticRoutine echo s).2) := by
  simp only [runUltrasonicDiagnosticRoutine]
  split
  · exact checked_one (danger s) .sensorFault rfl
  · exact checked_refl (danger s)

theorem status_count (failed : Bool) (d : UltrasonicDtc) :
    ∃ history, (countUltrasonicDtc failed d).status = reportStatus failed history d.status := by
  cases failed with
  | false => exact ⟨false, rfl⟩
  | true =>
      by_cases hconfirmed : dtcConfirmFailCount ≤ (countUltrasonicDtc true d).consecutiveFailCount
      · exact ⟨true, if_pos hconfirmed⟩
      · exact ⟨false, if_neg hconfirmed⟩

theorem danger_dtc (failed : Bool) :
    danger (updateUltrasonicDtcStatus failed s) =
      (danger s).report (countUltrasonicDtc failed s.dtc).status := by
  by_cases hrise : s.dtc.status &&& dtcStatusHistoryBit = 0 ∧
      (countUltrasonicDtc failed s.dtc).status &&& dtcStatusHistoryBit ≠ 0
  · exact (congrArg danger (if_pos hrise)).trans (if_pos hrise).symm
  · exact (congrArg danger (if_neg hrise)).trans (if_neg hrise).symm

theorem checked_dtc : Checked (danger s) (danger (updateDtcStatus1ms inp s)) := by
  simp only [updateDtcStatus1ms]
  split
  · exact checked_refl (danger s)
  · generalize hroutine : runUltrasonicDiagnosticRoutine inp.dtcEcho
      { s with dtc := { s.dtc with checkTimerMs := 0 } } = r
    have hfirst : Checked (danger s) (danger r.2) := by
      rw [← hroutine]
      exact checked_routine { s with dtc := { s.dtc with checkTimerMs := 0 } } inp.dtcEcho
    obtain ⟨history, hstatus⟩ := status_count (!r.1.1) r.2.dtc
    have hreport := danger_dtc r.2 (!r.1.1)
    rw [hstatus] at hreport
    rw [hreport]
    exact checked_trans hfirst (checked_one (danger r.2) (.report _ history) rfl)

theorem danger_blink : danger (updateDiagDangerLedBlink1ms s) = (danger s).tick := by
  by_cases hactive : s.danger.active = false
  · exact (congrArg danger (if_pos hactive)).trans (if_pos hactive).symm
  · refine (congrArg danger (if_neg hactive)).trans (Eq.trans ?_ (if_neg hactive).symm)
    by_cases hshort : s.danger.timerMs < diagDangerBlinkHalfPeriodMs
    · exact (congrArg danger (if_pos hshort)).trans (if_pos hshort).symm
    · refine (congrArg danger (if_neg hshort)).trans (Eq.trans ?_ (if_neg hshort).symm)
      by_cases hlast : diagDangerBlinkCycles * 2 ≤ s.danger.toggleCount + 1
      · exact (congrArg danger (if_pos hlast)).trans (if_pos hlast).symm
      · exact (congrArg danger (if_neg hlast)).trans (if_neg hlast).symm

theorem danger_turns : danger (updateBlink s) = danger s := by
  rw [updateBlink]
  split_ifs <;> rfl

/-- **An update** checks the sensor, takes one blink step and latches the lamp faults, in this
    order. -/
theorem danger_update : ∃ d failed, Checked (danger s) d ∧
    danger (update1ms inp s) = (d.step .tick).step (.lampFaults failed) := by
  generalize ht : updateCollisionWarningSound1ms (updateHorn1ms (updateUltrasonic1ms inp
    { s with button := updateCollisionButton1ms inp.buttonHigh s.button })) = t
  have hultrasonic : Checked (danger s) (danger t) := by
    rw [← ht, danger_sound, danger_horn]
    exact checked_ultrasonic inp
      { s with button := updateCollisionButton1ms inp.buttonHigh s.button }
  refine ⟨_, fun l => (updateDiagOneSignal (commandOn (updateBlink (beforeBlink inp s)).requests l)
    (feedbackOn (inp.feedback (updateBlink (beforeBlink inp s)).pins) l) (confirmMs l)
    (lowTimerMs (updateBlink (beforeBlink inp s)).diag l)).2,
    checked_trans hultrasonic (checked_dtc inp t), ?_⟩
  have hbefore : danger (updateBlink (beforeBlink inp s)) =
      (danger (updateDtcStatus1ms inp t)).step .tick := by
    rw [danger_turns, beforeBlink, ht]
    exact danger_blink _
  rw [update1ms_eq, ← hbefore]
  rfl

end Calls

/-! ## One rule at all times -/

/-- The mask has the bits of the lamps and the sensor, and no others. -/
def Known (mask : UInt8) : Prop := mask &&& ~~~ (lampBits ||| diagUltrasonicBit) = 0

instance (mask : UInt8) : Decidable (Known mask) :=
  inferInstanceAs (Decidable (mask &&& ~~~ (lampBits ||| diagUltrasonicBit) = 0))

theorem known_or {a b : UInt8} (ha : Known a) (hb : Known b) : Known (a ||| b) := by
  have hdistrib (x : UInt8) : (a ||| b) &&& x = a &&& x ||| b &&& x := by
    rw [← UInt8.toBitVec_inj]
    exact BitVec.and_or_distrib_right
  rw [Known, hdistrib, ha, hb]
  rfl

theorem known_sensor {mask : UInt8} (h : Known mask) : Known (mask &&& ~~~ diagUltrasonicBit) := by
  rw [Known, UInt8.and_assoc, UInt8.and_comm (~~~ diagUltrasonicBit), ← UInt8.and_assoc, h]
  rfl

theorem known_failed (failed : Bool) (l : Lamp) : Known (if failed then faultBit l else 0) := by
  cases failed with
  | false => exact (by decide : Known 0)
  | true => cases l <;> decide

/-- Between two calls: the LED shows the blink output or the faults, and the history bit is
    set while it blinks. -/
structure Consistent (d : Danger) : Prop where
  known : Known d.mask
  led : d.led = if d.blink.active then d.blink.outputOn else d.steadyOn
  history : d.blink.active = true → d.History

/-- `BodyControl_UpdateDiagDangerLed` is all that it takes. -/
theorem consistent_refresh {d : Danger} (hknown : Known d.mask)
    (hled : d.blink.active = true → d.led = d.blink.outputOn)
    (hhistory : d.blink.active = true → d.History) : Consistent d.refresh := by
  refine ⟨hknown, ?_, hhistory⟩
  by_cases hactive : d.blink.active = true
  · exact (if_pos hactive).trans ((hled hactive).trans (if_pos hactive).symm)
  · exact (if_neg hactive).trans (if_neg hactive).symm

theorem Consistent.shown {d : Danger} (h : Consistent d) (hactive : d.blink.active = true) :
    d.led = d.blink.outputOn := h.led.trans (if_pos hactive)

theorem consistent_sync {d : Danger} (hknown : Known d.mask)
    (hled : d.blink.active = true → d.led = d.blink.outputOn)
    (hhistory : d.blink.active = true → d.History) : Consistent d.syncMask := by
  refine consistent_refresh ?_ hled hhistory
  show Known (if _ then _ else _)
  split
  · exact known_or hknown (by decide)
  · exact known_sensor hknown

/-- A result of the check never takes the history bit away. -/
theorem history_report (current history : Bool) : ∀ status : UInt8,
    status &&& dtcStatusHistoryBit ≠ 0 →
      reportStatus current history status &&& dtcStatusHistoryBit ≠ 0 := by
  rintro ⟨b⟩
  revert b current history
  decide +kernel

theorem consistent_report {d : Danger} (h : Consistent d) (current history : Bool) :
    Consistent (d.step (.report current history)) := by
  by_cases hrise : d.status &&& dtcStatusHistoryBit = 0 ∧
      reportStatus current history d.status &&& dtcStatusHistoryBit ≠ 0
  · have hstep : d.step (.report current history) = _ := if_pos hrise
    rw [hstep]
    exact consistent_sync h.known (fun _ => rfl) (fun _ => hrise.2)
  · have hstep : d.step (.report current history) = _ := if_neg hrise
    rw [hstep]
    exact consistent_sync h.known h.shown
      (fun hactive => history_report current history d.status (h.history hactive))

theorem consistent_tick {d : Danger} (h : Consistent d) : Consistent (d.step .tick) := by
  show Consistent d.tick
  rw [Danger.tick]
  split_ifs with hactive hshort hlast
  · exact h
  · exact ⟨h.known, h.led, h.history⟩
  · exact consistent_refresh h.known (fun hidle => absurd hidle Bool.false_ne_true)
      (fun hidle => absurd hidle Bool.false_ne_true)
  · exact ⟨h.known, rfl, fun _ => h.history (Bool.eq_true_of_not_eq_false hactive)⟩

/-- **Every operation keeps the rule.** -/
theorem consistent_op {d : Danger} (h : Consistent d) (op : DangerOp) :
    Consistent (d.step op) := by
  cases op with
  | refresh => exact consistent_refresh h.known h.shown h.history
  | sensorFault => exact consistent_refresh (known_or h.known (by decide)) h.shown h.history
  | report current history => exact consistent_report h current history
  | tick => exact consistent_tick h
  | lampFaults failed =>
      refine consistent_refresh ?_ h.shown h.history
      have hbrake := known_or h.known (known_failed (failed .brake) .brake)
      have hhead := known_or hbrake (known_failed (failed .head) .head)
      have hleft := known_or hhead (known_failed (failed .left) .left)
      exact known_or hleft (known_failed (failed .right) .right)
  | clearFaults => exact consistent_refresh (by decide : Known 0) h.shown h.history
  | clearDtc =>
      exact consistent_sync h.known (fun hidle => absurd hidle Bool.false_ne_true)
        (fun hidle => absurd hidle Bool.false_ne_true)

theorem consistent_checked {d e : Danger} (hcheck : Checked d e) (h : Consistent d) :
    Consistent e := by
  obtain ⟨ops, -, rfl⟩ := hcheck
  exact run_invariant Consistent (fun _ op hd => consistent_op hd op) h ops

theorem consistent_init (inp : BodyInputs) : Consistent (danger (init inp)) := by
  have hlamps : ∀ feedback : UInt8, Known (0 ||| (lampBits &&& ~~~ feedback)) := by
    rintro ⟨b⟩
    revert b
    decide +kernel
  exact ⟨hlamps _, rfl, fun hidle => absurd hidle Bool.false_ne_true⟩

/-! ## The steps of a sequence -/

/-- One update of the blink sequence. -/
def nextBlink (b : DangerBlink) : DangerBlink :=
  if b.active = false then b
  else if b.timerMs < diagDangerBlinkHalfPeriodMs then { b with timerMs := b.timerMs + 1 }
  else if diagDangerBlinkCycles * 2 ≤ b.toggleCount + 1 then idle
  else ⟨true, !b.outputOn, b.toggleCount + 1, 0⟩

theorem tick_blink (d : Danger) : (d.step .tick).blink = nextBlink d.blink := by
  show d.tick.blink = _
  rw [Danger.tick, nextBlink]
  split_ifs <;> rfl

/-- The sequence `k` updates after it was started. -/
def blinkAt (k : Nat) : DangerBlink :=
  if k < 1506 then ⟨true, k / 251 % 2 == 0, k / 251, k % 251⟩ else idle

/-- **One update** moves the sequence on. -/
theorem blinkAt_succ (k : Nat) : nextBlink (blinkAt k) = blinkAt (k + 1) := by
  by_cases hactive : k < 1506
  · rw [blinkAt, if_pos hactive]
    by_cases hshort : k % 251 < 250
    · have hnext : k + 1 < 1506 := by omega
      have hsame : (k + 1) / 251 = k / 251 := by omega
      have hmore : (k + 1) % 251 = k % 251 + 1 := by omega
      rw [blinkAt, if_pos hnext, hsame, hmore]
      exact if_pos hshort
    · have hturn : (k + 1) / 251 = k / 251 + 1 := by omega
      have hzero : (k + 1) % 251 = 0 := by omega
      have hflip : ((k / 251 + 1) % 2 == 0) = !(k / 251 % 2 == 0) := by
        rw [Bool.eq_iff_iff, Bool.not_eq_true', beq_iff_eq, beq_eq_false_iff_ne]
        omega
      have htoggle : nextBlink ⟨true, k / 251 % 2 == 0, k / 251, k % 251⟩ = _ := if_neg hshort
      rw [htoggle]
      by_cases hlast : 6 ≤ k / 251 + 1
      · have hover : ¬ k + 1 < 1506 := by omega
        rw [blinkAt, if_neg hover]
        exact if_pos hlast
      · have hnext : k + 1 < 1506 := by omega
        rw [blinkAt, if_pos hnext, hturn, hzero, hflip]
        exact if_neg hlast
  · have hover : ¬ k + 1 < 1506 := by omega
    rw [blinkAt, if_neg hactive, blinkAt, if_neg hover]
    rfl

/-- The history bit and the sequence both stay, or both start. -/
def Together (d e : Danger) : Prop :=
  ((e.History ↔ d.History) ∧ e.blink = d.blink) ∨ (¬ d.History ∧ e.History ∧ e.blink = started)

theorem together_trans {d e f : Danger} (hd : Together d e) (he : Together e f) :
    Together d f := by
  rcases hd with ⟨hhistory, hblink⟩ | ⟨hbefore, hafter, hblink⟩
  · rw [Together, ← hhistory, ← hblink]
    exact he
  · rcases he with ⟨hhistory, hsame⟩ | ⟨hagain, -⟩
    · exact .inr ⟨hbefore, hhistory.mpr hafter, hsame.trans hblink⟩
    · exact absurd hafter hagain

theorem together_check (d : Danger) {op : DangerOp} (hcheck : op.isCheck = true) :
    Together d (d.step op) := by
  cases op with
  | sensorFault => exact .inl ⟨Iff.rfl, rfl⟩
  | report current history =>
      by_cases hrise : d.status &&& dtcStatusHistoryBit = 0 ∧
          reportStatus current history d.status &&& dtcStatusHistoryBit ≠ 0
      · have hstep : d.step (.report current history) = _ := if_pos hrise
        rw [hstep]
        exact .inr ⟨fun hset => hset hrise.1, hrise.2, rfl⟩
      · have hstep : d.step (.report current history) = _ := if_neg hrise
        rw [hstep]
        refine .inl ⟨⟨?_, history_report current history d.status⟩, rfl⟩
        intro hafter hbefore
        exact hrise ⟨hbefore, hafter⟩
  | _ => exact absurd hcheck Bool.false_ne_true

/-- So they do under all the checks before the blink step. -/
theorem checked_cases {d e : Danger} (hcheck : Checked d e) : Together d e := by
  obtain ⟨ops, hops, rfl⟩ := hcheck
  induction ops generalizing d with
  | nil => exact .inl ⟨Iff.rfl, rfl⟩
  | cons op ops ih =>
      have hone := together_check d (hops op List.mem_cons_self)
      exact together_trans hone (ih fun o ho => hops o (List.mem_cons_of_mem op ho))

/-! ## Calls -/

/-- What a call does to the history bit and to the sequence. -/
inductive Effect (d e : Danger) (c : ControlCall) : Prop where
  | kept (hc : c.isUpdate = false) (hhistory : e.History ↔ d.History) (hblink : e.blink = d.blink)
  | cleared (hc : c = .clearDtcHistory) (hhistory : ¬ e.History) (hblink : e.blink = idle)
  | ticked (hc : c.isUpdate = true) (hhistory : e.History ↔ d.History)
      (hblink : e.blink = nextBlink d.blink)
  | risen (hc : c.isUpdate = true) (hbefore : ¬ d.History) (hafter : e.History)
      (hblink : e.blink = blinkAt 1)

theorem effect_update (inp : BodyInputs) (s : BodyControlState) :
    Effect (danger s) (danger (update1ms inp s)) (.update1ms inp) := by
  obtain ⟨d, failed, hcheck, hupdate⟩ := danger_update inp s
  have hticked : (d.step .tick).History ↔ d.History := by
    show d.tick.History ↔ _
    rw [Danger.tick]
    split_ifs <;> exact Iff.rfl
  have hhistory : (danger (update1ms inp s)).History ↔ d.History := by
    rw [hupdate]
    exact hticked
  have hblink : (danger (update1ms inp s)).blink = nextBlink d.blink := by
    rw [hupdate]
    exact tick_blink d
  rcases checked_cases hcheck with ⟨hkept, hsame⟩ | ⟨hbefore, hafter, hstarted⟩
  · exact .ticked rfl (hhistory.trans hkept) (hblink.trans (congrArg nextBlink hsame))
  · refine .risen rfl hbefore (hhistory.mpr hafter) (hblink.trans ?_)
    rw [hstarted]
    rfl

theorem danger_allOff (inp : BodyInputs) (s : BodyControlState) :
    danger (allOff inp s) = (danger s).step .refresh := rfl

theorem danger_clearFaults (s : BodyControlState) :
    danger (clearDiagFaults s) = (danger s).step .clearFaults := rfl

theorem danger_clearDtc (s : BodyControlState) :
    danger (clearDtcHistory s) = (danger s).step .clearDtc := rfl

/-- The calls that have nothing to do with the danger LED. -/
def sparesDanger : ControlCall → Bool
  | .allOff _ => false
  | .clearDiagFaults => false
  | .clearDtcHistory => false
  | .runUltrasonicDiagnosticRoutine _ => false
  | .update1ms _ => false
  | _ => true

theorem danger_spared (s : BodyControlState) {c : ControlCall} (hc : sparesDanger c = true) :
    danger (controlStep s c) = danger s := by
  cases c with
  | setTurnSignal m =>
      simp only [controlStep, setTurnSignal]
      split_ifs <;> rfl
  | setCollisionWarningLamp on =>
      obtain ⟨u, w, buzzer, hset⟩ := setWarningLamp_writes s on
      rw [controlStep, hset]
      rfl
  | setHorn on =>
      obtain ⟨horn, buzzer, hset⟩ := setHorn_writes s on
      rw [controlStep, hset]
      rfl
  | consumeCollisionButtonPressedEvent =>
      rw [controlStep, consumeCollisionButtonPressedEvent]
      split_ifs <;> rfl
  | runBuzzerDiagnosticRoutine =>
      obtain ⟨on, us, hrun⟩ := runBuzzer_writes s
      rw [controlStep, hrun]
      rfl
  | setHeadlamp on => rfl
  | setBrakeLamp on => rfl
  | setLeftTurn on => rfl
  | setRightTurn on => rfl
  | runLedDiagnosticRoutine => rfl
  | wait us => rfl
  | _ => exact absurd hc Bool.false_ne_true

/-- **Every call** has one of the four effects. -/
theorem effect_call (s : BodyControlState) (c : ControlCall) :
    Effect (danger s) (danger (controlStep s c)) c := by
  have hspared (hc : sparesDanger c = true) (hupdate : c.isUpdate = false) :
      Effect (danger s) (danger (controlStep s c)) c := by
    rw [danger_spared s hc]
    exact .kept hupdate Iff.rfl rfl
  cases c with
  | allOff inp => exact .kept rfl Iff.rfl rfl
  | clearDiagFaults => exact .kept rfl Iff.rfl rfl
  | clearDtcHistory =>
      have hgone : ∀ status : UInt8,
          (status &&& ~~~ dtcStatusHistoryBit) &&& dtcStatusHistoryBit = 0 := by
        rintro ⟨b⟩
        revert b
        decide +kernel
      exact .cleared rfl (fun hset => hset (hgone _)) rfl
  | runUltrasonicDiagnosticRoutine echo =>
      rw [controlStep]
      simp only [runUltrasonicDiagnosticRoutine]
      split
      · exact .kept rfl Iff.rfl rfl
      · exact .kept rfl Iff.rfl rfl
  | update1ms inp => exact effect_update inp s
  | _ => exact hspared rfl rfl

theorem consistent_call (s : BodyControlState) (c : ControlCall) (hs : Consistent (danger s)) :
    Consistent (danger (controlStep s c)) := by
  have hspared (hc : sparesDanger c = true) : Consistent (danger (controlStep s c)) :=
    (danger_spared s hc).symm ▸ hs
  cases c with
  | allOff inp => exact danger_allOff inp s ▸ consistent_op hs .refresh
  | clearDiagFaults => exact danger_clearFaults s ▸ consistent_op hs .clearFaults
  | clearDtcHistory => exact danger_clearDtc s ▸ consistent_op hs .clearDtc
  | runUltrasonicDiagnosticRoutine echo => exact consistent_checked (checked_routine s echo) hs
  | update1ms inp =>
      obtain ⟨d, failed, hcheck, hupdate⟩ := danger_update inp s
      rw [controlStep, hupdate]
      exact consistent_op (consistent_op (consistent_checked hcheck hs) .tick) _
  | _ => exact hspared rfl

theorem consistent_run (inp : BodyInputs) (cs : List ControlCall) :
    Consistent (danger (controlRun inp cs)) :=
  run_invariant (fun s => Consistent (danger s)) consistent_call (consistent_init inp) cs

/-! ## The LED over whole runs -/

/-- `BODY_DTC_STATUS_CURRENT_BIT` is set. -/
def CurrentSet (s : BodyControlState) : Prop := s.dtc.status &&& dtcStatusCurrentBit ≠ 0

/-- `BODY_DTC_STATUS_HISTORY_BIT` is set. -/
def HistorySet (s : BodyControlState) : Prop := s.dtc.status &&& dtcStatusHistoryBit ≠ 0

/-- A lamp fault is latched, or the sensor is at fault now. -/
def SteadyOn (s : BodyControlState) : Prop := (∃ l, Faulty s l) ∨ CurrentSet s

/-- The LED is the blink output of an active sequence, and shows the faults otherwise. -/
structure FollowsRule (s : BodyControlState) : Prop where
  blinking : s.danger.active = true → s.pins.dangerLed = s.danger.outputOn
  steady : s.danger.active = false → (s.pins.dangerLed = true ↔ SteadyOn s)

/-- Without the sensor's bit the mask is that of the lamps. -/
theorem steadyOn_iff {s : BodyControlState} (h : Known s.diag.faultMask) :
    (danger s).steadyOn = true ↔ SteadyOn s := by
  have hlamps : ∀ mask : UInt8, Known mask → (mask &&& ~~~ diagUltrasonicBit ≠ 0 ↔
      bitSet mask .brake = true ∨ bitSet mask .head = true ∨ bitSet mask .left = true ∨
        bitSet mask .right = true) := by
    rintro ⟨b⟩
    revert b
    decide +kernel
  have hexists : (∃ l, Faulty s l) ↔ s.diag.faultMask &&& ~~~ diagUltrasonicBit ≠ 0 := by
    rw [hlamps s.diag.faultMask h]
    constructor
    · rintro ⟨l, hl⟩
      cases l with
      | brake => exact .inl hl
      | head => exact .inr (.inl hl)
      | left => exact .inr (.inr (.inl hl))
      | right => exact .inr (.inr (.inr hl))
    · rintro (hl | hl | hl | hl)
      · exact ⟨.brake, hl⟩
      · exact ⟨.head, hl⟩
      · exact ⟨.left, hl⟩
      · exact ⟨.right, hl⟩
  rw [SteadyOn, hexists, Danger.steadyOn, Bool.or_eq_true, bne_iff_ne, bne_iff_ne]
  exact Iff.rfl

theorem followsRule {s : BodyControlState} (h : Consistent (danger s)) : FollowsRule s := by
  refine ⟨h.shown, fun hidle => ?_⟩
  have hled : s.pins.dangerLed = (danger s).steadyOn :=
    h.led.trans (if_neg (Bool.eq_false_iff.mp hidle))
  rw [hled]
  exact steadyOn_iff h.known

/-- A sequence starts with the history bit. -/
theorem starts_iff {s : BodyControlState} {c : ControlCall} (hs : Consistent (danger s)) :
    (s.danger.active = false ∧ (controlStep s c).danger.active = true) ↔
      (¬ HistorySet s ∧ HistorySet (controlStep s c)) := by
  show ((danger s).blink.active = false ∧ (danger (controlStep s c)).blink.active = true) ↔
    (¬ (danger s).History ∧ (danger (controlStep s c)).History)
  cases effect_call s c with
  | kept hc hhistory hblink =>
      rw [hblink, hhistory]
      exact ⟨fun ⟨hidle, hactive⟩ => absurd (hidle.symm.trans hactive) Bool.false_ne_true,
        fun ⟨hbefore, hafter⟩ => absurd hafter hbefore⟩
  | cleared hc hhistory hblink =>
      rw [hblink]
      exact ⟨fun ⟨_, hactive⟩ => absurd hactive Bool.false_ne_true,
        fun ⟨_, hafter⟩ => absurd hafter hhistory⟩
  | ticked hc hhistory hblink =>
      rw [hblink, hhistory]
      refine ⟨fun ⟨hidle, hactive⟩ => ?_, fun ⟨hbefore, hafter⟩ => absurd hafter hbefore⟩
      rw [nextBlink, if_pos hidle, hidle] at hactive
      exact absurd hactive Bool.false_ne_true
  | risen hc hbefore hafter hblink =>
      rw [hblink]
      exact ⟨fun _ => ⟨hbefore, hafter⟩,
        fun _ => ⟨Bool.eq_false_iff.mpr (fun hactive => hbefore (hs.history hactive)), rfl⟩⟩

/-- The sequence began `k` updates ago, and the trouble code has not been cleared since. -/
def Since (k : Nat) (s : BodyControlState) : Prop := HistorySet s ∧ s.danger = blinkAt k

theorem since_risen {s : BodyControlState} {c : ControlCall} (hbefore : ¬ HistorySet s)
    (hafter : HistorySet (controlStep s c)) : Since 1 (controlStep s c) := by
  cases effect_call s c with
  | kept hc hhistory hblink => exact absurd (hhistory.mp hafter) hbefore
  | cleared hc hhistory hblink => exact absurd hafter hhistory
  | ticked hc hhistory hblink => exact absurd (hhistory.mp hafter) hbefore
  | risen hc _ _ hblink => exact ⟨hafter, hblink⟩

/-- One call later. -/
theorem since_call {k : Nat} {s : BodyControlState} {c : ControlCall} (hs : Since k s)
    (hc : c ≠ .clearDtcHistory) : Since (k + updates [c]) (controlStep s c) := by
  obtain ⟨hset, hblink⟩ := hs
  cases effect_call s c with
  | kept hcall hhistory hkept =>
      have hupdates : updates [c] = 0 :=
        List.countP_singleton.trans (if_neg (by rw [hcall]; decide))
      exact hupdates ▸ ⟨hhistory.mpr hset, hkept.trans hblink⟩
  | cleared hcall _ _ => exact absurd hcall hc
  | ticked hcall hhistory hnext =>
      have hupdates : updates [c] = 1 := List.countP_singleton.trans (if_pos hcall)
      refine hupdates ▸ ⟨hhistory.mpr hset, hnext.trans ?_⟩
      exact (congrArg nextBlink hblink).trans (blinkAt_succ k)
  | risen _ hbefore _ _ => exact absurd hset hbefore

/-- Any number of calls later. -/
theorem since_calls {k : Nat} {s : BodyControlState} {fs : List ControlCall} (hs : Since k s)
    (hfs : .clearDtcHistory ∉ fs) : Since (k + updates fs) (run controlStep s fs) := by
  induction fs generalizing k s with
  | nil => exact hs
  | cons c fs ih =>
      rw [updates_cons, ← Nat.add_assoc]
      exact ih (since_call hs (List.ne_of_not_mem_cons hfs).symm)
        (List.not_mem_of_not_mem_cons hfs)

/-- The three phases in which a sequence is lit, by the updates since the call that started
    it. -/
def LitAfter (k : Nat) : Prop := k < 250 ∨ (501 ≤ k ∧ k < 752) ∨ (1003 ≤ k ∧ k < 1254)

theorem blinkAt_lit {k : Nat} (hk : k < 1505) :
    (blinkAt (k + 1)).active = true ∧ ((blinkAt (k + 1)).outputOn = true ↔ LitAfter k) := by
  have hactive : k + 1 < 1506 := by omega
  rw [blinkAt, if_pos hactive]
  refine ⟨rfl, ?_⟩
  show ((k + 1) / 251 % 2 == 0) = true ↔ _
  rw [beq_iff_eq, LitAfter]
  omega

/-- **The danger LED.**  After every call it follows the rule.  A sequence starts in the calls in
    which the history bit becomes set and in no others, and unless the trouble code is cleared it
    is lit in three phases, by the updates since that call, and over after the 1505th. -/
theorem danger_led (inp : BodyInputs) (cs : List ControlCall) :
    FollowsRule (controlRun inp cs) ∧
      ∀ c, let s := controlRun inp cs
        let t := controlStep s c
        (s.danger.active = false ∧ t.danger.active = true ↔ ¬ HistorySet s ∧ HistorySet t) ∧
          (¬ HistorySet s ∧ HistorySet t → ∀ fs : List ControlCall, .clearDtcHistory ∉ fs →
            let u := run controlStep t fs
            (updates fs < 1505 →
              u.danger.active = true ∧ (u.pins.dangerLed = true ↔ LitAfter (updates fs))) ∧
            (1505 ≤ updates fs →
              u.danger.active = false ∧ (u.pins.dangerLed = true ↔ SteadyOn u))) := by
  refine ⟨followsRule (consistent_run inp cs), fun c => ⟨starts_iff (consistent_run inp cs), ?_⟩⟩
  rintro ⟨hbefore, hafter⟩ fs hfs
  have hsince := since_calls (since_risen hbefore hafter) hfs
  rw [Nat.add_comm] at hsince
  have hrule : FollowsRule (run controlStep (controlStep (controlRun inp cs) c) fs) := by
    have hrun := followsRule (consistent_run inp (cs ++ c :: fs))
    rwa [controlRun, run_append] at hrun
  constructor
  · intro hshort
    obtain ⟨hactive, hlit⟩ := blinkAt_lit hshort
    rw [← hsince.2] at hactive hlit
    exact ⟨hactive, (hrule.blinking hactive) ▸ hlit⟩
  · intro hover
    have hidle : (run controlStep (controlStep (controlRun inp cs) c) fs).danger = idle :=
      hsince.2.trans (if_neg (by omega))
    have hactive := congrArg DangerBlink.active hidle
    exact ⟨hactive, hrule.steady hactive⟩

end DangerLed
