import RemoteVehicle.ActWaveform
import RemoteVehicle.Runs

/-!
# Timing of the ACT outputs

* `sum_delayUs`: the waits of `delayUs` add up to its argument.
* `pwmCycle_wave`: one PWM cycle raises each channel for its own high time and lowers it for
  the rest of the 1000 us.
* `motorUpdate_wave`, `servoPulse_wave`: the waveforms of `MotorControl_Update` and of
  `Servo_SendOnePulse`.
* `output_waveforms` puts them together for any setters and any pulse.
-/

namespace OutputWaveform

open Runs Waveform Driver ActMotor ActServo ActSensors ActWaveform

/-! ## Waits -/

theorem sum_delayUs (us : Nat) : (delayUs us).sum = us := by
  fun_induction delayUs us with
  | case1 us hstep ih =>
      rw [List.sum_cons, ih]
      omega
  | case2 us hstep hpos => exact List.sum_singleton
  | case3 us hstep hpos =>
      have hzero : us = 0 := by omega
      rw [hzero]
      rfl

theorem wave_sliced_delay (us : Nat) (p : MotorPins) :
    motorDriver.wave p (sliced (.delayUs us)) = List.replicate us p ∧
      motorDriver.final p (sliced (.delayUs us)) = p := by
  obtain ⟨hwave, hfinal⟩ :=
    wave_waits motorDriver MotorAction.delayUs (fun _ => rfl) (fun _ _ => rfl) (delayUs us) p
  rw [sum_delayUs] at hwave
  exact ⟨hwave, hfinal⟩

/-! ## Slicing the waits of a program -/

/-- A wait holds the pins, a write is at once. -/
theorem wave_sliced (a : MotorAction) (p : MotorPins) :
    motorDriver.wave p (sliced a) =
        List.replicate (motorDriver.wait a) (motorDriver.write p a) ∧
      motorDriver.final p (sliced a) = motorDriver.write p a := by
  cases a with
  | delayUs us => exact wave_sliced_delay us p
  | _ => exact ⟨rfl, rfl⟩

/-- **Slicing changes no wave.** -/
theorem wave_slices (as : List MotorAction) (p : MotorPins) :
    motorDriver.wave p (slices as) = motorDriver.wave p as ∧
      motorDriver.final p (slices as) = motorDriver.final p as := by
  induction as generalizing p with
  | nil => exact ⟨rfl, rfl⟩
  | cons a as ih =>
      obtain ⟨hwave, hfinal⟩ := wave_sliced a p
      obtain ⟨ihwave, ihfinal⟩ := ih (motorDriver.write p a)
      have hcons : slices (a :: as) = sliced a ++ slices as := List.flatMap_cons
      constructor
      · rw [hcons, wave_append, hwave, hfinal, ihwave, wave_cons]
      · rw [hcons, final_append, hfinal, ihfinal, final_cons]

/-! ## One PWM cycle -/

theorem highTimeUs_eq (duty : UInt32) : highTimeUs duty = 10 * min duty.toNat 100 := by
  have hlimit : (motorLimitDutyPercent duty).val.toNat = min duty.toNat 100 := by
    rw [motorLimitDutyPercent]
    split
    · rename_i h
      rw [UInt32.lt_iff_toNat_lt] at h
      exact (min_eq_right (Nat.le_of_lt h)).symm
    · rename_i h
      rw [UInt32.lt_iff_toNat_lt, Nat.not_lt] at h
      exact (min_eq_left h).symm
  rw [highTimeUs, hlimit, motorPwmPeriodUs]
  omega

/-- A wait that is left out when it is zero. -/
theorem wave_ifPositive (us : Nat) (p : MotorPins) :
    motorDriver.wave p (ifPositive us (.delayUs us)) = List.replicate us p ∧
      motorDriver.final p (ifPositive us (.delayUs us)) = p := by
  rw [ifPositive]
  split
  · exact ⟨List.append_nil _, rfl⟩
  · have hzero : us = 0 := by omega
    rw [hzero]
    exact ⟨rfl, rfl⟩

theorem wave_restOfPeriod {us : Nat} (h : us ≤ 1000) (p : MotorPins) :
    motorDriver.wave p (restOfPeriod us) = List.replicate (1000 - us) p ∧
      motorDriver.final p (restOfPeriod us) = p := by
  rw [restOfPeriod, motorPwmPeriodUs]
  split
  · exact ⟨List.append_nil _, rfl⟩
  · have hfull : 1000 - us = 0 := by omega
    rw [hfull]
    exact ⟨rfl, rfl⟩

/-- What the waits of a cycle make of pins that are high for a time to be high. -/
structure Cycle (as : List MotorAction) (p : MotorPins) (hA hB : Nat) : Prop where
  channelA : (motorDriver.wave p as).map MotorPins.pwmA =
    List.replicate hA p.pwmA ++ List.replicate (1000 - hA) false
  channelB : (motorDriver.wave p as).map MotorPins.pwmB =
    List.replicate hB p.pwmB ++ List.replicate (1000 - hB) false
  low : (motorDriver.final p as).pwmA = false ∧ (motorDriver.final p as).pwmB = false

/-- Two runs of equal levels are one. -/
theorem replicate_split {x y : Nat} (hxy : x ≤ y) (hy : y ≤ 1000) (b : Bool) :
    List.replicate (y - x) b ++ List.replicate (1000 - y) b = List.replicate (1000 - x) b := by
  have hsum : y - x + (1000 - y) = 1000 - x := by omega
  rw [List.replicate_append_replicate, hsum]

theorem replicate_join {x y : Nat} (hxy : x ≤ y) (b : Bool) :
    List.replicate x b ++ List.replicate (y - x) b = List.replicate y b := by
  rw [List.replicate_append_replicate, Nat.add_sub_of_le hxy]

/-- Both channels are lowered at once. -/
theorem cycle_same {h : Nat} (hle : h ≤ 1000) (p : MotorPins) :
    Cycle (ifPositive h (.delayUs h) ++ .setPwmLowBoth :: restOfPeriod h) p h h := by
  obtain ⟨hwave, hfinal⟩ := wave_ifPositive h p
  obtain ⟨hrest, hlast⟩ := wave_restOfPeriod hle (p.write .setPwmLowBoth)
  have hall : motorDriver.wave p (ifPositive h (.delayUs h) ++ .setPwmLowBoth :: restOfPeriod h) =
      List.replicate h p ++ List.replicate (1000 - h) (p.write .setPwmLowBoth) := by
    rw [wave_append, hwave, hfinal, wave_write motorDriver rfl]
    exact congrArg _ hrest
  have hend : motorDriver.final p (ifPositive h (.delayUs h) ++ .setPwmLowBoth :: restOfPeriod h) =
      p.write .setPwmLowBoth := by
    rw [final_append, hfinal, final_cons]
    exact hlast
  constructor
  · rw [hall, List.map_append, List.map_replicate, List.map_replicate]
    rfl
  · rw [hall, List.map_append, List.map_replicate, List.map_replicate]
    rfl
  · rw [hend]
    exact ⟨rfl, rfl⟩

/-- One channel is lowered after `x`, the other after `y`. -/
theorem wave_two (x : Nat) {y : Nat} (hle : y ≤ 1000) (first second : MotorAction)
    (hfirst : motorDriver.wait first = 0) (hsecond : motorDriver.wait second = 0)
    (p : MotorPins) :
    motorDriver.wave p (ifPositive x (.delayUs x) ++
        first :: .delayUs (y - x) :: second :: restOfPeriod y) =
      List.replicate x p ++ (List.replicate (y - x) (p.write first) ++
        List.replicate (1000 - y) ((p.write first).write second)) ∧
    motorDriver.final p (ifPositive x (.delayUs x) ++
        first :: .delayUs (y - x) :: second :: restOfPeriod y) =
      (p.write first).write second := by
  obtain ⟨hwave, hfinal⟩ := wave_ifPositive x p
  obtain ⟨hrest, hlast⟩ := wave_restOfPeriod hle ((p.write first).write second)
  constructor
  · rw [wave_append, hwave, hfinal, wave_write motorDriver hfirst, wave_cons,
      wave_write motorDriver hsecond]
    exact congrArg (fun w => _ ++ (_ ++ w)) hrest
  · rw [final_append, hfinal, final_cons, final_cons, final_cons]
    exact hlast

theorem cycle_lowA {x y : Nat} (hxy : x ≤ y) (hy : y ≤ 1000) (p : MotorPins) :
    Cycle (ifPositive x (.delayUs x) ++
      .setPwmLowA :: .delayUs (y - x) :: .setPwmLowB :: restOfPeriod y) p x y := by
  obtain ⟨hwave, hfinal⟩ := wave_two x hy .setPwmLowA .setPwmLowB rfl rfl p
  constructor
  · rw [hwave, List.map_append, List.map_append, List.map_replicate, List.map_replicate,
      List.map_replicate]
    exact congrArg _ (replicate_split hxy hy false)
  · rw [hwave, List.map_append, List.map_append, List.map_replicate, List.map_replicate,
      List.map_replicate, ← List.append_assoc]
    exact congrArg (· ++ _) (replicate_join hxy p.pwmB)
  · rw [hfinal]
    exact ⟨rfl, rfl⟩

theorem cycle_lowB {x y : Nat} (hxy : x ≤ y) (hy : y ≤ 1000) (p : MotorPins) :
    Cycle (ifPositive x (.delayUs x) ++
      .setPwmLowB :: .delayUs (y - x) :: .setPwmLowA :: restOfPeriod y) p y x := by
  obtain ⟨hwave, hfinal⟩ := wave_two x hy .setPwmLowB .setPwmLowA rfl rfl p
  constructor
  · rw [hwave, List.map_append, List.map_append, List.map_replicate, List.map_replicate,
      List.map_replicate, ← List.append_assoc]
    exact congrArg (· ++ _) (replicate_join hxy p.pwmA)
  · rw [hwave, List.map_append, List.map_append, List.map_replicate, List.map_replicate,
      List.map_replicate]
    exact congrArg _ (replicate_split hxy hy false)
  · rw [hfinal]
    exact ⟨rfl, rfl⟩

/-- **The three orders of the high times.** -/
theorem cycle_waits {hA hB : Nat} (hAle : hA ≤ 1000) (hBle : hB ≤ 1000) (p : MotorPins) :
    Cycle (channelWaits hA hB).flatten p hA hB := by
  rw [channelWaits]
  split
  · rename_i heq
    subst heq
    simpa only [List.flatten_cons, List.flatten_nil, List.append_nil, List.singleton_append]
      using cycle_same hAle p
  · split
    · rename_i hlt
      simpa only [List.flatten_cons, List.flatten_nil, List.append_nil, List.singleton_append]
        using cycle_lowA hlt.le hBle p
    · rename_i hge
      simpa only [List.flatten_cons, List.flatten_nil, List.append_nil, List.singleton_append]
        using cycle_lowB (Nat.not_lt.mp hge) hAle p

/-- The pins after the raising writes of a cycle. -/
theorem final_raise (us : Nat) (act : MotorAction) (hwait : motorDriver.wait act = 0)
    (p : MotorPins) : motorDriver.wave p (ifPositive us act) = [] ∧
      motorDriver.final p (ifPositive us act) = if 0 < us then p.write act else p := by
  rw [ifPositive]
  split
  · exact ⟨wave_write motorDriver hwait p [], rfl⟩
  · exact ⟨rfl, rfl⟩

/-- **One PWM cycle**: each channel is high for its own high time first, then low. -/
theorem pwmCycle_wave (dutyA dutyB : UInt32) (p : MotorPins) :
    (motorDriver.wave p (motorSendPwmOneCycleChannels dutyA dutyB)).map MotorPins.pwmA =
        pulse (10 * min dutyA.toNat 100) (1000 - 10 * min dutyA.toNat 100) ∧
      (motorDriver.wave p (motorSendPwmOneCycleChannels dutyA dutyB)).map MotorPins.pwmB =
        pulse (10 * min dutyB.toNat 100) (1000 - 10 * min dutyB.toNat 100) ∧
      (motorDriver.final p (motorSendPwmOneCycleChannels dutyA dutyB)).pwmA = false ∧
      (motorDriver.final p (motorSendPwmOneCycleChannels dutyA dutyB)).pwmB = false := by
  rw [← highTimeUs_eq, ← highTimeUs_eq]
  have hAle : highTimeUs dutyA ≤ 1000 := by
    rw [highTimeUs_eq]
    omega
  have hBle : highTimeUs dutyB ≤ 1000 := by
    rw [highTimeUs_eq]
    omega
  rw [motorSendPwmOneCycleChannels]
  generalize highTimeUs dutyA = hA at hAle ⊢
  generalize highTimeUs dutyB = hB at hBle ⊢
  obtain ⟨hwaveA, hfinalA⟩ := final_raise hA .setPwmHighA rfl (p.write .setPwmLowBoth)
  obtain ⟨hwaveB, hfinalB⟩ := final_raise hB .setPwmHighB rfl
    (motorDriver.final (p.write .setPwmLowBoth) (ifPositive hA .setPwmHighA))
  generalize hp : motorDriver.final
    (motorDriver.final (p.write .setPwmLowBoth) (ifPositive hA .setPwmHighA))
    (ifPositive hB .setPwmHighB) = raised at hfinalB
  -- each channel is raised when it has a time to be high
  have hpA : raised.pwmA = decide (0 < hA) := by
    rw [hfinalB, hfinalA]
    split <;> split <;> simp_all [MotorPins.write]
  have hpB : raised.pwmB = decide (0 < hB) := by
    rw [hfinalB, hfinalA]
    split <;> split <;> simp_all [MotorPins.write]
  obtain ⟨hchA, hchB, hlow⟩ := cycle_waits hAle hBle raised
  have hwave : motorDriver.wave p (.setPwmLowBoth ::
      (ifPositive hA .setPwmHighA ++ ifPositive hB .setPwmHighB ++
        (channelWaits hA hB).flatten)) =
      motorDriver.wave raised (channelWaits hA hB).flatten := by
    rw [wave_write motorDriver rfl]
    show motorDriver.wave (p.write .setPwmLowBoth) _ = _
    rw [wave_append, wave_append, hwaveA, hwaveB, final_append, hp]
    rfl
  have hfinal : motorDriver.final p (.setPwmLowBoth ::
      (ifPositive hA .setPwmHighA ++ ifPositive hB .setPwmHighB ++
        (channelWaits hA hB).flatten)) =
      motorDriver.final raised (channelWaits hA hB).flatten := by
    rw [final_cons]
    show motorDriver.final (p.write .setPwmLowBoth) _ = _
    rw [final_append, final_append, hp]
  rw [hwave, hfinal, hchA, hchB, hpA, hpB, replicate_pos, replicate_pos]
  exact ⟨rfl, rfl, hlow⟩

/-! ## Motor updates -/

/-- The stored duties are the requested ones, limited. -/
def Stores (m : Motor) (q : Requested) : Prop :=
  m.leftDutyPercent = motorLimitDutyPercent q.left ∧
    m.rightDutyPercent = motorLimitDutyPercent q.right

theorem stores_setter {m : Motor} {q : Requested} (h : Stores m q) (c : MotorSetter) :
    Stores (applySetter m c) (request q c) := by
  cases c with
  | init => exact ⟨rfl, rfl⟩
  | setDutyPercent d => exact ⟨rfl, rfl⟩
  | setWheelDutyPercent l r => exact ⟨rfl, rfl⟩
  | _ => exact h

theorem stores_run {m : Motor} {q : Requested} (h : Stores m q) (cs : List MotorSetter) :
    Stores (run applySetter m cs) (run request q cs) := by
  induction cs generalizing m q with
  | nil => exact h
  | cons c cs ih => exact ih (stores_setter h c)

theorem total_eq {as : List MotorAction} {p : MotorPins} {high low : Nat} (f : MotorPins → Bool)
    (h : (motorDriver.wave p as).map f = pulse high low) :
    motorDriver.total as = high + low := by
  rw [← length_wave motorDriver p, ← List.length_map f, h, length_pulse]

/-- The two writes before a cycle take no time. -/
theorem wave_turning {dir : MotorAction} (hdir : motorDriver.wait dir = 0)
    (as : List MotorAction) (p : MotorPins) :
    ∃ q, motorDriver.wave p (.setBrakeOffBoth :: dir :: as) = motorDriver.wave q as ∧
      motorDriver.final p (.setBrakeOffBoth :: dir :: as) = motorDriver.final q as := by
  refine ⟨(p.write .setBrakeOffBoth).write dir, ?_, rfl⟩
  rw [wave_write motorDriver rfl, wave_write motorDriver hdir]
  rfl

/-- The waveform of an update that turns the motors. -/
structure Turns (m : Motor) (q : Requested) (p : MotorPins) : Prop where
  channelA : (motorDriver.wave p (slices (motorControlUpdate m))).map MotorPins.pwmA =
    pulse (10 * min q.right.toNat 100) (1000 - 10 * min q.right.toNat 100)
  channelB : (motorDriver.wave p (slices (motorControlUpdate m))).map MotorPins.pwmB =
    pulse (10 * min q.left.toNat 100) (1000 - 10 * min q.left.toNat 100)
  low : (motorDriver.final p (slices (motorControlUpdate m))).pwmA = false ∧
    (motorDriver.final p (slices (motorControlUpdate m))).pwmB = false

theorem turns_cycle {m : Motor} {q : Requested} (h : Stores m q) (dir : MotorAction)
    (hdir : motorDriver.wait dir = 0)
    (hupdate : motorControlUpdate m = .setBrakeOffBoth :: dir ::
      motorSendPwmOneCycleWheels m.leftDutyPercent.val m.rightDutyPercent.val)
    (p : MotorPins) : Turns m q p := by
  have hlimit : ∀ d : UInt32, min (motorLimitDutyPercent d).val.toNat 100 = min d.toNat 100 := by
    intro d
    have hd := highTimeUs_eq d
    have hs := highTimeUs_eq (motorLimitDutyPercent d).val
    have hsame : highTimeUs (motorLimitDutyPercent d).val = highTimeUs d := by
      rw [highTimeUs, motorLimitDutyPercent_val, highTimeUs]
    omega
  have hleft : min m.leftDutyPercent.val.toNat 100 = min q.left.toNat 100 := by
    rw [h.1, hlimit]
  have hright : min m.rightDutyPercent.val.toNat 100 = min q.right.toNat 100 := by
    rw [h.2, hlimit]
  obtain ⟨hwave, hfinal⟩ := wave_slices (motorControlUpdate m) p
  obtain ⟨p', hwave', hfinal'⟩ := wave_turning hdir
    (motorSendPwmOneCycleWheels m.leftDutyPercent.val m.rightDutyPercent.val) p
  obtain ⟨hA, hB, hlow⟩ := pwmCycle_wave m.rightDutyPercent.val m.leftDutyPercent.val p'
  rw [hright] at hA
  rw [hleft] at hB
  constructor
  · rw [hwave, hupdate, hwave']
    exact hA
  · rw [hwave, hupdate, hwave']
    exact hB
  · rw [hfinal, hupdate, hfinal']
    exact hlow

/-- **`MotorControl_Update`** takes 1000 us in every state and shows the requested duties
    when it turns the motors. -/
theorem motorUpdate_wave {m : Motor} {q : Requested} (h : Stores m q) :
    motorDriver.total (slices (motorControlUpdate m)) = 1000 ∧
      (m.motorState ≠ .stop → ∀ p, Turns m q p) := by
  have htotal : ∀ p, Turns m q p → motorDriver.total (slices (motorControlUpdate m)) = 1000 := by
    intro p hturns
    rw [total_eq MotorPins.pwmA hturns.channelA]
    omega
  cases hstate : m.motorState with
  | stop =>
      refine ⟨?_, fun hne => absurd rfl hne⟩
      have hupdate : motorControlUpdate m =
          [.setPwmLowBoth, .setBrakeOnBoth, .delayUs motorPwmPeriodUs] := by
        simp only [motorControlUpdate, hstate]
      obtain ⟨hwave, -⟩ := wave_slices (motorControlUpdate m) m.pins
      rw [← length_wave motorDriver m.pins, hwave, hupdate, length_wave]
      rfl
  | forward =>
      have hall : ∀ p, Turns m q p := turns_cycle h .setDirectionForwardBoth rfl (by
        simp only [motorControlUpdate, hstate])
      exact ⟨htotal m.pins (hall m.pins), fun _ => hall⟩
  | reverse =>
      have hall : ∀ p, Turns m q p := turns_cycle h .setDirectionReverseBoth rfl (by
        simp only [motorControlUpdate, hstate])
      exact ⟨htotal m.pins (hall m.pins), fun _ => hall⟩

/-! ## Servo pulses -/

/-- The servo pin over a program. -/
def servoWave (p : ActPins) (as : List ServoAction) : List Bool :=
  (servoDriver.wave p as).map ActPins.servo

theorem servoDelay_wave (us : Nat) (p : ActPins) :
    servoDriver.wave p (servoDelay us) = List.replicate us p ∧
      servoDriver.final p (servoDelay us) = p := by
  obtain ⟨hwave, hfinal⟩ :=
    wave_waits servoDriver ServoAction.delayUs (fun _ => rfl) (fun _ _ => rfl) (delayUs us) p
  rw [sum_delayUs] at hwave
  exact ⟨hwave, hfinal⟩

/-- What drives the motor leaves the servo pin alone. -/
theorem servoWave_motor (as : List MotorAction) (p : ActPins) :
    servoWave p (as.map .motor) = List.replicate (motorDriver.total as) p.servo ∧
      (servoDriver.final p (as.map .motor)).servo = p.servo := by
  induction as generalizing p with
  | nil => exact ⟨rfl, rfl⟩
  | cons a as ih =>
      obtain ⟨hwave, hfinal⟩ := ih { p with motor := p.motor.write a }
      refine ⟨?_, hfinal⟩
      have hcons : servoWave p ((a :: as).map .motor) =
          List.replicate (motorDriver.wait a) p.servo ++
            servoWave { p with motor := p.motor.write a } (as.map .motor) := by
        rw [servoWave, List.map_cons, wave_cons, List.map_append, List.map_replicate]
        rfl
      rw [hcons, hwave, List.replicate_append_replicate]
      rfl

theorem servoWave_append (p : ActPins) (as bs : List ServoAction) :
    servoWave p (as ++ bs) = servoWave p as ++ servoWave (servoDriver.final p as) bs := by
  rw [servoWave, wave_append, List.map_append]
  rfl

/-- A turn of the low loop takes a millisecond. -/
theorem lowMillisecond_wave {m : Motor}
    (hm : motorDriver.total (slices (motorControlUpdate m)) = 1000) (p : ActPins) :
    servoWave p (lowMillisecond m) = List.replicate 1000 p.servo ∧
      (servoDriver.final p (lowMillisecond m)).servo = p.servo := by
  obtain ⟨hwave, hfinal⟩ := servoWave_motor (slices (motorControlUpdate m)) p
  rw [hm] at hwave
  constructor
  · rw [lowMillisecond, servoWave_append, hwave]
    exact List.append_nil _
  · rw [lowMillisecond, final_append]
    exact hfinal

/-- **`delayLowUsWithMotorUpdate`** takes the time it is asked for. -/
theorem delayLow_wave {m : Motor} (hm : motorDriver.total (slices (motorControlUpdate m)) = 1000)
    (us : Nat) (p : ActPins) :
    servoWave p (delayLowUsWithMotorUpdate m us) = List.replicate us p.servo := by
  fun_induction delayLowUsWithMotorUpdate m us generalizing p with
  | case1 us hms ih =>
      obtain ⟨hwave, hfinal⟩ := lowMillisecond_wave hm p
      rw [servoWave_append, hwave, ih, hfinal, List.replicate_append_replicate,
        Nat.add_sub_of_le hms]
  | case2 us hms hpos =>
      rw [servoWave, (servoDelay_wave us p).1, List.map_replicate]
  | case3 us hms hpos =>
      have hzero : us = 0 := by omega
      rw [hzero]
      rfl

/-- A pulse request, limited. -/
theorem servoLimitPulseUs_val (pulseUs : Nat) :
    (servoLimitPulseUs pulseUs).val = max 900 (min pulseUs 1500) := by
  rw [servoLimitPulseUs]
  split
  · show 900 = _
    omega
  · split
    · show 1500 = _
      omega
    · show pulseUs = _
      omega

/-- **`Servo_SendOnePulse`**: high for the limited request, low for the rest of 20 ms. -/
theorem servoPulse_wave {m : Motor} (hm : motorDriver.total (slices (motorControlUpdate m)) = 1000)
    (pulseUs : UInt32) (p : ActPins) :
    servoWave p (servoSendOnePulse m pulseUs) =
      pulse (max 900 (min pulseUs.toNat 1500)) (20000 - max 900 (min pulseUs.toNat 1500)) := by
  obtain ⟨hwave, hfinal⟩ := servoDelay_wave (servoLimitPulseUs pulseUs.toNat).val
    { p with servo := true }
  have hhigh : servoWave p (.setPinHigh :: servoDelay (servoLimitPulseUs pulseUs.toNat).val) =
      List.replicate (servoLimitPulseUs pulseUs.toNat).val true := by
    rw [servoWave, wave_write servoDriver rfl]
    show (servoDriver.wave { p with servo := true } _).map ActPins.servo = _
    rw [hwave, List.map_replicate]
  have hlow : ∀ q : ActPins, servoWave q (.setPinLow :: delayLowUsWithMotorUpdate m
      (servoLowTimeUs (servoLimitPulseUs pulseUs.toNat))) =
      List.replicate (servoLowTimeUs (servoLimitPulseUs pulseUs.toNat)) false := by
    intro q
    rw [servoWave, wave_write servoDriver rfl]
    exact delayLow_wave hm _ { q with servo := false }
  rw [servoSendOnePulse, servoWave_append, hhigh, hlow, servoLowTimeUs, servoPeriodUs,
    servoLimitPulseUs_val]
  rfl

/-- **The waveforms of ACT.**  After any setter calls a motor update takes 1000 us, and when
    it turns the motors each channel is high for the first 10 us for each percent of its
    requested duty, low for the rest, and low at the end; a servo pulse is high for the
    request limited to [900, 1500] us and low for the rest of 20000 us. -/
theorem output_waveforms (m₀ : Motor) (cs : List MotorSetter) (p : MotorPins) :
    motorDriver.total (slices (motorControlUpdate (run applySetter (motorControlInit m₀) cs)))
        = 1000 ∧
      ((run applySetter (motorControlInit m₀) cs).motorState ≠ .stop →
        Turns (run applySetter (motorControlInit m₀) cs)
          (run request ⟨motorDefaultDutyPercent, motorDefaultDutyPercent⟩ cs) p) ∧
      ∀ (pulseUs : UInt32) (pins : ActPins),
        servoWave pins (servoSendOnePulse (run applySetter (motorControlInit m₀) cs) pulseUs) =
            pulse (max 900 (min pulseUs.toNat 1500)) (20000 - max 900 (min pulseUs.toNat 1500)) ∧
          servoDriver.total
            (servoSendOnePulse (run applySetter (motorControlInit m₀) cs) pulseUs) = 20000 := by
  have hstores : Stores (run applySetter (motorControlInit m₀) cs)
      (run request ⟨motorDefaultDutyPercent, motorDefaultDutyPercent⟩ cs) :=
    stores_run ⟨rfl, rfl⟩ cs
  generalize run applySetter (motorControlInit m₀) cs = m at hstores ⊢
  obtain ⟨htotal, hturns⟩ := motorUpdate_wave hstores
  refine ⟨htotal, fun hne => hturns hne p, fun pulseUs pins => ?_⟩
  have hwave := servoPulse_wave htotal pulseUs pins
  refine ⟨hwave, ?_⟩
  rw [← length_wave servoDriver pins, ← List.length_map ActPins.servo]
  show (servoWave pins _).length = 20000
  rw [hwave, length_pulse]
  omega

end OutputWaveform
