import RemoteVehicle.ActStopProofs

/-!
# ACT loss of command — how long the motor turns without a command

The command time-out is counted in `ActCan_Update100us` calls, ten per iteration of the
main loop.  The servo pulse of every twentieth iteration runs 18 or 19 more PWM cycles
without a single one of these calls, so two hundred counted milliseconds are more than two
hundred PWM cycles.

1. **Upper side.**  A last command that does not order the motor to turn is obeyed at the
   next update; until then at most `overrun` = 20 cycles can be driven by the command
   before it (`lossInv_run`).

2. **Lower side.**  After a last command that does order it, every lap of the loop drives
   at least one cycle and every twentieth lap at least 18 more (`lap`), so 120 laps —
   1200 ticks, far from the limit — are enough for more than 200 cycles.

`loss_bound_iff` puts the two sides together.
-/

namespace ActLoss

open Runs CanFrame ActMotor ActServo ActState ActUdsDiag ActCan ActLoop ActSpec ActFrame
open ActWatch ActStop HeldCommand

/-- The event leaves no diagnostic routine running. -/
def LoopNoRoutine (s : ActMachine) (e : ActEvent) : Prop :=
  (actStep s e).act.uds.routineState = .none

/-- The bound of 200 for a last accepted command `c`: over every run without routines, at
    most 200 driven PWM cycles since its acceptance. -/
def LossBound (c : ActCommand) : Prop :=
  ∀ (r : ActReset) (es : List ActEvent) (n : Nat),
    AllSteps actStep LoopNoRoutine (actReset r) es →
    (watchRun r es).2.held.last = some (c, n) → (watchRun r es).2.driven ≤ 200

/-! ## Upper side -/

/-- The most PWM cycles one servo pulse or the rest of a lap can drive. -/
def overrun : Nat := 20

/-- PWM cycles the main loop can still make before its next CAN update. -/
def remaining : ActPc → Nat
  | .boot _ => 0
  | .canUpdate _ => 0
  | .udsUpdate => overrun
  | .motorUpdate => overrun
  | .encoderUpdate => overrun - 1
  | .potUpdate => overrun - 1
  | .statusUpdate => overrun - 1
  | .steeringTimer => overrun - 1
  | .pulseHigh .loop => overrun - 1
  | .pulseLow .loop us => us / 1000
  | .pulseEncoder .loop us => us / 1000 - 1
  | .pulseHigh (.boot _) => 0
  | .pulseLow (.boot _) _ => 0
  | .pulseEncoder (.boot _) _ => 0

/-- A servo low phase fits into what `Steering_Update` started it with. -/
def PulseFits : ActPc → Prop
  | .pulseLow _ us => us ≤ 19100
  | .pulseEncoder _ us => us ≤ 19100
  | _ => True

theorem pulseFits_next {s : ActMachine} (h : PulseFits s.pc) : PulseFits (nextPc s) := by
  rcases hs : s.pc with c | i | _ | _ | _ | _ | _ | _ | k | ⟨k, us⟩ | ⟨k, us⟩
  · simp only [nextPc, hs]
    cases c <;> trivial
  · simp only [nextPc, hs]
    split <;> trivial
  · simp only [nextPc, hs]; trivial
  · simp only [nextPc, hs]; trivial
  · simp only [nextPc, hs]; trivial
  · simp only [nextPc, hs]; trivial
  · simp only [nextPc, hs]; trivial
  · simp only [nextPc, hs]
    split <;> trivial
  · simp only [nextPc, hs]
    exact (servoLowTimeUs_bounds _).2
  · rw [hs] at h
    simp only [nextPc, hs]
    split
    · exact h
    · rcases k with (_ | n) | _ <;> trivial
  · rw [hs] at h
    simp only [nextPc, hs]
    have hus : us ≤ 19100 := h
    show us - 1000 ≤ 19100
    omega

theorem remaining_le {pc : ActPc} (h : PulseFits pc) : remaining pc ≤ overrun := by
  cases pc with
  | pulseHigh k => cases k <;> simp [remaining, overrun]
  | pulseLow k us =>
      have hus : us ≤ 19100 := h
      cases k with
      | boot n => simp [remaining]
      | loop => simp only [remaining, overrun]; omega
  | pulseEncoder k us =>
      have hus : us ≤ 19100 := h
      cases k with
      | boot n => simp [remaining]
      | loop => simp only [remaining, overrun]; omega
  | _ => simp [remaining, overrun]

/-- PWM cycles of a call. -/
def cycles : BootCall ⊕ LoopCall → Nat
  | .inr .motorUpdate => 1
  | _ => 0

/-- **A call that is no CAN update uses up what remains**, in the main loop. -/
theorem remaining_next {s : ActMachine} (hb : ¬ InBoot s.pc)
    (hc : callAt s.pc ≠ .inr .canUpdate100us) :
    remaining (nextPc s) + cycles (callAt s.pc) ≤ remaining s.pc := by
  rcases hs : s.pc with c | i | _ | _ | _ | _ | _ | _ | k | ⟨k, us⟩ | ⟨k, us⟩
  · rw [hs] at hb
    exact absurd trivial hb
  · rw [hs] at hc
    exact absurd rfl hc
  · simp [nextPc, hs, callAt, cycles, remaining]
  · simp [nextPc, hs, callAt, cycles, remaining, overrun]
  · simp [nextPc, hs, callAt, cycles, remaining]
  · simp [nextPc, hs, callAt, cycles, remaining]
  · simp [nextPc, hs, callAt, cycles, remaining]
  · -- a pulse starts in one pass out of twenty
    by_cases ht : steeringUpdatePeriodMs ≤ s.act.steeringUpdateTimerMs + 1
    · simp [nextPc, hs, if_pos ht, callAt, cycles, remaining]
    · simp [nextPc, hs, if_neg ht, callAt, cycles, remaining]
  · rw [hs] at hb
    cases k with
    | boot n => exact absurd trivial hb
    | loop =>
        have hlow := (servoLowTimeUs_bounds
          (steeringUpdatePulseByKey s.act.steering).currentPulseUs).2
        simp only [nextPc, hs, callAt, cycles, remaining, overrun]
        omega
  · rw [hs] at hb
    cases k with
    | boot n => exact absurd trivial hb
    | loop =>
        -- each whole millisecond of the low time is one more motor cycle
        by_cases hus : 1000 ≤ us
        · simp only [nextPc, hs, callAt, if_pos hus, cycles, remaining]
          omega
        · simp [nextPc, hs, callAt, if_neg hus, cycles, remaining, afterPulse]
  · rw [hs] at hb
    cases k with
    | boot n => exact absurd trivial hb
    | loop =>
        simp only [nextPc, hs, callAt, cycles, remaining]
        omega

/-- In the boot phase nothing remains: the loop starts with a CAN update. -/
theorem remaining_boot {s : ActMachine} (hb : InBoot s.pc) : remaining (nextPc s) = 0 := by
  rcases hs : s.pc with c | i | _ | _ | _ | _ | _ | _ | k | ⟨k, us⟩ | ⟨k, us⟩
  · cases c <;> simp [nextPc, hs, afterBoot, remaining]
  all_goals rw [hs] at hb
  all_goals try exact hb.elim
  · cases k with
    | boot n => simp [nextPc, hs, remaining]
    | loop => exact hb.elim
  · cases k with
    | boot n =>
        by_cases hus : 1000 ≤ us
        · simp [nextPc, hs, if_pos hus, remaining]
        · cases n <;> simp [nextPc, hs, if_neg hus, afterPulse, remaining]
    | loop => exact hb.elim
  · cases k with
    | boot n => simp [nextPc, hs, remaining]
    | loop => exact hb.elim

/-- What the watch counts for a call is at most its PWM cycles, and nothing while the motor
    is stopped. -/
theorem callOps_driven (s : Act) (w : Watch) {k : BootCall ⊕ LoopCall}
    (h : k ≠ .inr .canUpdate100us) :
    ∃ d, run Watch.step w (callOps s k) = { w with driven := w.driven + d } ∧
      d ≤ cycles k ∧ (s.motor.motorState = .stop → d = 0) := by
  rcases k with c | c
  · exact ⟨0, rfl, Nat.zero_le _, fun _ => rfl⟩
  · cases c with
    | canUpdate100us => exact absurd rfl h
    | motorUpdate =>
        simp only [callOps]
        split
        · exact ⟨0, rfl, Nat.zero_le _, fun _ => rfl⟩
        · rename_i hm
          exact ⟨1, rfl, Nat.le_refl _, fun hs => absurd hs hm⟩
    | _ => exact ⟨0, rfl, Nat.zero_le _, fun _ => rfl⟩

/-- The invariant of runs without routines. -/
structure LossInv (s : ActMachine) (w : Watch) : Prop where
  stopInv : StopInv s w
  idle : s.act.uds.routineState = .none
  fits : PulseFits s.pc
  valid : ∀ c n, w.held.last = some (c, n) → actCanIsValidCommand c = true
  obeys : ∀ c n, w.held.last = some (c, n + 1) → ¬ Drives c → s.act.motor.motorState = .stop
  waiting : ∀ c, w.held.last = some (c, 0) → w.driven + remaining s.pc ≤ overrun
  settled : ∀ c n, w.held.last = some (c, n + 1) → ¬ Drives c → w.driven ≤ overrun

theorem lossInv_reset (r : ActReset) : LossInv (actReset r) Watch.empty := by
  have hnone : ∀ c n, Watch.empty.held.last ≠ some (c, n) := by
    intro c n h
    exact absurd h (by simp [Watch.empty, Held.empty])
  exact ⟨stopInv_reset r, rfl, trivial, fun c n h => absurd h (hnone c n),
    fun c n h => absurd h (hnone c _), fun c h => absurd h (hnone c _),
    fun c n h => absurd h (hnone c _)⟩

theorem lossInv_rxIsr {s : ActMachine} {w : Watch} (h : LossInv s w) (m : CanMessage) :
    LossInv (actStep s (.rxIsr m)) (run Watch.step w (watchOps s (.rxIsr m))) := by
  have hstop := stopInv_rxIsr h.stopInv m
  obtain ⟨-, hroutine, hmotor⟩ := rxIsr_output m s.act
  have hidle := hroutine.trans h.idle
  rcases hc : accepted m with _ | c
  · have hops : watchOps s (.rxIsr m) = [] := by simp only [watchOps, hc]; rfl
    rw [hops] at hstop ⊢
    refine ⟨hstop, hidle, h.fits, h.valid, ?_, h.waiting, h.settled⟩
    intro d n hd hnd
    exact (congrArg Motor.motorState hmotor).trans (h.obeys d n hd hnd)
  · have hops : watchOps s (.rxIsr m) = [.accept c] := by simp only [watchOps, hc]; rfl
    rw [hops] at hstop ⊢
    have hlast : ∀ d n, (some (c, 0) : Option (ActCommand × Nat)) = some (d, n) →
        c = d ∧ n = 0 := by
      intro d n hd
      obtain ⟨hcd, hn⟩ := Prod.mk.inj (Option.some.inj hd)
      exact ⟨hcd, hn.symm⟩
    refine ⟨hstop, hidle, h.fits, ?_, ?_, ?_, ?_⟩
    · intro d n hd
      rw [← (hlast d n hd).1]
      exact (accepted_inv hc).2.2.2.1
    · intro d n hd
      exact absurd (hlast d _ hd).2 (by omega)
    · -- no cycle yet: what may still come is the rest of the pulse under way
      intro d _
      show 0 + remaining s.pc ≤ overrun
      have hle := remaining_le h.fits
      omega
    · intro d n hd
      exact absurd (hlast d _ hd).2 (by omega)

/-- A tick obeys what it sees. -/
theorem lossInv_update {s : ActMachine} {w : Watch} (h : LossInv s w)
    (hstop : StopInv ⟨nextPc s, actCanUpdate100us s.act⟩ (w.step .tick)) :
    LossInv ⟨nextPc s, actCanUpdate100us s.act⟩ (w.step .tick) := by
  have hidle : (actCanUpdate100us s.act).uds.routineState = .none := by
    rw [update_uds]; exact h.idle
  have hmotor : (actCanUpdate100us s.act).motor.motorState =
      ((actLatch s.act).tick actCanCmdTimeout100usTicks actSafe actDecode).out.motorState := by
    rw [← actLatch_update]; rfl
  refine ⟨hstop, hidle, pulseFits_next h.fits, ?_, ?_, ?_, ?_⟩
  · intro c m hm
    obtain ⟨n, -, hl⟩ := step_tick_inv hm
    exact h.valid c n hl
  · intro c m hm hnd
    obtain ⟨n, hmn, hl⟩ := step_tick_inv hm
    show (actCanUpdate100us s.act).motor.motorState = .stop
    rw [hmotor]
    rcases h.stopInv.counts.tick_cases actSafe actDecode with ⟨-, hout⟩ | ⟨d, k, hl', -, -, hout⟩
    · -- timed out at this tick: the safe command stops the motor
      rw [hout]; rfl
    · obtain ⟨rfl, rfl⟩ := Prod.mk.inj (Option.some.inj (hl.symm.trans hl'))
      rcases hout with hout | ⟨hpos, hout⟩
      · -- applied at this tick
        rw [hout]
        exact not_not.mp hnd
      · -- seen by an earlier tick, and obeyed since
        obtain ⟨j, rfl⟩ : ∃ j, n = j + 1 := ⟨n - 1, by omega⟩
        rw [hout]
        exact h.obeys c j hl hnd
  · -- after a tick no accepted command is unseen
    intro c hm
    obtain ⟨n, hn, -⟩ := step_tick_inv hm
    exact absurd hn (by omega)
  · intro c m hm hnd
    obtain ⟨n, hmn, hl⟩ := step_tick_inv hm
    show w.driven ≤ overrun
    rcases Nat.eq_zero_or_pos n with rfl | hpos
    · have hw := h.waiting c hl
      omega
    · obtain ⟨j, rfl⟩ : ∃ j, n = j + 1 := ⟨n - 1, by omega⟩
      exact h.settled c j hl hnd

/-- The other calls drive at most what remains, and nothing once a stop is obeyed. -/
theorem lossInv_other {s t : ActMachine} {w : Watch} (h : LossInv s w)
    (hc : callAt s.pc ≠ .inr .canUpdate100us) (hpc : t.pc = nextPc s)
    (hidle : t.act.uds.routineState = .none)
    (hstate : s.act.motor.motorState = .stop → t.act.motor.motorState = .stop)
    (hstop : StopInv t (run Watch.step w (callOps s.act (callAt s.pc)))) :
    LossInv t (run Watch.step w (callOps s.act (callAt s.pc))) := by
  obtain ⟨d, hd, hcycles, hzero⟩ := callOps_driven s.act w hc
  rw [hd] at hstop ⊢
  have hfits : PulseFits t.pc := by rw [hpc]; exact pulseFits_next h.fits
  refine ⟨hstop, hidle, hfits, h.valid, ?_, ?_, ?_⟩
  · intro c n hl hnd
    exact hstate (h.obeys c n hl hnd)
  · intro c hl
    show w.driven + d + remaining t.pc ≤ overrun
    have hw := h.waiting c hl
    rw [hpc]
    by_cases hb : InBoot s.pc
    · -- in the boot phase the motor is stopped
      have hd0 := hzero (h.stopInv.boot hb).2
      have hrem := remaining_boot hb
      omega
    · have hnext := remaining_next hb hc
      omega
  · intro c n hl hnd
    show w.driven + d ≤ overrun
    have hd0 := hzero (h.obeys c n hl hnd)
    have hs := h.settled c n hl hnd
    omega

/-- **Step lemma.** -/
theorem lossInv_step {s : ActMachine} {w : Watch} (h : LossInv s w) (e : ActEvent)
    (hok : LoopNoRoutine s e) : LossInv (actStep s e) (run Watch.step w (watchOps s e)) := by
  cases e with
  | rxIsr m => exact lossInv_rxIsr h m
  | call inp =>
      have hstop := stopInv_call h.stopInv inp
      have hpc : (actStep s (.call inp)).pc = nextPc s := rfl
      by_cases hc : callAt s.pc = .inr .canUpdate100us
      · have hops : watchOps s (.call inp) = [.tick] := by simp only [watchOps, hc, callOps]
        have hact : actStep s (.call inp) = ⟨nextPc s, actCanUpdate100us s.act⟩ := by
          simp only [actStep, mainStep, hc, loopCall]
        rw [hops, hact] at hstop ⊢
        exact lossInv_update h hstop
      · refine lossInv_other h hc hpc hok ?_ hstop
        intro hs
        rcases hk : callAt s.pc with c | c
        · have hact : (actStep s (.call inp)).act = bootCall c s.act := by
            simp only [actStep, mainStep, hk]
          rw [hact]
          exact (bootCall_spec c s.act h.idle hs).2.2
        · have hact : (actStep s (.call inp)).act = loopCall inp c s.act := by
            simp only [actStep, mainStep, hk]
          rw [hact]
          have hcan : c ≠ .canUpdate100us := fun hcc => hc (by rw [hk, hcc])
          by_cases huds : c = .udsUpdate1ms
          · -- no routine runs before or after the call, so the motor keeps its state
            subst huds
            have hok' : (udsDiagUpdate1ms inp s.act).uds.routineState = .none := by
              rw [← show (actStep s (.call inp)).act = udsDiagUpdate1ms inp s.act from hact]
              exact hok
            have hout := udsUpdate_idle inp s.act h.idle hok'
            exact (congrArg ActOutput.motorState hout).trans hs
          · exact (loopCall_quiet inp c s.act hcan huds).motorState.trans hs

/-- **Run lemma.** -/
theorem lossInv_run {r : ActReset} {es : List ActEvent}
    (hes : AllSteps actStep LoopNoRoutine (actReset r) es) :
    LossInv (watchRun r es).1 (watchRun r es).2 :=
  run_simulation watchOps LossInv (fun _ _ e h hok => lossInv_step h e hok)
    (lossInv_reset r) hes

/-! ## Lower side -/

/-- An update with nothing new and no time-out only counts. -/
theorem update_quiet {s : Act} (hf : s.can.rxUpdated = false)
    (hc : s.can.cmdTimeoutTick100us + 1 < actCanCmdTimeout100usTicks) :
    actCanUpdate100us s = { s with can := { s.can with
      cmdTimeoutTick100us := s.can.cmdTimeoutTick100us + 1 } } := by
  have hlt : s.can.cmdTimeoutTick100us < actCanCmdTimeout100usTicks := by omega
  simp only [actCanUpdate100us, countTimeout, if_pos hlt]
  rw [if_neg (Nat.not_le.mpr hc), if_neg (by rw [hf]; simp)]

/-- Diagnostics without request and routine only monitor. -/
theorem udsUpdate_quiet {s : Act} (inp : ActInputs) (hp : s.uds.reqPending = false)
    (hr : s.uds.routineState = .none) :
    udsDiagUpdate1ms inp s = udsDiagUpdateDtcMonitor1ms s := by
  have hserve : udsDiagServeRequest inp.responseTxBusy s = s := by
    rw [udsDiagServeRequest, if_neg (by rw [hp]; simp)]
  rw [udsDiagUpdate1ms, hserve, udsDiagUpdateRoutine1ms, hr]

theorem dtcMonitor_timer (s : Act) :
    (udsDiagUpdateDtcMonitor1ms s).steeringUpdateTimerMs = s.steeringUpdateTimerMs := by
  simp only [udsDiagUpdateDtcMonitor1ms]
  split <;> rfl

theorem sendStatus_timer (busy : Bool) (s : Act) :
    (appSendStatusIfNeeded busy s).steeringUpdateTimerMs = s.steeringUpdateTimerMs := by
  simp only [appSendStatusIfNeeded, canCommSendActStatus]
  split
  · rfl
  · split <;> rfl

/-- The motor turns by command `c`, seen `m` ticks ago and not expired; nothing is pending;
    the steering timer is at `t` and at least `d` cycles were driven. -/
structure Rolling (c : ActCommand) (t m d : Nat) (p : ActMachine × Watch) : Prop where
  turning : p.1.act.motor.motorState ≠ .stop
  stale : p.1.act.can.rxUpdated = false
  counter : p.1.act.can.cmdTimeoutTick100us = m
  pending : p.1.act.uds.reqPending = false
  idle : p.1.act.uds.routineState = .none
  timer : p.1.act.steeringUpdateTimerMs = t
  held : p.2.held.last = some (c, m)
  driven : d ≤ p.2.driven

/-- The next call of the main program with nothing received and a hardware at rest. -/
def quietCall : ActEvent := .call restInputs

theorem watchStep_loop {p : ActMachine × Watch} {k : LoopCall}
    (hk : callAt p.1.pc = .inr k) :
    watchStep p quietCall = (⟨nextPc p.1, loopCall restInputs k p.1.act⟩,
      run Watch.step p.2 (callOps p.1.act (.inr k))) := by
  simp only [watchStep, withSpec, actStep, quietCall, mainStep, watchOps, hk]

/-- A CAN update with the command still in force is one tick. -/
theorem rolling_canUpdate {c : ActCommand} {t m d : Nat} {p : ActMachine × Watch}
    (h : Rolling c t m d p) (hk : callAt p.1.pc = .inr .canUpdate100us)
    (hm : m + 1 < actCanCmdTimeout100usTicks) :
    Rolling c t (m + 1) d (watchStep p quietCall) := by
  have hcount : p.1.act.can.cmdTimeoutTick100us + 1 < actCanCmdTimeout100usTicks := by
    rw [h.counter]; exact hm
  rw [watchStep_loop hk]
  show Rolling c t (m + 1) d (⟨nextPc p.1, actCanUpdate100us p.1.act⟩, p.2.step .tick)
  rw [update_quiet h.stale hcount]
  exact ⟨h.turning, h.stale, congrArg (· + 1) h.counter, h.pending, h.idle, h.timer,
    step_tick_some h.held, h.driven⟩

/-- A PWM cycle is driven. -/
theorem rolling_motorUpdate {c : ActCommand} {t m d : Nat} {p : ActMachine × Watch}
    (h : Rolling c t m d p) (hk : callAt p.1.pc = .inr .motorUpdate) :
    Rolling c t m (d + 1) (watchStep p quietCall) := by
  rw [watchStep_loop hk]
  have hops : callOps p.1.act (.inr .motorUpdate) = [.driven] := if_neg h.turning
  rw [hops]
  exact ⟨h.turning, h.stale, h.counter, h.pending, h.idle, h.timer, h.held,
    Nat.add_le_add_right h.driven 1⟩

/-- The steering timer counts to twenty. -/
theorem rolling_steeringTimer {c : ActCommand} {t m d : Nat} {p : ActMachine × Watch}
    (h : Rolling c t m d p) (hk : callAt p.1.pc = .inr .steeringTimer) :
    Rolling c (if steeringUpdatePeriodMs ≤ t + 1 then 0 else t + 1) m d
      (watchStep p quietCall) := by
  rw [watchStep_loop hk]
  refine ⟨h.turning, h.stale, h.counter, h.pending, h.idle, ?_, h.held, h.driven⟩
  show (if steeringUpdatePeriodMs ≤ p.1.act.steeringUpdateTimerMs + 1 then 0
    else p.1.act.steeringUpdateTimerMs + 1) = _
  rw [h.timer]

/-- Every other call changes nothing of this. -/
theorem rolling_other {c : ActCommand} {t m d : Nat} {p : ActMachine × Watch}
    (h : Rolling c t m d p) {k : LoopCall} (hk : callAt p.1.pc = .inr k)
    (hcan : k ≠ .canUpdate100us) (htimer : k ≠ .steeringTimer) :
    Rolling c t m d (watchStep p quietCall) := by
  rw [watchStep_loop hk]
  have hkeep : KeepsControl p.1.act (loopCall restInputs k p.1.act) ∧
      (loopCall restInputs k p.1.act).steeringUpdateTimerMs =
        p.1.act.steeringUpdateTimerMs := by
    cases k with
    | canUpdate100us => exact absurd rfl hcan
    | steeringTimer => exact absurd rfl htimer
    | udsUpdate1ms =>
        -- with no request and no routine the call only monitors the trouble codes
        have hquiet : loopCall restInputs .udsUpdate1ms p.1.act =
            udsDiagUpdateDtcMonitor1ms p.1.act :=
          udsUpdate_quiet restInputs h.pending h.idle
        rw [hquiet]
        exact ⟨dtcMonitor_keeps _, dtcMonitor_timer _⟩
    | sendStatusIfNeeded => exact ⟨sendStatus_keeps _ _, sendStatus_timer _ _⟩
    | motorUpdate => exact ⟨loopCall_quiet restInputs _ _ hcan (by simp), rfl⟩
    | encoderUpdate1ms => exact ⟨loopCall_quiet restInputs _ _ hcan (by simp), rfl⟩
    | potUpdate1ms => exact ⟨loopCall_quiet restInputs _ _ hcan (by simp), rfl⟩
    | pulseHigh => exact ⟨loopCall_quiet restInputs _ _ hcan (by simp), rfl⟩
    | pulseRest us => exact ⟨loopCall_quiet restInputs _ _ hcan (by simp), rfl⟩
  obtain ⟨hkeep, htime⟩ := hkeep
  have hne : (Sum.inr k : BootCall ⊕ LoopCall) ≠ .inr .canUpdate100us :=
    fun he => hcan (Sum.inr.inj he)
  obtain ⟨j, hj, -, -⟩ := callOps_driven p.1.act p.2 hne
  rw [hj]
  have hcanEq := hkeep.can
  refine ⟨?_, ?_, ?_, hkeep.uds.2.trans h.pending, hkeep.uds.1.trans h.idle,
    htime.trans h.timer, h.held, Nat.le_add_right_of_le h.driven⟩
  · intro hs
    exact h.turning (hkeep.motorState.symm.trans hs)
  · exact (congrArg ActCanState.rxUpdated hcanEq).trans h.stale
  · exact (congrArg ActCanState.cmdTimeoutTick100us hcanEq).trans h.counter

/-- Where laps begin and end. -/
def AtLoopStart (c : ActCommand) (t m d : Nat) (p : ActMachine × Watch) : Prop :=
  p.1.pc = .canUpdate 0 ∧ Rolling c t m d p

/-- The rest of a lap's CAN updates. -/
theorem canUpdates {c : ActCommand} {t d : Nat} (j : Nat) :
    ∀ {m i : Nat} {p : ActMachine × Watch}, i + j + 1 = canUpdatesPerMs →
      m + j + 1 < actCanCmdTimeout100usTicks → p.1.pc = .canUpdate i → Rolling c t m d p →
      LeadsTo watchStep quietCall
        (fun q => q.1.pc = .udsUpdate ∧ Rolling c t (m + j + 1) d q) p := by
  induction j with
  | zero =>
      intro m i p hi hm hpc h
      -- the last of the ten updates leaves the for loop
      refine leadsTo_step (leadsTo_now ⟨?_, rolling_canUpdate h (by rw [hpc]; rfl) (by omega)⟩)
      show nextPc p.1 = .udsUpdate
      simp only [nextPc, hpc]
      rw [if_neg (by omega)]
  | succ j ih =>
      intro m i p hi hm hpc h
      have hnext : (watchStep p quietCall).1.pc = .canUpdate (i + 1) := by
        show nextPc p.1 = _
        simp only [nextPc, hpc]
        rw [if_pos (by omega)]
      have hstep := rolling_canUpdate h (by rw [hpc]; rfl) (by omega)
      have hlead := ih (by omega) (by omega) hnext hstep
      have harith : m + 1 + j + 1 = m + (j + 1) + 1 := by omega
      rw [harith] at hlead
      exact leadsTo_step hlead

/-- **The low phase of a servo pulse** drives a cycle for every full millisecond of it. -/
theorem pulseLow_drives {c : ActCommand} {t m : Nat} (n : Nat) :
    ∀ {us d : Nat} {p : ActMachine × Watch}, us / 1000 = n → p.1.pc = .pulseLow .loop us →
      Rolling c t m d p → LeadsTo watchStep quietCall (AtLoopStart c t m (d + n)) p := by
  induction n with
  | zero =>
      intro us d p hn hpc h
      -- less than a millisecond is left, and the motor is not driven in it
      have hlt : ¬ 1000 ≤ us := by omega
      have hk : callAt p.1.pc = .inr (.pulseRest us) := by
        rw [hpc]; simp only [callAt, if_neg hlt]
      refine leadsTo_step (leadsTo_now ⟨?_, rolling_other h hk (by simp) (by simp)⟩)
      show nextPc p.1 = .canUpdate 0
      simp only [nextPc, hpc, if_neg hlt]
      rfl
  | succ n ih =>
      intro us d p hn hpc h
      -- a whole millisecond: the motor, then the encoder, then the rest
      have hge : 1000 ≤ us := by omega
      have hk : callAt p.1.pc = .inr .motorUpdate := by
        rw [hpc]; simp only [callAt, if_pos hge]
      have hpc₁ : (watchStep p quietCall).1.pc = .pulseEncoder .loop us := by
        show nextPc p.1 = _
        simp only [nextPc, hpc, if_pos hge]
      have hroll₁ := rolling_motorUpdate h hk
      have hk₁ : callAt (watchStep p quietCall).1.pc = .inr .encoderUpdate1ms := by
        rw [hpc₁]; rfl
      have hpc₂ : (watchStep (watchStep p quietCall) quietCall).1.pc =
          .pulseLow .loop (us - 1000) := by
        show nextPc (watchStep p quietCall).1 = _
        simp only [nextPc, hpc₁]
      have hroll₂ := rolling_other hroll₁ hk₁ (by simp) (by simp)
      have hlead := ih (by omega) hpc₂ hroll₂
      have harith : d + 1 + n = d + (n + 1) := by omega
      rw [harith] at hlead
      exact leadsTo_step (leadsTo_step hlead)

/-- A call that changes nothing of this, as one step on the way. -/
theorem through {c : ActCommand} {t m d : Nat} {p : ActMachine × Watch} {pc : ActPc}
    {P : ActMachine × Watch → Prop} (h : Rolling c t m d p) (k : LoopCall)
    (hk : callAt p.1.pc = .inr k) (hcan : k ≠ .canUpdate100us) (htimer : k ≠ .steeringTimer)
    (hnext : nextPc p.1 = pc)
    (hrest : ∀ q : ActMachine × Watch, q.1.pc = pc → Rolling c t m d q →
      LeadsTo watchStep quietCall P q) : LeadsTo watchStep quietCall P p :=
  leadsTo_step (hrest _ hnext (rolling_other h hk hcan htimer))

/-- The calls of a lap from the diagnostics to the steering timer. -/
theorem lapMiddle {c : ActCommand} {t m d : Nat} {p : ActMachine × Watch}
    (hpc : p.1.pc = .udsUpdate) (h : Rolling c t m d p) :
    LeadsTo watchStep quietCall
      (fun q => q.1.pc = .steeringTimer ∧ Rolling c t m (d + 1) q) p := by
  have hnext : nextPc p.1 = .motorUpdate := by simp only [nextPc, hpc]
  refine through h .udsUpdate1ms (by rw [hpc]; rfl) (by simp) (by simp) hnext ?_
  intro q hq hrq
  have hmotor := rolling_motorUpdate hrq (by rw [hq]; rfl)
  have hpc' : (watchStep q quietCall).1.pc = .encoderUpdate := by
    show nextPc q.1 = _
    simp only [nextPc, hq]
  have hpot : nextPc (watchStep q quietCall).1 = .potUpdate := by simp only [nextPc, hpc']
  refine leadsTo_step (through hmotor .encoderUpdate1ms (by rw [hpc']; rfl) (by simp)
    (by simp) hpot ?_)
  intro u hu hru
  have hstatus : nextPc u.1 = .statusUpdate := by simp only [nextPc, hu]
  refine through hru .potUpdate1ms (by rw [hu]; rfl) (by simp) (by simp) hstatus ?_
  intro v hv hrv
  have htimer : nextPc v.1 = .steeringTimer := by simp only [nextPc, hv]
  refine through hrv .sendStatusIfNeeded (by rw [hv]; rfl) (by simp) (by simp) htimer ?_
  intro w hw hrw
  exact leadsTo_now ⟨hw, hrw⟩

theorem Rolling.mono {c : ActCommand} {t m d d' : Nat} {p : ActMachine × Watch}
    (h : Rolling c t m d p) (hd : d' ≤ d) : Rolling c t m d' p :=
  { h with driven := Nat.le_trans hd h.driven }

/-- What a lap adds to the cycles when the steering timer is at `t`. -/
def lapCycles (t : Nat) : Nat := if steeringUpdatePeriodMs ≤ t + 1 then 19 else 1

/-- The steering timer after a lap. -/
def lapTimer (t : Nat) : Nat := if steeringUpdatePeriodMs ≤ t + 1 then 0 else t + 1

/-- A lap after its CAN updates. -/
theorem lapRest {c : ActCommand} {t m d : Nat} {p : ActMachine × Watch}
    (hpc : p.1.pc = .udsUpdate) (h : Rolling c t m d p) :
    LeadsTo watchStep quietCall (AtLoopStart c (lapTimer t) m (d + lapCycles t)) p := by
  refine leadsTo_trans (lapMiddle hpc h) ?_
  rintro q ⟨hq, hrq⟩
  have hroll := rolling_steeringTimer hrq (by rw [hq]; rfl)
  have hnext : (watchStep q quietCall).1.pc =
      if steeringUpdatePeriodMs ≤ t + 1 then .pulseHigh .loop else .canUpdate 0 := by
    show nextPc q.1 = _
    simp only [nextPc, hq, hrq.timer]
  refine leadsTo_step ?_
  by_cases ht : steeringUpdatePeriodMs ≤ t + 1
  · rw [if_pos ht] at hroll hnext
    simp only [lapTimer, lapCycles, if_pos ht]
    have hlowPc : nextPc (watchStep q quietCall).1 = .pulseLow .loop (servoLowTimeUs
        (steeringUpdatePulseByKey (watchStep q quietCall).1.act.steering).currentPulseUs) := by
      simp only [nextPc, hnext]
    refine through hroll .pulseHigh (by rw [hnext]; rfl) (by simp) (by simp) hlowPc ?_
    intro u hu hru
    -- at least 18 full milliseconds are left after the high phase
    refine leadsTo_trans (pulseLow_drives _ rfl hu hru) ?_
    rintro v ⟨hv, hrv⟩
    have hlow := (servoLowTimeUs_bounds
      (steeringUpdatePulseByKey (watchStep q quietCall).1.act.steering).currentPulseUs).1
    exact leadsTo_now ⟨hv, hrv.mono (by omega)⟩
  · rw [if_neg ht] at hroll hnext
    simp only [lapTimer, lapCycles, if_neg ht]
    exact leadsTo_now ⟨hnext, hroll⟩

/-- **One lap.** -/
theorem lap {c : ActCommand} {t m d : Nat} {p : ActMachine × Watch}
    (hm : m + 10 < actCanCmdTimeout100usTicks) (h : AtLoopStart c t m d p) :
    LeadsTo watchStep quietCall (AtLoopStart c (lapTimer t) (m + 10) (d + lapCycles t)) p := by
  obtain ⟨hpc, hroll⟩ := h
  refine leadsTo_trans (canUpdates 9 (by rfl) hm hpc hroll) ?_
  rintro q ⟨hq, hrq⟩
  exact lapRest hq hrq

/-- **Many laps**: of any twenty in a row, one holds a servo pulse. -/
theorem laps {c : ActCommand} {m d : Nat} (n : Nat) :
    ∀ {t : Nat} {p : ActMachine × Watch}, m + 10 * n < actCanCmdTimeout100usTicks →
      t < steeringUpdatePeriodMs → AtLoopStart c t m d p →
      LeadsTo watchStep quietCall
        (fun q => ∃ u k, u < steeringUpdatePeriodMs ∧ u + 20 * k = t + n ∧
          AtLoopStart c u (m + 10 * n) (d + n + 18 * k) q) p := by
  induction n with
  | zero =>
      intro t p _ ht h
      exact leadsTo_now ⟨t, 0, ht, rfl, h⟩
  | succ n ih =>
      intro t p hm ht h
      refine leadsTo_trans (ih (by omega) ht h) ?_
      rintro q ⟨u, k, hu, hk, hq⟩
      refine leadsTo_trans (lap (by omega) hq) ?_
      rintro v ⟨hv, hrv⟩
      -- the lap whose timer is due holds a pulse, of eighteen cycles more
      by_cases hpulse : steeringUpdatePeriodMs ≤ u + 1
      · simp only [lapTimer, lapCycles, if_pos hpulse] at hrv
        simp only [steeringUpdatePeriodMs] at hu hpulse
        refine leadsTo_now ⟨0, k + 1, by decide, by omega, hv, ?_⟩
        have harith : m + 10 * n + 10 = m + 10 * (n + 1) := by omega
        rw [harith] at hrv
        exact hrv.mono (by omega)
      · simp only [lapTimer, lapCycles, if_neg hpulse] at hrv
        refine leadsTo_now ⟨u + 1, k, by omega, by omega, hv, ?_⟩
        have harith : m + 10 * n + 10 = m + 10 * (n + 1) := by omega
        rw [harith] at hrv
        exact hrv.mono (by omega)

/-! ## A run that breaks the bound -/

/-- Nothing is asked of the diagnostics. -/
def Unasked (s : ActMachine) : Prop :=
  s.act.uds.reqPending = false ∧ s.act.uds.routineState = .none

/-- A call of the main program or a command frame: no diagnostic request. -/
def NoRequest : ActEvent → Prop
  | .rxIsr m => (accepted m).isSome
  | .call _ => True

theorem unasked_step {s : ActMachine} {e : ActEvent} (h : Unasked s) (he : NoRequest e) :
    Unasked (actStep s e) := by
  cases e with
  | rxIsr m =>
      obtain ⟨c, hc⟩ := Option.isSome_iff_exists.mp he
      show Unasked { s with act := actCanRxIsrHandler m s.act }
      rw [rxIsr_accepted hc]
      exact h
  | call inp =>
      rcases hk : callAt s.pc with c | c
      · have hact : actStep s (.call inp) = ⟨nextPc s, bootCall c s.act⟩ := by
          simp only [actStep, mainStep, hk]
        rw [hact]
        cases c with
        | udsDiagInit => exact ⟨rfl, rfl⟩
        | _ => exact h
      · have hact : actStep s (.call inp) = ⟨nextPc s, loopCall inp c s.act⟩ := by
          simp only [actStep, mainStep, hk]
        rw [hact]
        by_cases hcan : c = .canUpdate100us
        · subst hcan
          show (actCanUpdate100us s.act).uds.reqPending = false ∧
            (actCanUpdate100us s.act).uds.routineState = .none
          rw [update_uds]
          exact h
        · by_cases huds : c = .udsUpdate1ms
          · subst huds
            show (udsDiagUpdate1ms inp s.act).uds.reqPending = false ∧
              (udsDiagUpdate1ms inp s.act).uds.routineState = .none
            rw [udsUpdate_quiet inp h.1 h.2]
            have hkeep := dtcMonitor_keeps s.act
            exact ⟨hkeep.uds.2.trans h.1, hkeep.uds.1.trans h.2⟩
          · have hkeep := loopCall_quiet inp c s.act hcan huds
            exact ⟨hkeep.uds.2.trans h.1, hkeep.uds.1.trans h.2⟩

/-- Without requests no routine ever runs. -/
theorem allSteps_noRequest {es : List ActEvent} {s : ActMachine} (h : Unasked s)
    (hes : ∀ e ∈ es, NoRequest e) : AllSteps actStep LoopNoRoutine s es := by
  induction es generalizing s with
  | nil => trivial
  | cons e es ih =>
      have hstep := unasked_step h (hes e (List.mem_cons_self ..))
      exact ⟨hstep.2, ih hstep fun f hf => hes f (List.mem_cons_of_mem e hf)⟩

/-- The frame that carries a command. -/
def commandFrame (c : ActCommand) : CanMessage :=
  fdMessage actCanCmdId actCanDlcIfx [c.accelRaw, c.steeringRaw, c.brakeRaw, c.gearRaw,
    c.controlModeRaw, c.safetyOverrideRaw]

theorem accepted_commandFrame {c : ActCommand} (h : actCanIsValidCommand c = true) :
    accepted (commandFrame c) = some c := by
  have hbytes : commandOfBytes (rxByte (commandFrame c)) = c := by
    rw [commandFrame, rxByte_fdMessage]
    rfl
  rw [accepted, hbytes]
  exact if_pos ⟨rfl, rfl, rfl, h⟩

theorem update_timer (s : Act) :
    (actCanUpdate100us s).steeringUpdateTimerMs = s.steeringUpdateTimerMs := by
  obtain ⟨_, _, _, hupdate⟩ := update_drives s
  rw [hupdate]

/-- The first update after a driving command sets the motor turning. -/
theorem rolling_first {c : ActCommand} {t : Nat} {p : ActMachine × Watch} (hd : Drives c)
    (hpc : p.1.pc = .canUpdate 0) (hp : Unasked p.1)
    (ht : p.1.act.steeringUpdateTimerMs = t) {m : CanMessage} (hm : accepted m = some c) :
    (watchStep (watchStep p (.rxIsr m)) quietCall).1.pc = .canUpdate 1 ∧
      Rolling c t 1 0 (watchStep (watchStep p (.rxIsr m)) quietCall) := by
  have hfirst : watchStep p (.rxIsr m) =
      (⟨p.1.pc, storeCommand c p.1.act⟩, p.2.step (.accept c)) := by
    simp only [watchStep, withSpec, actStep, watchOps, hm, rxIsr_accepted hm]
    rfl
  have hk : callAt (watchStep p (.rxIsr m)).1.pc = .inr .canUpdate100us := by
    rw [hfirst, hpc]; rfl
  have htick := actLatch_update (storeCommand c p.1.act)
  have hlatch : (actLatch (storeCommand c p.1.act)).tick actCanCmdTimeout100usTicks actSafe
      actDecode = ⟨1, false, c, actDecode c⟩ := rfl
  rw [hlatch] at htick
  have huds := update_uds (storeCommand c p.1.act)
  have htimer := update_timer (storeCommand c p.1.act)
  rw [watchStep_loop hk, hfirst]
  refine ⟨?_, ?_, ?_, ?_, ?_, ?_, ?_, rfl, Nat.zero_le _⟩
  · simp only [nextPc, hpc]
    rfl
  · -- were the motor stopped, the command would not drive
    intro hs
    have hout := congrArg (fun l => l.out.motorState) htick
    exact hd (hout.symm.trans hs)
  · exact congrArg Latch.fresh htick
  · exact congrArg Latch.counter htick
  · exact (congrArg UdsDiag.reqPending huds).trans hp.1
  · exact (congrArg UdsDiag.routineState huds).trans hp.2
  · exact htimer.trans ht

/-- Where the boot phase of a hardware at rest ends. -/
theorem boot_end :
    (watchRun restReset (calls 955)).1.pc = .canUpdate 0 ∧
      (watchRun restReset (calls 955)).1.act.uds.reqPending = false ∧
      (watchRun restReset (calls 955)).1.act.uds.routineState = .none ∧
      (watchRun restReset (calls 955)).1.act.steeringUpdateTimerMs = 0 := by
  decide +kernel

/-- **A driving command is followed too long.**  Accepted right after the boot phase and
    followed by nothing, it drives more than 200 cycles within its 2000 ticks. -/
theorem driving_overruns {c : ActCommand} (hv : actCanIsValidCommand c = true)
    (hd : Drives c) : ∃ k n, 200 < (watchRun restReset
        (calls 955 ++ .rxIsr (commandFrame c) :: calls k)).2.driven ∧
      (watchRun restReset (calls 955 ++ .rxIsr (commandFrame c) :: calls k)).2.held.last =
        some (c, n) := by
  have hbytes := accepted_commandFrame hv
  obtain ⟨hpc, hpend, hidle, htimer⟩ := boot_end
  have hunasked : Unasked (watchRun restReset (calls 955)).1 := ⟨hpend, hidle⟩
  obtain ⟨hpc₁, hroll⟩ := rolling_first hd hpc hunasked htimer hbytes
  have hlead : LeadsTo watchStep quietCall (fun q => ∃ n, 200 < q.2.driven ∧
      q.2.held.last = some (c, n))
      (watchStep (watchRun restReset (calls 955)) (.rxIsr (commandFrame c))) := by
    refine leadsTo_step (leadsTo_trans (canUpdates 8 (by rfl) (by decide) hpc₁ hroll) ?_)
    rintro q ⟨hq, hrq⟩
    refine leadsTo_trans (lapRest hq hrq) ?_
    intro u hu
    refine leadsTo_trans (laps 120 (by decide) (by decide) hu) ?_
    rintro v ⟨x, k, hx, hk, -, hrv⟩
    have hdriven := hrv.driven
    have htimer₁ : lapTimer 0 = 1 := by decide
    rw [htimer₁] at hk
    simp only [steeringUpdatePeriodMs] at hx
    -- 120 laps hold six pulses at least
    exact leadsTo_now ⟨_, by omega, hrv.held⟩
  obtain ⟨k, n, hcount, hheld⟩ := hlead
  refine ⟨k, n, ?_⟩
  have hrun : watchRun restReset (calls 955 ++ .rxIsr (commandFrame c) :: calls k) =
      run watchStep (watchStep (watchRun restReset (calls 955)) (.rxIsr (commandFrame c)))
        (List.replicate k quietCall) := by
    rw [watchRun, run_append, run_cons]
    rfl
  rw [hrun]
  exact ⟨hcount, hheld⟩

/-! ## The law, both sides -/

theorem noRequest_run {c : ActCommand} (hv : actCanIsValidCommand c = true) (k : Nat) :
    AllSteps actStep LoopNoRoutine (actReset restReset)
      (calls 955 ++ .rxIsr (commandFrame c) :: calls k) := by
  refine allSteps_noRequest ⟨rfl, rfl⟩ ?_
  intro e he
  rcases List.mem_append.mp he with he | he
  · rw [List.eq_of_mem_replicate he]
    trivial
  · rcases List.mem_cons.mp he with rfl | he
    · show (accepted (commandFrame c)).isSome
      rw [accepted_commandFrame hv]
      rfl
    · rw [List.eq_of_mem_replicate he]
      trivial

/-- **LOSS OF COMMAND.**  The bound of 200 driven PWM cycles after the last accepted command
    holds over every run without routines, each interrupt falling between two calls, exactly
    for the commands that do not order the motor to turn (or that no frame can deliver). -/
theorem loss_bound_iff (c : ActCommand) :
    LossBound c ↔ ¬ (actCanIsValidCommand c = true ∧ Drives c) := by
  constructor
  · rintro h ⟨hv, hd⟩
    obtain ⟨k, n, hcount, hheld⟩ := driving_overruns hv hd
    have hle := h restReset _ n (noRequest_run hv k) hheld
    omega
  · intro h r es n hes hheld
    have hinv := lossInv_run hes
    have hnd : ¬ Drives c := fun hd => h ⟨hinv.valid c n hheld, hd⟩
    rcases n with _ | n
    · have hw := hinv.waiting c hheld
      simp only [overrun] at hw
      omega
    · have hs := hinv.settled c n hheld hnd
      simp only [overrun] at hs
      omega

/-- **The failing run.**  Boot, one command to drive forward steering left, 2000 calls and
    nothing received: no routine runs, the command is still the last one and has driven
    more than 200 cycles. -/
theorem loss_bound_fails :
    (¬ ∀ c, LossBound c) ∧
    AllSteps actStep LoopNoRoutine (actReset restReset)
      (calls 955 ++ .rxIsr (commandFrame ⟨1, 1, 0, 3, 1, 0⟩) :: calls 2000) ∧
    200 < (watchRun restReset
      (calls 955 ++ .rxIsr (commandFrame ⟨1, 1, 0, 3, 1, 0⟩) :: calls 2000)).2.driven := by
  refine ⟨?_, noRequest_run (by decide) 2000, by decide +kernel⟩
  intro h
  have hv : actCanIsValidCommand ⟨1, 1, 0, 3, 1, 0⟩ = true := by decide
  obtain ⟨k, n, hcount, hheld⟩ := driving_overruns hv (by decide)
  have hle := h _ restReset _ n (noRequest_run hv k) hheld
  omega

end ActLoss
