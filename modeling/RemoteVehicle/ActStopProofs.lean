import RemoteVehicle.ActWatch
import RemoteVehicle.ActFrameProofs

/-!
# ACT stop dominance — a stop order against two controllers

Two controllers write the motor state every millisecond: the CAN command path, ten times,
and after it the diagnostic routines.  The invariant `StopInv` says what survives both:
when the latest `ActCan_Update100us` has seen a stop order and no motor test is running,
the motor is stopped.  The motor test is the only exception, and a deliberate one: the
source calls `UdsDiag_Update1ms` between the CAN update and the PWM cycle so that routines
can drive.
-/

namespace ActStop

open Runs CanFrame ActMotor ActServo ActState ActUdsDiag ActCan ActLoop ActSpec ActFrame
open ActWatch HeldCommand

/-- The invariant of watched runs. -/
structure StopInv (s : ActMachine) (w : Watch) : Prop where
  counts : Counts actCanCmdTimeout100usTicks (actLatch s.act) w.held
  ticked : ∀ c n, w.held.last = some (c, n + 1) → w.atTick = w.held
  boot : InBoot s.pc → s.act.uds.routineState = .none ∧ s.act.motor.motorState = .stop
  stop : StopOrdered w.atTick → s.act.uds.routineState ≠ .motorTest →
    s.act.motor.motorState = .stop
  test : s.pc = .motorUpdate → s.act.uds.routineState = .motorTest →
    s.act.motor.motorState = .forward

/-- It holds at reset: nothing accepted, no routine, motor stopped. -/
theorem stopInv_reset (r : ActReset) : StopInv (actReset r) Watch.empty :=
  have htracks : Tracks actCanCmdTimeout100usTicks actDecode (actLatch (actReset r).act)
      Held.empty := tracks_empty rfl
  ⟨htracks.counts, fun c n h => absurd h (by simp [Watch.empty, Held.empty]),
    fun _ => ⟨rfl, rfl⟩, fun _ _ => rfl, fun h => absurd h (by simp [actReset])⟩

/-- A step that leaves CAN path, outputs and routine alone keeps the invariant, the boot
    part and the motor update position apart. -/
theorem stopInv_keeps {s : ActMachine} {w : Watch} {pc : ActPc} {t : Act} {d : Nat}
    (h : StopInv s w) (hk : KeepsControl s.act t) (hpc : InBoot pc → InBoot s.pc)
    (hm : pc ≠ .motorUpdate) : StopInv ⟨pc, t⟩ { w with driven := d } := by
  have hlatch : actLatch t = actLatch s.act := by
    simp only [actLatch, hk.can, hk.output]
  refine ⟨?_, h.ticked, ?_, ?_, fun h' => absurd h' hm⟩
  · show Counts _ (actLatch t) w.held
    rw [hlatch]
    exact h.counts
  · intro hb
    obtain ⟨hr, hmot⟩ := h.boot (hpc hb)
    exact ⟨hk.uds.1.trans hr, hk.motorState.trans hmot⟩
  · intro hs hr
    have hr' : s.act.uds.routineState ≠ .motorTest := fun hc => hr (hk.uds.1.trans hc)
    exact hk.motorState.trans (h.stop hs hr')

/-- **A receive interrupt keeps the invariant.** -/
theorem stopInv_rxIsr {s : ActMachine} {w : Watch} (h : StopInv s w) (m : CanMessage) :
    StopInv (actStep s (.rxIsr m)) (run Watch.step w (watchOps s (.rxIsr m))) := by
  obtain ⟨hout, hroutine, hmotor⟩ := rxIsr_output m s.act
  have hstate : (actCanRxIsrHandler m s.act).motor.motorState = s.act.motor.motorState := by
    rw [hmotor]
  have hboot : InBoot s.pc → (actCanRxIsrHandler m s.act).uds.routineState = .none ∧
      (actCanRxIsrHandler m s.act).motor.motorState = .stop := by
    intro hb
    rw [hroutine, hstate]
    exact h.boot hb
  have htest : s.pc = .motorUpdate →
      (actCanRxIsrHandler m s.act).uds.routineState = .motorTest →
      (actCanRxIsrHandler m s.act).motor.motorState = .forward := by
    intro hpc hr
    rw [hstate]
    exact h.test hpc (hroutine.symm.trans hr)
  have hstop : StopOrdered w.atTick →
      (actCanRxIsrHandler m s.act).uds.routineState ≠ .motorTest →
      (actCanRxIsrHandler m s.act).motor.motorState = .stop := by
    intro ho hr
    rw [hstate]
    exact h.stop ho (by rw [← hroutine]; exact hr)
  rcases hc : accepted m with _ | c
  · -- a refused frame is no event of the held command
    have hops : watchOps s (.rxIsr m) = [] := by simp only [watchOps, hc]; rfl
    rw [hops]
    refine ⟨?_, h.ticked, hboot, hstop, htest⟩
    have hlatch : actLatch (actCanRxIsrHandler m s.act) = actLatch s.act := by
      rcases rxIsr_cases m s.act with ⟨c, hc', -⟩ | ⟨-, hs | hs⟩
      · exact absurd (hc.symm.trans hc') (by simp)
      · rw [hs]; rfl
      · rw [hs]; rfl
    show Counts _ (actLatch (actCanRxIsrHandler m s.act)) w.held
    rw [hlatch]
    exact h.counts
  · -- an accepted one has been seen by no tick yet
    have hops : watchOps s (.rxIsr m) = [.accept c] := by simp only [watchOps, hc]; rfl
    rw [hops]
    refine ⟨?_, ?_, hboot, hstop, htest⟩
    · show Counts _ (actLatch (actCanRxIsrHandler m s.act)) (w.held.step (.accept c))
      rw [rxIsr_accepted hc]
      exact counts_accept (actLatch s.act) w.held c
    · intro d n hd
      exact absurd (Prod.mk.inj (Option.some.inj hd)).2 (by omega)

/-- **An update keeps the invariant**: it obeys the stop orders of this very tick. -/
theorem stopInv_update {s : ActMachine} {w : Watch} (h : StopInv s w) {pc : ActPc}
    (hb : ¬ InBoot pc) (hm : pc ≠ .motorUpdate) :
    StopInv ⟨pc, actCanUpdate100us s.act⟩ (w.step .tick) := by
  have hcounts := h.counts
  have htick := actLatch_update s.act
  refine ⟨?_, fun c n _ => rfl, fun hb' => absurd hb' hb, ?_, fun h' => absurd h' hm⟩
  · show Counts _ (actLatch (actCanUpdate100us s.act)) (w.held.step .tick)
    rw [htick]
    exact counts_tick hcounts
  · intro ho hr
    have hmotor : (actCanUpdate100us s.act).motor.motorState =
        ((actLatch s.act).tick actCanCmdTimeout100usTicks actSafe actDecode).out.motorState := by
      rw [← htick]; rfl
    show (actCanUpdate100us s.act).motor.motorState = .stop
    rw [hmotor]
    rcases hcounts.tick_cases actSafe actDecode with ⟨-, hout⟩ | ⟨c, n, hl, hn, hf, hout⟩
    · -- timed out: the safe command is the stop
      rw [hout]; rfl
    · have hc : OrdersStop c := by
        have ho' : StopOrdered (w.held.step .tick) := ho
        simp only [StopOrdered, hf] at ho'
        exact ho'
      rcases hout with hout | ⟨hpos, hout⟩
      · -- the stop is applied at this tick
        rw [hout]
        exact actDecode_of_ordersStop hc
      · -- nothing new: the command was seen by the tick before, and obeyed since
        obtain ⟨k, rfl⟩ : ∃ k, n = k + 1 := ⟨n - 1, by omega⟩
        have hat := h.ticked c k hl
        have hlt : k + 1 < actCanCmdTimeout100usTicks := by omega
        have hprev : StopOrdered w.atTick := by
          rw [hat]
          simp only [StopOrdered, inForce_some hl hlt]
          exact hc
        have hroutine : s.act.uds.routineState ≠ .motorTest := by
          rw [← update_uds s.act]
          exact hr
        rw [hout]
        exact h.stop hprev hroutine

/-- **Diagnostics keep the invariant**: without a motor test they leave the motor where it
    was, or stop it. -/
theorem stopInv_uds {s : ActMachine} {w : Watch} (h : StopInv s w) (inp : ActInputs) :
    StopInv ⟨.motorUpdate, udsDiagUpdate1ms inp s.act⟩ w := by
  have hcan := udsUpdate_can inp s.act
  refine ⟨?_, h.ticked, fun hb => hb.elim, ?_, fun _ hr => udsUpdate_motorTest inp s.act hr⟩
  · exact h.counts.congr (congrArg ActCanState.cmdTimeoutTick100us hcan)
      (congrArg ActCanState.rx hcan) (congrArg ActCanState.rxUpdated hcan)
  · intro ho hr
    rcases udsUpdate_motor inp s.act hr with hm | ⟨hm, hr'⟩
    · exact hm
    · exact hm.trans (h.stop ho hr')

/-- Boot calls leave the CAN path alone and end with a stopped motor and no routine. -/
theorem bootCall_spec (c : BootCall) (s : Act) (hr : s.uds.routineState = .none)
    (hm : s.motor.motorState = .stop) :
    (bootCall c s).can = s.can ∧ (bootCall c s).uds.routineState = .none ∧
      (bootCall c s).motor.motorState = .stop := by
  cases c with
  | udsDiagInit => exact ⟨rfl, rfl, hm⟩
  | setDutyPercent => exact ⟨rfl, hr, hm⟩
  | coast => exact ⟨rfl, hr, rfl⟩
  | center => exact ⟨rfl, hr, hm⟩
  | resetCount => exact ⟨rfl, hr, hm⟩

/-- **A boot call keeps the invariant.** -/
theorem stopInv_boot {s : ActMachine} {w : Watch} (h : StopInv s w) {c : BootCall}
    (hpc : s.pc = .boot c) : StopInv ⟨afterBoot c, bootCall c s.act⟩ w := by
  have hboot : InBoot s.pc := by rw [hpc]; trivial
  obtain ⟨hr, hm⟩ := h.boot hboot
  obtain ⟨hcan, hr', hm'⟩ := bootCall_spec c s.act hr hm
  refine ⟨?_, h.ticked, fun _ => ⟨hr', hm'⟩, fun _ _ => hm', ?_⟩
  · exact h.counts.congr (congrArg ActCanState.cmdTimeoutTick100us hcan)
      (congrArg ActCanState.rx hcan) (congrArg ActCanState.rxUpdated hcan)
  · intro hmu
    cases c <;> exact absurd hmu (by simp [afterBoot])

/-- **A call of the main program keeps the invariant.** -/
theorem stopInv_call {s : ActMachine} {w : Watch} (h : StopInv s w) (inp : ActInputs) :
    StopInv (actStep s (.call inp)) (run Watch.step w (watchOps s (.call inp))) := by
  show StopInv (mainStep inp s) (run Watch.step w (callOps s.act (callAt s.pc)))
  rcases hc : callAt s.pc with c | c
  · have hpc := callAt_boot hc
    have hstep : mainStep inp s = ⟨afterBoot c, bootCall c s.act⟩ := by
      simp only [mainStep, nextPc, hpc, callAt]
    rw [hstep]
    exact stopInv_boot h hpc
  · have hstep : mainStep inp s = ⟨nextPc s, loopCall inp c s.act⟩ := by
      simp only [mainStep, hc]
    rw [hstep]
    by_cases hcan : c = .canUpdate100us
    · subst hcan
      obtain ⟨i, hpc⟩ := callAt_canUpdate hc
      have hnext : nextPc s = .canUpdate (i + 1) ∨ nextPc s = .udsUpdate := by
        simp only [nextPc, hpc]
        split
        · exact Or.inl rfl
        · exact Or.inr rfl
      rcases hnext with hnext | hnext
      · rw [hnext]
        exact stopInv_update h (fun hb => hb.elim) (by simp)
      · rw [hnext]
        exact stopInv_update h (fun hb => hb.elim) (by simp)
    · by_cases huds : c = .udsUpdate1ms
      · subst huds
        have hpc := callAt_udsUpdate hc
        have hnext : nextPc s = .motorUpdate := by simp only [nextPc, hpc]
        rw [hnext]
        exact stopInv_uds h inp
      · -- no other call reaches the latch or the orders of the motor
        obtain ⟨d, hd⟩ := callOps_quiet s.act w hcan
        rw [hd]
        refine stopInv_keeps h (loopCall_quiet inp c s.act hcan huds) inBoot_of_next ?_
        intro hm
        rw [nextPc_motorUpdate hm] at hc
        exact huds (Sum.inr.inj hc).symm

/-- **Step lemma.** -/
theorem stopInv_step {s : ActMachine} {w : Watch} (h : StopInv s w) (e : ActEvent) :
    StopInv (actStep s e) (run Watch.step w (watchOps s e)) := by
  cases e with
  | rxIsr m => exact stopInv_rxIsr h m
  | call inp => exact stopInv_call h inp

/-- **Run lemma.** -/
theorem stopInv_run (r : ActReset) (es : List ActEvent) :
    StopInv (watchRun r es).1 (watchRun r es).2 :=
  run_invariant (fun p : ActMachine × Watch => StopInv p.1 p.2)
    (fun _ e hp => stopInv_step hp e) (stopInv_reset r) es

/-! ## The law and its exception -/

/-- **STOP DOMINANCE.**  In every run from reset, with frames of any content between any two calls:
    at every `MotorControl_Update` of `App_Update1ms`, a stop order among what the last
    `ActCan_Update100us` had to act on keeps the motor stopped, unless the motor test is
    running at that call — and a motor test that is running drives forward. -/
theorem stop_dominance (r : ActReset) (es : List ActEvent)
    (hpc : (watchRun r es).1.pc = .motorUpdate) :
    (StopOrdered (watchRun r es).2.atTick →
      (watchRun r es).1.act.uds.routineState ≠ .motorTest →
      (watchRun r es).1.act.motor.motorState = .stop) ∧
    ((watchRun r es).1.act.uds.routineState = .motorTest →
      (watchRun r es).1.act.motor.motorState = .forward) :=
  ⟨(stopInv_run r es).stop, (stopInv_run r es).test hpc⟩

/-! ## The two ways around a stop order -/

/-- `n` calls of the main program with nothing received. -/
def calls (n : Nat) : List ActEvent := List.replicate n (.call restInputs)

/-- After the boot phase a forced stop arrives, then the requests that start the motor
    test; the run ends before the PWM cycle of the iteration that serves the second one. -/
def motorTestRun : List ActEvent :=
  calls 955 ++ [.rxIsr forceStopFrame, .rxIsr sessionFrame] ++ calls 16 ++
    [.rxIsr motorTestFrame] ++ calls 11

/-- After the boot phase a drive command is applied; a brake command arrives after the last
    CAN update of the iteration; the run ends before its PWM cycle. -/
def lateBrakeRun : List ActEvent :=
  calls 955 ++ [.rxIsr driveLeftFrame] ++ calls 10 ++ [.rxIsr brakeFrame] ++ calls 1

/-- **A stop order alone does not stop the motor.**  The motor test drives against a forced
    stop that the last update has seen; and a brake command that comes too late for the
    last update is not obeyed in the same millisecond. -/
theorem stop_dominance_fails :
    (¬ ∀ (r : ActReset) (es : List ActEvent), (watchRun r es).1.pc = .motorUpdate →
      StopOrdered (watchRun r es).2.held →
      (watchRun r es).1.act.motor.motorState = .stop) ∧
    ((watchRun restReset motorTestRun).1.pc = .motorUpdate ∧
      StopOrdered (watchRun restReset motorTestRun).2.atTick ∧
      (watchRun restReset motorTestRun).1.act.motor.motorState = .forward) ∧
    ((watchRun restReset lateBrakeRun).1.pc = .motorUpdate ∧
      (watchRun restReset lateBrakeRun).1.act.uds.routineState = .none ∧
      StopOrdered (watchRun restReset lateBrakeRun).2.held ∧
      (watchRun restReset lateBrakeRun).1.act.motor.motorState = .forward) := by
  refine ⟨?_, by decide +kernel, by decide +kernel⟩
  intro h
  obtain ⟨es, hpc, hstop, hforward⟩ : ∃ es, (watchRun restReset es).1.pc = .motorUpdate ∧
      StopOrdered (watchRun restReset es).2.held ∧
      (watchRun restReset es).1.act.motor.motorState = .forward :=
    ⟨motorTestRun, by decide +kernel⟩
  have hstopped := h restReset es hpc hstop
  rw [hforward] at hstopped
  exact absurd hstopped (by simp)

/-- One iteration after the late brake command the law applies to it. -/
theorem stop_dominance_next_iteration :
    (watchRun restReset (lateBrakeRun ++ calls 16)).1.act.motor.motorState = .stop :=
  (stop_dominance restReset (lateBrakeRun ++ calls 16) (by decide +kernel)).1
    (by decide +kernel) (by decide +kernel)

end ActStop
