import RemoteVehicle.BodyFrameProofs
import RemoteVehicle.FailHistory

/-!
# The trouble codes of ACT and BODY equal their history

ACT watches two conditions at every tick of `UdsDiag_Update1ms` and checks them every 3000
ticks; BODY measures a distance for its check.  Both count failed checks, confirm the code
at the third in a row, and both keep the current bit at a clear.

The status byte with its counter is a `FailHistory.Record` (`recordOf`), and the timers of
ACT with the record are a `FailHistory.Monitor`.  What is left to show about the code is
that one update is one tick (`c100Monitor_tickDtcs`, `c101Monitor_tickDtcs`) and that one call
of BODY makes the checks and clears of `bodyDtcOps`.
-/

namespace TroubleCode

open ActUdsDiag hiding word16
open Runs CanFrame ActState ActCan ActLoop ActFrame BodyState BodyUds BodyCan BodySpec
open UdsFrame UdsAnswer UdsTrace BodyFrame FailHistory

/-! ## Status bytes -/

/-- Three failures in a row confirm; the counter stops there; a clear keeps the current bit. -/
def threeFails : Policy where
  confirm := 3
  cap := 3
  keeps := true
  confirm_pos := by decide
  confirm_le := Nat.le_refl 3

/-- What a status byte and a fail counter keep. -/
def recordOf (status : UInt8) (count : Nat) : Record where
  current := status &&& 0x01 != 0
  history := status &&& 0x08 != 0
  count := count

/-- What a status byte and a fail counter say about the checks and clears so far. -/
structure Tells (status : UInt8) (count : Nat) (ops : List Op) : Prop where
  current : status &&& 0x01 ≠ 0 ↔ (results ops).getLast? = some true
  history : status &&& 0x08 ≠ 0 ↔ [true, true, true] <:+: sinceClear ops
  count : count = min 3 (failsInARow (sinceClear ops))

theorem tells_of_record {status : UInt8} {count : Nat} {ops : List Op}
    (h : recordOf status count = recordAfter threeFails ops) : Tells status count ops := by
  have hrun := account_run threeFails ops
  rw [← h] at hrun
  obtain ⟨hcurrent, hhistory, hcount⟩ := hrun
  refine ⟨?_, ?_, hcount⟩
  · exact bne_iff_ne.symm.trans hcurrent
  · exact bne_iff_ne.symm.trans hhistory

/-- The counter never passes three. -/
theorem recordAfter_count_le (ops : List Op) : (recordAfter threeFails ops).count ≤ 3 := by
  rw [(account_run threeFails ops).count]
  exact Nat.min_le_left _ _

/-- The bits that a check and a clear write. -/
theorem status_bits : ∀ status : UInt8,
    ((status ||| 0x01) &&& 0x01 != 0) = true ∧
    ((status ||| 0x01) &&& 0x08 != 0) = (status &&& 0x08 != 0) ∧
    (((status ||| 0x01) ||| 0x08) &&& 0x01 != 0) = true ∧
    (((status ||| 0x01) ||| 0x08) &&& 0x08 != 0) = true ∧
    ((status &&& ~~~0x01) &&& 0x01 != 0) = false ∧
    ((status &&& ~~~0x01) &&& 0x08 != 0) = (status &&& 0x08 != 0) ∧
    ((status &&& ~~~0x08) &&& 0x01 != 0) = (status &&& 0x01 != 0) ∧
    ((status &&& ~~~0x08) &&& 0x08 != 0) = false := by
  rintro ⟨b⟩
  revert b
  decide +kernel

/-- **A check** is the step of the record. -/
theorem recordOf_check {status : UInt8} {count : Nat} (hcount : count ≤ 3) (failed : Bool) :
    recordOf (udsDiagUpdateOneDtcStatus status count failed).1
        (udsDiagUpdateOneDtcStatus status count failed).2 =
      (recordOf status count).step threeFails (.check failed) := by
  obtain ⟨hset, hkeep, hboth, hlatch, hreset, hold, -, -⟩ := status_bits status
  cases failed with
  | false => exact congrArg₂ (Record.mk · · 0) hreset hold
  | true =>
      have hlimit : dtcConfirmFailCount = 3 := rfl
      have hnext : (if count < 3 then count + 1 else count) = min 3 (count + 1) := by
        split <;> omega
      have hstep : (recordOf status count).step threeFails (.check true) =
          ⟨true, status &&& 0x08 != 0 || decide (3 ≤ min 3 (count + 1)), min 3 (count + 1)⟩ := rfl
      simp only [udsDiagUpdateOneDtcStatus, hlimit, hnext, if_true, hstep]
      by_cases hthree : 3 ≤ min 3 (count + 1)
      · rw [if_pos hthree, decide_eq_true hthree, Bool.or_true]
        exact congrArg₂ (Record.mk · · _) hboth hlatch
      · rw [if_neg hthree, decide_eq_false hthree, Bool.or_false]
        exact congrArg₂ (Record.mk · · _) hset hkeep

/-- **A clear** is the step of the record. -/
theorem recordOf_clear (status : UInt8) (count : Nat) :
    recordOf (status &&& ~~~0x08) 0 = (recordOf status count).step threeFails .clear := by
  obtain ⟨-, -, -, -, -, -, hkeep, hreset⟩ := status_bits status
  exact congrArg₂ (Record.mk · · 0) hkeep hreset

/-! ## ACT -/

/-- The motor is driven and the encoder counts nothing. -/
def noSignal (s : Act) : Bool :=
  decide (s.motor.motorState = .forward ∨ s.motor.motorState = .reverse) &&
    decide (s.encoder.pulsePerSecond = 0)

/-- The steering is more than ten degrees away from its command. -/
def deviates (s : Act) : Bool :=
  decide (10 < (udsDiagGetCommandTargetAngleDeg s.steering -
    udsDiagGetSteeringAngleDeg s.pot).natAbs)

/-- What a tick of `UdsDiag_Update1ms` is for the trouble codes. -/
structure ActTick where
  cleared : Bool
  noSignal : Bool
  deviates : Bool
deriving DecidableEq, Repr

/-- The state in which the monitor looks at the conditions. -/
def monitored (inp : ActInputs) (s : Act) : Act :=
  udsDiagUpdateRoutine1ms inp.routineTxBusy (udsDiagServeRequest inp.responseTxBusy s)

def actTick (inp : ActInputs) (s : Act) : ActTick where
  cleared := (actWaiting s.uds).any fun req => decide (ClearsDtc req)
  noSignal := noSignal (monitored inp s)
  deviates := deviates (monitored inp s)

/-- The tick of a step of ACT, if it is one. -/
def actTicks (s : ActMachine) : ActEvent → List ActTick
  | .rxIsr _ => []
  | .call inp => if s.pc = .udsUpdate then [actTick inp s.act] else []

/-- Trouble code C100: no encoder signal in each of the last 2000 ticks. -/
def c100 : Plan ActTick where
  policy := threeFails
  period := 3000
  window := 2000
  holds := ActTick.noSignal
  cleared := ActTick.cleared
  period_pos := by decide

/-- Trouble code C101: a deviation in each of the last 1000 ticks. -/
def c101 : Plan ActTick where
  policy := threeFails
  period := 3000
  window := 1000
  holds := ActTick.deviates
  cleared := ActTick.cleared
  period_pos := by decide

/-- The monitors inside ACT. -/
def c100Monitor (d : ActDtcs) : Monitor :=
  ⟨d.periodTimerMs, d.encoderTimerMs, recordOf d.c100Status d.c100FailCount⟩

def c101Monitor (d : ActDtcs) : Monitor :=
  ⟨d.periodTimerMs, d.steeringTimerMs, recordOf d.c101Status d.c101FailCount⟩

/-- Cleared trouble codes. -/
def clearedDtcs (d : ActDtcs) : ActDtcs :=
  { d with
    c100Status := d.c100Status &&& ~~~0x08, c100FailCount := 0
    c101Status := d.c101Status &&& ~~~0x08, c101FailCount := 0 }

section Act

variable {s : Act}

theorem sendSingleFrame_dtcs (busy : Bool) (resp : List UInt8) (t : Act) :
    actDtcs (udsDiagSendSingleFrame busy resp t).uds = actDtcs t.uds := by
  obtain ⟨_, _, hsend⟩ := sendSingleFrame_writes busy resp t
  rw [hsend]
  rfl

/-- A request clears both trouble codes or leaves them alone. -/
theorem actServed_dtcs (req : List UInt8) (t : Act) :
    actDtcs (actServed req t).uds =
      if ClearsDtc req then clearedDtcs (actDtcs t.uds) else actDtcs t.uds := by
  rw [actServed]
  split
  · rename_i session hsession
    have hno : ¬ ClearsDtc req := by
      intro hclear
      rw [requestedSession_sid (by rw [hclear.2.1]; decide)] at hsession
      cases hsession
    rw [if_neg hno]
    rfl
  · split <;> rfl

/-- **Serving the waiting request.** -/
theorem serveRequest_dtcs (busy : Bool) (s : Act) :
    actDtcs (udsDiagServeRequest busy s).uds =
      if (actWaiting s.uds).any (fun req => decide (ClearsDtc req)) then
        clearedDtcs (actDtcs s.uds)
      else actDtcs s.uds := by
  rcases serveRequest_eq busy s with ⟨hnone, hserve | hserve⟩ | ⟨req, hreq, hserve⟩
  · rw [hnone, hserve]
    rfl
  · rw [hnone, hserve]
    rfl
  · have hany : ([req].any fun req => decide (ClearsDtc req)) = decide (ClearsDtc req) := by simp
    rw [hreq, hserve, hany]
    rcases actServe_cases busy req (actTaken s) with ⟨resp, -, -, -, heq⟩ | hstart
    · rw [heq, sendSingleFrame_dtcs, actServed_dtcs, (untouched_taken s).dtcs]
      split <;> simp_all
    · -- a routine was started by a request with another service
      have hno : ¬ ClearsDtc req := by
        intro hclear
        have hroutine : routineOf 0xFF req = none := routineOf_sid (by rw [hclear.2.1]; decide)
        rcases hstart.routine with ⟨hrid, -⟩ | ⟨hrid, -⟩
        · rw [hroutine] at hrid
          cases hrid
        · rw [hroutine] at hrid
          cases hrid
      rw [if_neg (by simpa using hno)]
      rcases hstart.routine with ⟨-, heq⟩ | ⟨-, heq⟩
      · rw [heq]
        rfl
      · rw [heq]
        rfl

/-- The routines are nothing to the trouble codes. -/
theorem updateRoutine_dtcs (busy : Bool) (s : Act) :
    actDtcs (udsDiagUpdateRoutine1ms busy s).uds = actDtcs s.uds := by
  obtain ⟨_, _, _, _, _, _, _, hupdate⟩ := updateRoutine_only busy s
  rw [hupdate]
  rfl

/-- The timers of the source are those of the library. -/
theorem faultTimer_eq {limit timer : Nat} (h : timer ≤ limit) (condition : Bool) :
    faultTimer limit condition timer = watch limit condition timer := by
  rw [faultTimer, watch]
  cases condition with
  | false => rfl
  | true =>
      rw [if_pos rfl, if_pos rfl]
      split <;> omega

/-- The monitor of `UdsDiag.c` on the variables it writes. -/
def tickDtcs (noSignal deviates : Bool) (d : ActDtcs) : ActDtcs :=
  let encoderTimer := faultTimer dtcEncoderNoSignalMs noSignal d.encoderTimerMs
  let steeringTimer := faultTimer dtcSteeringMismatchMs deviates d.steeringTimerMs
  if dtcMonitorPeriodMs ≤ d.periodTimerMs + 1 then
    let r100 := udsDiagUpdateOneDtcStatus d.c100Status d.c100FailCount
      (decide (dtcEncoderNoSignalMs ≤ encoderTimer))
    let r101 := udsDiagUpdateOneDtcStatus d.c101Status d.c101FailCount
      (decide (dtcSteeringMismatchMs ≤ steeringTimer))
    ⟨r100.1, r100.2, encoderTimer, r101.1, r101.2, steeringTimer, 0⟩
  else
    { d with
      encoderTimerMs := encoderTimer
      steeringTimerMs := steeringTimer
      periodTimerMs := d.periodTimerMs + 1 }

theorem updateMonitor_dtcs (t : Act) :
    actDtcs (udsDiagUpdateDtcMonitor1ms t).uds =
      tickDtcs (noSignal t) (deviates t) (actDtcs t.uds) := by
  have hperiod : (actDtcs t.uds).periodTimerMs = t.uds.dtcMonitorPeriodTimerMs := rfl
  simp only [udsDiagUpdateDtcMonitor1ms, tickDtcs, hperiod]
  split <;> rfl

/-- **`UdsDiag_Update1ms`** clears what is to be cleared, and then watches. -/
theorem update_dtcs (inp : ActInputs) (s : Act) :
    actDtcs (udsDiagUpdate1ms inp s).uds =
      tickDtcs (actTick inp s).noSignal (actTick inp s).deviates
        (if (actTick inp s).cleared then clearedDtcs (actDtcs s.uds) else actDtcs s.uds) := by
  have hmonitored : actDtcs (monitored inp s).uds =
      if (actTick inp s).cleared then clearedDtcs (actDtcs s.uds) else actDtcs s.uds := by
    rw [monitored, updateRoutine_dtcs, serveRequest_dtcs]
    rfl
  rw [← hmonitored]
  exact updateMonitor_dtcs (monitored inp s)

/-- The timers and counters are within their limits. -/
structure Timed (d : ActDtcs) : Prop where
  encoder : d.encoderTimerMs ≤ 2000
  steering : d.steeringTimerMs ≤ 1000
  c100 : d.c100FailCount ≤ 3
  c101 : d.c101FailCount ≤ 3

/-- A tick of one trouble code. -/
theorem check_tick {T : Type} {p : Plan T} (hp : p.policy = threeFails) {t : T} {status : UInt8}
    {count elapsed timer : Nat} (hcount : count ≤ 3) :
    (⟨elapsed, timer, recordOf status count⟩ : Monitor).tick p t =
      if p.period ≤ elapsed + 1 then
        ⟨0, watch p.window (p.holds t) timer,
          recordOf
            (udsDiagUpdateOneDtcStatus (if p.cleared t then status &&& ~~~0x08 else status)
              (if p.cleared t then 0 else count)
              (decide (p.window ≤ watch p.window (p.holds t) timer))).1
            (udsDiagUpdateOneDtcStatus (if p.cleared t then status &&& ~~~0x08 else status)
              (if p.cleared t then 0 else count)
              (decide (p.window ≤ watch p.window (p.holds t) timer))).2⟩
      else
        ⟨elapsed + 1, watch p.window (p.holds t) timer,
          recordOf (if p.cleared t then status &&& ~~~0x08 else status)
            (if p.cleared t then 0 else count)⟩ := by
  -- a clear request of the tick comes before its check
  have hcleared : (if p.cleared t then (recordOf status count).step p.policy .clear
      else recordOf status count) =
      recordOf (if p.cleared t then status &&& ~~~0x08 else status)
        (if p.cleared t then 0 else count) := by
    rw [hp]
    split
    · exact (recordOf_clear status count).symm
    · rfl
  have hle : (if p.cleared t then 0 else count) ≤ 3 := by
    split
    · exact Nat.zero_le 3
    · exact hcount
  simp only [Monitor.tick, hcleared, recordOf_check hle]
  rw [hp]

/-- The monitors after the update. -/
theorem c100Monitor_tickDtcs (noSignal deviates : Bool) (d : ActDtcs) :
    c100Monitor (tickDtcs noSignal deviates d) =
      if 3000 ≤ d.periodTimerMs + 1 then
        ⟨0, faultTimer 2000 noSignal d.encoderTimerMs,
          recordOf
            (udsDiagUpdateOneDtcStatus d.c100Status d.c100FailCount
              (decide (2000 ≤ faultTimer 2000 noSignal d.encoderTimerMs))).1
            (udsDiagUpdateOneDtcStatus d.c100Status d.c100FailCount
              (decide (2000 ≤ faultTimer 2000 noSignal d.encoderTimerMs))).2⟩
      else
        ⟨d.periodTimerMs + 1, faultTimer 2000 noSignal d.encoderTimerMs,
          recordOf d.c100Status d.c100FailCount⟩ := by
  have hperiod : dtcMonitorPeriodMs = 3000 := rfl
  simp only [tickDtcs, hperiod]
  split <;> rfl

theorem c101Monitor_tickDtcs (noSignal deviates : Bool) (d : ActDtcs) :
    c101Monitor (tickDtcs noSignal deviates d) =
      if 3000 ≤ d.periodTimerMs + 1 then
        ⟨0, faultTimer 1000 deviates d.steeringTimerMs,
          recordOf
            (udsDiagUpdateOneDtcStatus d.c101Status d.c101FailCount
              (decide (1000 ≤ faultTimer 1000 deviates d.steeringTimerMs))).1
            (udsDiagUpdateOneDtcStatus d.c101Status d.c101FailCount
              (decide (1000 ≤ faultTimer 1000 deviates d.steeringTimerMs))).2⟩
      else
        ⟨d.periodTimerMs + 1, faultTimer 1000 deviates d.steeringTimerMs,
          recordOf d.c101Status d.c101FailCount⟩ := by
  have hperiod : dtcMonitorPeriodMs = 3000 := rfl
  simp only [tickDtcs, hperiod]
  split <;> rfl

/-- **One update is one tick** of both monitors. -/
theorem monitor_tick (inp : ActInputs) (ht : Timed (actDtcs s.uds)) :
    c100Monitor (actDtcs (udsDiagUpdate1ms inp s).uds) =
        (c100Monitor (actDtcs s.uds)).tick c100 (actTick inp s) ∧
      c101Monitor (actDtcs (udsDiagUpdate1ms inp s).uds) =
        (c101Monitor (actDtcs s.uds)).tick c101 (actTick inp s) := by
  obtain ⟨hencoder, hsteering, hc100, hc101⟩ := ht
  have hencoder := faultTimer_eq hencoder (actTick inp s).noSignal
  have hsteering := faultTimer_eq hsteering (actTick inp s).deviates
  rw [update_dtcs]
  constructor
  · rw [c100Monitor_tickDtcs]
    simp only [apply_ite ActDtcs.periodTimerMs, apply_ite ActDtcs.encoderTimerMs,
      apply_ite ActDtcs.c100Status, apply_ite ActDtcs.c100FailCount, clearedDtcs, ite_self,
      hencoder]
    show _ = Monitor.tick c100 ⟨(actDtcs s.uds).periodTimerMs, (actDtcs s.uds).encoderTimerMs,
      recordOf (actDtcs s.uds).c100Status (actDtcs s.uds).c100FailCount⟩ (actTick inp s)
    rw [check_tick rfl hc100]
    rfl
  · rw [c101Monitor_tickDtcs]
    simp only [apply_ite ActDtcs.periodTimerMs, apply_ite ActDtcs.steeringTimerMs,
      apply_ite ActDtcs.c101Status, apply_ite ActDtcs.c101FailCount, clearedDtcs, ite_self,
      hsteering]
    show _ = Monitor.tick c101 ⟨(actDtcs s.uds).periodTimerMs, (actDtcs s.uds).steeringTimerMs,
      recordOf (actDtcs s.uds).c101Status (actDtcs s.uds).c101FailCount⟩ (actTick inp s)
    rw [check_tick rfl hc101]
    rfl

/-- Both trouble codes account for the ticks of a run. -/
structure Monitored (ticks : List ActTick) (s : ActMachine) : Prop where
  booted : BootedDiag s
  encoder : Watched c100 ticks (c100Monitor (actDtcs s.act.uds))
  steering : Watched c101 ticks (c101Monitor (actDtcs s.act.uds))

theorem Monitored.timed {ticks : List ActTick} {s : ActMachine} (h : Monitored ticks s) :
    Timed (actDtcs s.act.uds) := by
  have hencoder : (actDtcs s.act.uds).encoderTimerMs = _ := h.encoder.timer
  have hsteering : (actDtcs s.act.uds).steeringTimerMs = _ := h.steering.timer
  refine ⟨?_, ?_, ?_, ?_⟩
  · exact hencoder ▸ Nat.min_le_left _ _
  · exact hsteering ▸ Nat.min_le_left _ _
  · have hrecord : recordOf _ _ = recordAfter threeFails (c100.ops ticks) := h.encoder.record
    have hcount := recordAfter_count_le (c100.ops ticks)
    rw [← hrecord] at hcount
    exact hcount
  · have hrecord : recordOf _ _ = recordAfter threeFails (c101.ops ticks) := h.steering.record
    have hcount := recordAfter_count_le (c101.ops ticks)
    rw [← hrecord] at hcount
    exact hcount

theorem monitored_reset (r : ActReset) : Monitored [] (actReset r) := by
  have hdtcs : actDtcs (actReset r).act.uds = ⟨0, 0, 0, 0, 0, 0, 0⟩ := rfl
  have hrecord : recordOf 0 0 = Record.empty := by decide
  refine ⟨bootedDiag_reset r, ?_, ?_⟩
  · rw [hdtcs, c100Monitor, hrecord]
    exact watched_start c100
  · rw [hdtcs, c101Monitor, hrecord]
    exact watched_start c101

/-- **Step lemma.** -/
theorem monitored_step {ticks : List ActTick} {s : ActMachine} (h : Monitored ticks s)
    (e : ActEvent) : Monitored (ticks ++ actTicks s e) (actStep s e) := by
  have hbooted := bootedDiag_step h.booted e
  have htimed := h.timed
  rcases act_step_cases h.booted e with ⟨hno, -, hsame⟩ | ⟨inp, rfl, hpc, -, heq⟩
  · -- no event but the diagnostic call touches the codes
    have hticks : actTicks s e = [] := by
      cases e with
      | rxIsr m => rfl
      | call inp => exact if_neg fun hpc => hno ⟨hpc, inp, rfl⟩
    rw [hticks, List.append_nil]
    refine ⟨hbooted, ?_, ?_⟩
    · rw [hsame.dtcs]
      exact h.encoder
    · rw [hsame.dtcs]
      exact h.steering
  · have hticks : actTicks s (.call inp) = [actTick inp s.act] := if_pos hpc
    obtain ⟨hencoder, hsteering⟩ := monitor_tick inp htimed
    rw [hticks]
    refine ⟨hbooted, ?_, ?_⟩
    · rw [heq, hencoder]
      exact watched_tick h.encoder _
    · rw [heq, hsteering]
      exact watched_tick h.steering _

/-- **Run lemma.** -/
theorem monitored_run (r : ActReset) (es : List ActEvent) :
    Monitored (trace actStep actTicks (actReset r) es) (actRun r es) := by
  have hsteps : AllSteps actStep (fun _ _ => True) (actReset r) es :=
    allSteps_of_mem fun _ _ _ => trivial
  exact trace_guarded (f := actTicks) (fun s ticks => Monitored ticks s)
    (fun s ticks e hs _ => monitored_step hs e) (monitored_reset r) hsteps

end Act

/-! ## BODY -/

/-- The checks and clears of a step of BODY. -/
def bodyDtcOps (s : Body) : BodyEvent → List Op
  | .call _ .canUpdate1ms =>
      ((bodyWaiting s.can).filter fun req => decide (ClearsDtc req)).map fun _ => .clear
  | .call inp .controlUpdate1ms =>
      if Checks s.control.dtc then
        [.check (echoFails inp.dtcEcho BodyControl.ultrasonicDiagEchoTimeoutUs)]
      else []
  | _ => []

/-- The record inside BODY. -/
def bodyRecord (d : UltrasonicDtc) : Record := recordOf d.status d.consecutiveFailCount

section Body

variable {s : Body}

/-- BODY counts as ACT does. -/
theorem countUltrasonicDtc_eq (failed : Bool) (d : UltrasonicDtc) :
    bodyRecord (BodyControl.countUltrasonicDtc failed d) =
      recordOf (udsDiagUpdateOneDtcStatus d.status d.consecutiveFailCount failed).1
        (udsDiagUpdateOneDtcStatus d.status d.consecutiveFailCount failed).2 := by
  cases failed <;> rfl

theorem bodyRecord_served (req : List UInt8) (d : UltrasonicDtc) :
    bodyRecord (servedDtc req d) =
      (([req].filter fun req => decide (ClearsDtc req)).map fun _ => Op.clear).foldl
        (Record.step threeFails) (bodyRecord d) := by
  rw [servedDtc]
  by_cases h : ClearsDtc req
  · rw [if_pos h, List.filter_singleton, decide_eq_true h]
    exact recordOf_clear d.status d.consecutiveFailCount
  · rw [if_neg h, List.filter_singleton, decide_eq_false h]
    rfl

/-- At most one request waits. -/
theorem bodyWaiting_cases (c : BodyCanState) :
    bodyWaiting c = [] ∨ ∃ req, bodyWaiting c = [req] := by
  rw [bodyWaiting]
  split
  · rcases requestOf c.udsRequestByte with _ | req
    · exact Or.inl rfl
    · exact Or.inr ⟨req, rfl⟩
  · exact Or.inl rfl

/-- **Step lemma.**  A call makes the checks and clears of `bodyDtcOps`. -/
theorem bodyRecord_step (hcount : s.control.dtc.consecutiveFailCount ≤ 3) (e : BodyEvent) :
    bodyRecord (bodyStep s e).control.dtc =
      (bodyDtcOps s e).foldl (Record.step threeFails) (bodyRecord s.control.dtc) := by
  cases e with
  | rxIsr m =>
      show bodyRecord (bodyCanRxIsrHandler m s).control.dtc = bodyRecord s.control.dtc
      rcases hc : BodySpec.accepted m with _ | c
      · rw [BodyCommand.rxIsr_rejected hc]
        split <;> rfl
      · rw [BodyCommand.rxIsr_accepted hc]
        rfl
  | call inp c =>
      cases c with
      | canUpdate1ms =>
          have hupdate : (bodyCanUpdate1ms inp s).control.dtc = waitingDtc s.can s.control.dtc :=
            congrArg Prod.fst (codeTime_canUpdate inp s)
          show bodyRecord (bodyCanUpdate1ms inp s).control.dtc = _
          rw [hupdate, waitingDtc, bodyDtcOps]
          -- a waiting request may clear the record
          rcases bodyWaiting_cases s.can with hnone | ⟨req, hreq⟩
          · rw [hnone]
            rfl
          · rw [hreq]
            exact bodyRecord_served req s.control.dtc
      | controlUpdate1ms =>
          have hupdate : (BodyControl.update1ms inp s.control).dtc = checkedDtc inp s.control.dtc :=
            congrArg Prod.fst (codeTime_update1ms inp s.control)
          show bodyRecord (BodyControl.update1ms inp s.control).dtc = _
          rw [hupdate, checkedDtc, bodyDtcOps]
          -- the sensor is checked when its period is over
          split
          · rw [countUltrasonicDtc_eq]
            exact recordOf_check hcount _
          · rfl
      | reportCollision =>
          show bodyRecord (reportCollisionIfPressed s).control.dtc = bodyRecord s.control.dtc
          rw [reportCollisionIfPressed]
          split <;> rfl
      | delay1ms => rfl

theorem bodyRecord_reset (init : BodyInputs) :
    bodyRecord (bodyReset init).control.dtc = recordAfter threeFails [] := by
  have hdtc : (bodyReset init).control.dtc = ⟨0, 0, 0⟩ := rfl
  rw [hdtc]
  decide

/-- **Run lemma.** -/
theorem bodyRecord_run (init : BodyInputs) (bs : List BodyEvent) :
    bodyRecord (run bodyStep (bodyReset init) bs).control.dtc =
      recordAfter threeFails (trace bodyStep bodyDtcOps (bodyReset init) bs) := by
  have hsteps : AllSteps bodyStep (fun _ _ => True) (bodyReset init) bs :=
    allSteps_of_mem fun _ _ _ => trivial
  refine trace_guarded (f := bodyDtcOps)
    (fun s ops => bodyRecord s.control.dtc = recordAfter threeFails ops) ?_
    (bodyRecord_reset init) hsteps
  intro s ops e hs _
  have hcount := recordAfter_count_le ops
  rw [← hs] at hcount
  rw [bodyRecord_step hcount, hs, recordAfter_append]

end Body

/-! ## The law -/

/-- **TROUBLE CODES EQUAL THEIR HISTORY.**  In every run of ACT and BODY, the status bytes
    and fail counters say what the checks and clears so far were: on ACT the checks of the
    plans `c100` and `c101`, which are made at every 3000th tick and fail when the condition
    held at each of the last 2000 or 1000 ticks. -/
theorem dtc_equals_history (r : ActReset) (es : List ActEvent) (init : BodyInputs)
    (bs : List BodyEvent) :
    Tells (actRun r es).act.uds.dtcC100Status (actRun r es).act.uds.dtcC100ConsecutiveFailCount
      (c100.ops (trace actStep actTicks (actReset r) es)) ∧
    Tells (actRun r es).act.uds.dtcC101Status (actRun r es).act.uds.dtcC101ConsecutiveFailCount
      (c101.ops (trace actStep actTicks (actReset r) es)) ∧
    Tells (run bodyStep (bodyReset init) bs).control.dtc.status
      (run bodyStep (bodyReset init) bs).control.dtc.consecutiveFailCount
      (trace bodyStep bodyDtcOps (bodyReset init) bs) := by
  obtain ⟨-, hencoder, hsteering⟩ := monitored_run r es
  refine ⟨?_, ?_, ?_⟩
  · exact tells_of_record hencoder.record
  · exact tells_of_record hsteering.record
  · exact tells_of_record (bodyRecord_run init bs)

end TroubleCode
