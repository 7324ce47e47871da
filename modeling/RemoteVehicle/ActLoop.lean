import RemoteVehicle.ActCan
import RemoteVehicle.Runs

/-!
# ACT main loop — `Cpu0_Main.c`

The control flow of `core0_main` from the end of `ActCan_Init` on, one call at a time.
`ActPc` names the call that comes next; `actStep` makes that call and moves on.  The
receive interrupt is an event of its own and falls between two calls.  (It touches only the
mailbox, the time-out and the request buffer, so an interrupt inside a call that uses none of
them is the same as one right after it; one inside `ActCan_Update100us` or
`UdsDiag_Update1ms`, which read them with interrupts on, is not covered.)

The blocking servo pulse is part of the control flow: its low phase calls
`MotorControl_Update` and `Encoder_Update1ms` once for every full millisecond and
`ActCan_Update100us` not at all.
-/

namespace ActLoop

open Runs CanFrame ActMotor ActServo ActSensors ActState ActUdsDiag ActCan

/-! ## Calls -/

/-- The initialisation calls of `core0_main` after `ActCan_Init`. -/
inductive BootCall where
  | udsDiagInit
  | setDutyPercent
  | coast
  | center
  | resetCount
deriving DecidableEq, Repr

/-- The calls the main loop makes. -/
inductive LoopCall where
  /-- `ActCan_Update100us`. -/
  | canUpdate100us
  /-- `UdsDiag_Update1ms`. -/
  | udsUpdate1ms
  /-- `MotorControl_Update`. -/
  | motorUpdate
  /-- `Encoder_Update1ms`. -/
  | encoderUpdate1ms
  /-- `PotAdc_Update1ms`. -/
  | potUpdate1ms
  /-- `App_SendStatusIfNeeded`. -/
  | sendStatusIfNeeded
  /-- The steering timer of the loop. -/
  | steeringTimer
  /-- `Steering_UpdatePulseByKey` and the high phase of the pulse. -/
  | pulseHigh
  /-- `delayUs` for what is left of the low phase. -/
  | pulseRest (us : Nat)
deriving DecidableEq, Repr

/-- One action of a PWM cycle; the number counts the encoder polls of the call so far. -/
def motorActionStep (level : Nat → Bool) (p : MotorPins × Encoder × Nat) (a : MotorAction) :
    MotorPins × Encoder × Nat :=
  match a with
  | .delayUs us =>
      (p.1, encoderPolls level p.2.2 (delayPolls us) p.2.1, p.2.2 + delayPolls us)
  | a => (p.1.write a, p.2)

/-- `MotorControl_Update` with its waits. -/
def motorControlUpdateCall (inp : ActInputs) (s : Act) : Act :=
  let r := (motorControlUpdate s.motor).foldl (motorActionStep inp.encoderA)
    (s.motor.pins, s.encoder, 0)
  { s with motor := { s.motor with pins := r.1 }, encoder := r.2.1 }

/-- The servo driver's `delayUs`. -/
def servoDelayUs (inp : ActInputs) (us : Nat) (s : Act) : Act :=
  { s with encoder := encoderPolls inp.encoderA 0 (delayPolls us) s.encoder }

/-- `STEERING_UPDATE_PERIOD_MS`. -/
def steeringUpdatePeriodMs : Nat := 20

/-- The effect of a boot call. -/
def bootCall : BootCall → Act → Act
  | .udsDiagInit, s => { s with uds := udsDiagInit s.uds }
  | .setDutyPercent, s => { s with motor := motorControlSetDutyPercent 90 s.motor }
  | .coast, s => { s with motor := motorControlCoast s.motor }
  | .center, s => { s with steering := steeringCenter s.steering }
  | .resetCount, s => { s with encoder := encoderResetCount s.encoder }

/-- The effect of a call of the main loop. -/
def loopCall (inp : ActInputs) : LoopCall → Act → Act
  | .canUpdate100us, s => actCanUpdate100us s
  | .udsUpdate1ms, s => udsDiagUpdate1ms inp s
  | .motorUpdate, s => motorControlUpdateCall inp s
  | .encoderUpdate1ms, s => { s with encoder := encoderUpdate1ms (inp.encoderA 0) s.encoder }
  | .potUpdate1ms, s => { s with pot := potAdcUpdate1ms inp.potResult s.pot }
  | .sendStatusIfNeeded, s => appSendStatusIfNeeded inp.statusTxBusy s
  | .steeringTimer, s =>
      { s with steeringUpdateTimerMs :=
          if steeringUpdatePeriodMs ≤ s.steeringUpdateTimerMs + 1 then 0
          else s.steeringUpdateTimerMs + 1 }
  | .pulseHigh, s =>
      let steering := steeringUpdatePulseByKey s.steering
      servoDelayUs inp steering.currentPulseUs.val { s with steering := steering }
  | .pulseRest us, s => servoDelayUs inp us s

/-! ## Control flow -/

/-- Who waits for a servo pulse: the boot sequence, with the pulses still to come, or the
    main loop. -/
inductive PulseCaller where
  | boot (remaining : Nat)
  | loop
deriving DecidableEq, Repr

/-- The call that `core0_main` makes next. -/
inductive ActPc where
  | boot (c : BootCall)
  /-- `ActCan_Update100us`, call `i` of the ten. -/
  | canUpdate (i : Nat)
  | udsUpdate
  /-- `MotorControl_Update` in `App_Update1ms`. -/
  | motorUpdate
  | encoderUpdate
  | potUpdate
  | statusUpdate
  | steeringTimer
  | pulseHigh (k : PulseCaller)
  /-- `delayLowUsWithMotorUpdate` with `us` left: a `MotorControl_Update` or the rest. -/
  | pulseLow (k : PulseCaller) (us : Nat)
  /-- The `Encoder_Update1ms` of that loop. -/
  | pulseEncoder (k : PulseCaller) (us : Nat)
deriving DecidableEq, Repr

/-- The ECU and its position in the program. -/
structure ActMachine where
  pc : ActPc
  act : Act
deriving DecidableEq, Repr

/-- `App_UpdateCanRxFor1ms` calls `ActCan_Update100us` this often. -/
def canUpdatesPerMs : Nat := 10

/-- `Steering_UpdateForMs(500U)` sends this many pulses. -/
def bootPulses : Nat := 500 / 20

/-- Where the program continues after a boot call. -/
def afterBoot : BootCall → ActPc
  | .udsDiagInit => .boot .setDutyPercent
  | .setDutyPercent => .boot .coast
  | .coast => .boot .center
  | .center => .pulseHigh (.boot (bootPulses - 1))
  | .resetCount => .canUpdate 0

/-- Where the program continues after a servo pulse. -/
def afterPulse : PulseCaller → ActPc
  | .boot 0 => .boot .resetCount
  | .boot (n + 1) => .pulseHigh (.boot n)
  | .loop => .canUpdate 0

/-- The call at a position. -/
def callAt : ActPc → BootCall ⊕ LoopCall
  | .boot c => .inl c
  | .canUpdate _ => .inr .canUpdate100us
  | .udsUpdate => .inr .udsUpdate1ms
  | .motorUpdate => .inr .motorUpdate
  | .encoderUpdate => .inr .encoderUpdate1ms
  | .potUpdate => .inr .potUpdate1ms
  | .statusUpdate => .inr .sendStatusIfNeeded
  | .steeringTimer => .inr .steeringTimer
  | .pulseHigh _ => .inr .pulseHigh
  | .pulseLow _ us => .inr (if 1000 ≤ us then .motorUpdate else .pulseRest us)
  | .pulseEncoder _ _ => .inr .encoderUpdate1ms

/-- The position after a call, in the state before it. -/
def nextPc (s : ActMachine) : ActPc :=
  match s.pc with
  | .boot c => afterBoot c
  | .canUpdate i => if i + 1 < canUpdatesPerMs then .canUpdate (i + 1) else .udsUpdate
  | .udsUpdate => .motorUpdate
  | .motorUpdate => .encoderUpdate
  | .encoderUpdate => .potUpdate
  | .potUpdate => .statusUpdate
  | .statusUpdate => .steeringTimer
  | .steeringTimer =>
      if steeringUpdatePeriodMs ≤ s.act.steeringUpdateTimerMs + 1 then .pulseHigh .loop
      else .canUpdate 0
  | .pulseHigh k =>
      .pulseLow k (servoLowTimeUs (steeringUpdatePulseByKey s.act.steering).currentPulseUs)
  | .pulseLow k us => if 1000 ≤ us then .pulseEncoder k us else afterPulse k
  | .pulseEncoder k us => .pulseLow k (us - 1000)

/-- The main program makes its next call. -/
def mainStep (inp : ActInputs) (s : ActMachine) : ActMachine where
  pc := nextPc s
  act := match callAt s.pc with
    | .inl c => bootCall c s.act
    | .inr c => loopCall inp c s.act

/-! ## Runs -/

/-- What happens next: a received frame interrupts, or the main program makes a call. -/
inductive ActEvent where
  | rxIsr (m : CanMessage)
  | call (inp : ActInputs)

/-- One step of the ECU: no interrupt falls inside a call. -/
def actStep (s : ActMachine) : ActEvent → ActMachine
  | .rxIsr m => { s with act := actCanRxIsrHandler m s.act }
  | .call inp => mainStep inp s

/-- The reset values of the pins, the stored duty of `UdsDiag.c` and the encoder level are
    what the boot sequence may find. -/
structure ActReset where
  pins : MotorPins
  encoderA : Bool

/-- The static initialisers of `UdsDiag.c`. -/
def udsDiagStatic : UdsDiag :=
  udsDiagInit
    { diagSession := sessionDefault, dtcC100Status := 0, dtcC101Status := 0,
      dtcEncoderNoSignalTimerMs := 0, dtcSteeringMismatchTimerMs := 0,
      dtcMonitorPeriodTimerMs := 0, dtcC100ConsecutiveFailCount := 0,
      dtcC101ConsecutiveFailCount := 0, routineState := .none, routineTimerMs := 0,
      routineStep := 0, savedMotorDuty := motorLimitDutyPercent 90, reqPending := false,
      reqData := Vector.replicate 8 0, udsTxBufferIndex := udsTxBuffer0 }

/-- `core0_main` up to and with `ActCan_Init`: motor, steering, encoder, potentiometer and
    CAN are initialised, interrupts are on. -/
def actReset (r : ActReset) : ActMachine where
  pc := .boot .udsDiagInit
  act := actCanInit
    { motor := motorControlInit
        { motorState := .stop, dutyPercent := motorLimitDutyPercent motorDefaultDutyPercent,
          leftDutyPercent := motorLimitDutyPercent motorDefaultDutyPercent,
          rightDutyPercent := motorLimitDutyPercent motorDefaultDutyPercent, pins := r.pins }
      steering := steeringInit
      encoder := encoderInit r.encoderA
      pot := potAdcInit
      can := actCanInitCan
      uds := udsDiagStatic
      txBufferIndex := 0
      canStatusTxTimerMs := 0
      steeringUpdateTimerMs := 0
      sent := [] }

/-- The state after a list of events from reset. -/
def actRun (r : ActReset) (es : List ActEvent) : ActMachine := run actStep (actReset r) es

/-- A hardware at rest: pins low, encoder still, no conversion, free buffers. -/
def restReset : ActReset := ⟨⟨false, false, false, false, false, false⟩, false⟩

def restInputs : ActInputs where
  encoderA := fun _ => false
  potResult := none
  responseTxBusy := false
  routineTxBusy := false
  statusTxBusy := false

end ActLoop
