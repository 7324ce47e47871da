import Mathlib.Tactic

/-!
# ACT sensors — `Encoder.c`, `PotAdc.c`

The wheel encoder counts edges of one phase and publishes a pulse rate every 100 ms.
The steering potentiometer averages eight valid conversions and publishes an angle.
Pin levels and conversion results are inputs of the calls that read them.
-/

namespace ActSensors

/-! ## Encoder -/

/-- The static variables of `Encoder.c`; the pin level is a `Bool`. -/
structure Encoder where
  encoderCount : Int
  windowPulseCount : UInt32
  windowRisingEdgeCount : UInt32
  windowFallingEdgeCount : UInt32
  pulsePerSecond : UInt32
  elapsedMs : UInt32
  lastA : Bool
deriving DecidableEq, Repr

/-- `ENCODER_SPEED_WINDOW_MS`. -/
def encoderSpeedWindowMs : UInt32 := 100

/-- `Encoder_Init` with the level `Encoder_ReadA` returns. -/
def encoderInit (nowA : Bool) : Encoder where
  encoderCount := 0
  windowPulseCount := 0
  windowRisingEdgeCount := 0
  windowFallingEdgeCount := 0
  pulsePerSecond := 0
  elapsedMs := 0
  lastA := nowA

/-- `Encoder_Poll`. -/
def encoderPoll (nowA : Bool) (e : Encoder) : Encoder :=
  let rising := if e.lastA = false ∧ nowA = true
    then e.windowRisingEdgeCount + 1 else e.windowRisingEdgeCount
  let falling := if e.lastA = true ∧ nowA = false
    then e.windowFallingEdgeCount + 1 else e.windowFallingEdgeCount
  { e with
    encoderCount := if nowA ≠ e.lastA then e.encoderCount + 1 else e.encoderCount
    windowRisingEdgeCount := rising
    windowFallingEdgeCount := falling
    -- the larger of the two, so that a pulse with both edges is one pulse
    windowPulseCount := if falling ≤ rising then rising else falling
    lastA := nowA }

/-- `Encoder_Update1ms`. -/
def encoderUpdate1ms (nowA : Bool) (e : Encoder) : Encoder :=
  let p := encoderPoll nowA e
  let elapsed := p.elapsedMs + 1
  if encoderSpeedWindowMs ≤ elapsed then
    { p with
      pulsePerSecond := p.windowPulseCount * 1000 / elapsed
      windowPulseCount := 0
      windowRisingEdgeCount := 0
      windowFallingEdgeCount := 0
      elapsedMs := 0 }
  else
    { p with elapsedMs := elapsed }

/-- `Encoder_ResetCount`; the last level is kept. -/
def encoderResetCount (e : Encoder) : Encoder :=
  { e with
    encoderCount := 0
    windowPulseCount := 0
    windowRisingEdgeCount := 0
    windowFallingEdgeCount := 0
    pulsePerSecond := 0
    elapsedMs := 0 }

/-- The poll step both `delayUs` functions wait in (`MOTOR_ENCODER_POLL_STEP_US`,
    `SERVO_ENCODER_POLL_STEP_US`). -/
def encoderPollStepUs : Nat := 50

/-- How often `delayUs` polls the encoder: once a full step and once for the rest. -/
def delayPolls (us : Nat) : Nat :=
  us / encoderPollStepUs + (if 0 < us % encoderPollStepUs then 1 else 0)

/-- `n` polls, the first of them reading sample `k` of the current call. -/
def encoderPolls (level : Nat → Bool) : Nat → Nat → Encoder → Encoder
  | _, 0, e => e
  | k, n + 1, e => encoderPolls level (k + 1) n (encoderPoll (level k) e)

/-! ## Potentiometer -/

/-- The static variables of `PotAdc.c` that a getter other than the debug ones reads. -/
structure PotAdc where
  potAngleDeg : UInt8
  potSignedAngleDeg : Int
  accumRaw : Nat
  accumCount : Nat
deriving DecidableEq, Repr

/-- `POT_RAW_LEFT_MAX`. -/
def potRawLeftMax : Nat := 580

/-- `POT_RAW_RIGHT_MAX`. -/
def potRawRightMax : Nat := 925

/-- `POT_AVG_SAMPLE_COUNT`. -/
def potAvgSampleCount : Nat := 8

/-- `PotAdc_RawToSignedAngleDeg`. -/
def potAdcRawToSignedAngleDeg (raw : Nat) : Int :=
  if raw ≤ potRawLeftMax then -35
  else if potRawRightMax ≤ raw then 35
  else
    let numerator : Int := ((raw - potRawLeftMax : Nat) : Int) * 70
    let denominator : Int := ((potRawRightMax - potRawLeftMax : Nat) : Int)
    let angle := (numerator + denominator / 2) / denominator + -35
    let angle := if angle < -35 then -35 else angle
    if 35 < angle then 35 else angle

/-- `PotAdc_SignedAngleToCanAngleDeg`. -/
def potAdcSignedAngleToCanAngleDeg (signedAngleDeg : Int) : UInt8 :=
  let canAngle := 90 + signedAngleDeg
  let canAngle := if canAngle < 0 then 0 else canAngle
  let canAngle := if 255 < canAngle then 255 else canAngle
  UInt8.ofNat canAngle.toNat

/-- `PotAdc_ApplyRaw`. -/
def potAdcApplyRaw (raw : Nat) (p : PotAdc) : PotAdc :=
  let signedAngleDeg := potAdcRawToSignedAngleDeg raw
  { p with
    potSignedAngleDeg := signedAngleDeg
    potAngleDeg := potAdcSignedAngleToCanAngleDeg signedAngleDeg }

/-- `PotAdc_Init`. -/
def potAdcInit : PotAdc where
  potAngleDeg := 90
  potSignedAngleDeg := 0
  accumRaw := 0
  accumCount := 0

/-- `PotAdc_Update1ms`, where `PotAdc_TryReadRaw` may find no valid result. -/
def potAdcUpdate1ms (raw : Option (Fin 4096)) (p : PotAdc) : PotAdc :=
  match raw with
  | none => p
  | some raw =>
      let accumRaw := p.accumRaw + raw.val
      let accumCount := p.accumCount + 1
      if accumCount < potAvgSampleCount then
        { p with accumRaw := accumRaw, accumCount := accumCount }
      else
        potAdcApplyRaw (accumRaw / accumCount) { p with accumRaw := 0, accumCount := 0 }

end ActSensors
