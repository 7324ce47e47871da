import RemoteVehicle.CanFrame

/-!
# BODY firmware state — the static variables of its two modules

Fields carry the names of the globals without the `g_` prefix; those of `BodyControl.c`
are grouped as its comments group them and drop the prefix their group has in common.
The three pins of the headlamp are always written together and are one field.

`stmUs` is the system timer in microseconds.  Only waits advance it: the statements
between them take no time.  The hardware enters through `BodyInputs`, one record per call
of the main loop, and what leaves the ECU is appended to `sent`, each message with the
number of the transmit buffer it was put into.
-/

namespace BodyState

open CanFrame

/-! ## Outputs — `BodyControl.c` -/

/-- The output pins, all active high. -/
structure BodyPins where
  headlamp : Bool
  brakeLamp : Bool
  leftTurn : Bool
  rightTurn : Bool
  buzzer : Bool
  dangerLed : Bool
deriving DecidableEq, Repr

/-- What the last command asks for. -/
structure Requests where
  headlampOn : Bool
  brakeLampOn : Bool
  leftTurnEnabled : Bool
  rightTurnEnabled : Bool
  collisionWarningLampOn : Bool
  hornEnabled : Bool
deriving DecidableEq, Repr

/-- `g_horn*`. -/
structure Horn where
  outputOn : Bool
  timerMs : Nat
deriving DecidableEq, Repr

/-- `g_ultrasonic*`. -/
structure Ultrasonic where
  distanceCm : Nat
  distanceValid : Bool
  measureTimerMs : Nat
  validHoldTimerMs : Nat
deriving DecidableEq, Repr

/-- `g_collisionWarning*`. -/
structure WarningSound where
  level : Fin 4
  lastLevel : Fin 4
  toneOutputOn : Bool
  toneTimerMs : Nat
  patternTimerMs : Nat
deriving DecidableEq, Repr

/-- `g_blink*`. -/
structure Blink where
  outputOn : Bool
  timerMs : Nat
deriving DecidableEq, Repr

/-- `g_collisionButton*`. -/
structure CollisionButton where
  lastRawPressed : Bool
  stablePressed : Bool
  eventPending : Bool
  debounceTimerMs : Nat
  pressedEventCount : UInt32
deriving DecidableEq, Repr

/-- The lamp diagnosis among `g_diag*`. -/
structure LampDiag where
  faultMask : UInt8
  commandMask : UInt8
  feedbackMask : UInt8
  brakeLowTimerMs : Nat
  headLowTimerMs : Nat
  leftLowTimerMs : Nat
  rightLowTimerMs : Nat
deriving DecidableEq, Repr

/-- `g_ultrasonicDtc*` and `g_dtcCheckTimerMs`. -/
structure UltrasonicDtc where
  status : UInt8
  consecutiveFailCount : Nat
  checkTimerMs : Nat
deriving DecidableEq, Repr

/-- `g_diagDangerBlink*`. -/
structure DangerBlink where
  active : Bool
  outputOn : Bool
  toggleCount : Nat
  timerMs : Nat
deriving DecidableEq, Repr

/-- The static variables of `BodyControl.c`, its pins and the system timer. -/
structure BodyControlState where
  requests : Requests
  horn : Horn
  ultrasonic : Ultrasonic
  sound : WarningSound
  blink : Blink
  button : CollisionButton
  diag : LampDiag
  dtc : UltrasonicDtc
  danger : DangerBlink
  pins : BodyPins
  stmUs : Nat
deriving DecidableEq, Repr

/-! ## CAN — `BodyCan.c` -/

/-- The six raw bytes of a 0x110 command. -/
structure BodyCommand where
  headlampRaw : UInt8
  turnSignalRaw : UInt8
  brakeLampRaw : UInt8
  hornRaw : UInt8
  collisionWarningRaw : UInt8
  controlModeRaw : UInt8
deriving DecidableEq, Repr

/-- The static variables of `BodyCan.c`; the counters that only a debugger reads are left
    out, except the one `BodyCan_SendPendingCollisionEventIfNeeded` compares. -/
structure BodyCanState where
  rx : BodyCommand
  rxUpdated : Bool
  rxCount : UInt32
  invalidCount : UInt32
  current : BodyCommand
  cmdTimeoutMs : Nat
  txBufferIndex : Nat
  txHeartbeatAliveCounter : UInt8
  heartbeatTxTimerMs : Nat
  bodyCanTimeMs : UInt32
  collisionEventPending : Bool
  pendingCollisionOccurrenceTimeMs : UInt32
  eventTxOkCount : UInt32
  udsRequestUpdated : Bool
  udsRequestByte : Vector UInt8 8
  udsSession : UInt8
deriving DecidableEq, Repr

/-! ## The ECU and its surroundings -/

structure Body where
  control : BodyControlState
  can : BodyCanState
  sent : List (Nat × CanMessage)
deriving DecidableEq, Repr

/-- What the echo line does around one measurement: when it is low, when it rises after
    the trigger pulse, and how long it stays high. -/
structure UltrasonicEcho where
  idleAfterUs : Nat
  riseAfterUs : Nat
  pulseUs : Nat
deriving DecidableEq, Repr

/-- The levels of the four lamp feedback inputs. -/
structure LampFeedback where
  brake : Bool
  head : Bool
  left : Bool
  right : Bool
deriving DecidableEq, Repr

/-- What the hardware shows to one call: the lamp feedback for the driven pins, the button
    level, the echoes of the measurements the call may make and the outcome of the
    messages it may try to send. -/
structure BodyInputs where
  feedback : BodyPins → LampFeedback
  buttonHigh : Bool
  periodicEcho : UltrasonicEcho
  dtcEcho : UltrasonicEcho
  requestEcho : UltrasonicEcho
  udsTxBusy : Bool
  collisionTxBusy : Bool
  heartbeatTxBusy : Bool

end BodyState
