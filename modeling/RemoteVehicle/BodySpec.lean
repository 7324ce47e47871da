import RemoteVehicle.BodyCan
import RemoteVehicle.HeldCommand

/-!
# BODY specification — what the body ECU is for

The abstract view of BODY: commands are accepted from the bus, time advances in 1 ms
ticks, and the six requested functions are a function of the last accepted command and
its age.  Diagnostic requests, collision reports and the 1 ms update of the outputs are
other events that the specification does not see.

`HeldCommand.Held` with limit 200 is then the whole specification.
-/

namespace BodySpec

open CanFrame BodyState BodyUds BodyCan HeldCommand
open BodyControl (noRequests)

/-! ## Accepted commands -/

/-- The command a frame delivers: identifier 0x110, six bytes, all valid. -/
def accepted (m : CanMessage) : Option BodyCommand :=
  if m.messageId = bodyCanCmdId ∧ m.dataLengthCode = bodyCanCmdDlc ∧
      bodyCanIsValidCommand (commandOfBytes (rxByte m)) = true then
    some (commandOfBytes (rxByte m))
  else none

/-- A diagnostic request: identifier 0x710, eight bytes. -/
def IsUdsRequest (m : CanMessage) : Prop :=
  m.messageId = bodyCanUdsReqId ∧ m.dataLengthCode = 8

instance (m : CanMessage) : Decidable (IsUdsRequest m) := by
  unfold IsUdsRequest; infer_instance

/-- Sample traffic.  Headlamp and horn in remote drive. -/
def lampFrame : CanMessage := fdMessage bodyCanCmdId bodyCanCmdDlc [1, 0, 0, 1, 0, 1]

/-- Hazard lights and brake lamp in remote drive. -/
def hazardFrame : CanMessage := fdMessage bodyCanCmdId bodyCanCmdDlc [0, 3, 1, 0, 0, 1]

/-- A hardware at rest: feedback as driven, button up, no echo, free buffers. -/
def restBodyInputs : BodyInputs where
  feedback := fun p => ⟨p.brakeLamp, p.headlamp, p.leftTurn, p.rightTurn⟩
  buttonHigh := false
  periodicEcho := ⟨0, 60000, 0⟩
  dtcEcho := ⟨0, 60000, 0⟩
  requestEcho := ⟨0, 60000, 0⟩
  udsTxBusy := false
  collisionTxBusy := false
  heartbeatTxBusy := false

/-! ## Requested functions -/

/-- **The meaning of a command**: hazard is both sides, and only remote drive requests
    anything. -/
def bodyDecode (c : BodyCommand) : Requests :=
  if c.controlModeRaw = bodyCanControlRemoteDrive then
    { headlampOn := c.headlampRaw == bodyCanOn
      brakeLampOn := c.brakeLampRaw == bodyCanOn
      leftTurnEnabled :=
        c.turnSignalRaw == bodyCanTurnLeft || c.turnSignalRaw == bodyCanTurnHazard
      rightTurnEnabled :=
        c.turnSignalRaw == bodyCanTurnRight || c.turnSignalRaw == bodyCanTurnHazard
      collisionWarningLampOn := c.collisionWarningRaw == bodyCanOn
      hornEnabled := c.hornRaw == bodyCanOn }
  else noRequests

/-- The specified requests for what is held. -/
def bodySpecRequests (h : Held BodyCommand) : Requests :=
  h.output bodyCanCmdTimeoutMs noRequests bodyDecode

/-! ## Free interleavings -/

/-- A received frame, or a call of the main loop. -/
inductive BodyEvent where
  | rxIsr (m : CanMessage)
  | call (inp : BodyInputs) (c : BodyCall)

def bodyStep (s : Body) : BodyEvent → Body
  | .rxIsr m => bodyCanRxIsrHandler m s
  | .call inp c => bodyCall inp c s

/-- What an event is for the specification. -/
def bodyOps : BodyEvent → List (Op BodyCommand)
  | .rxIsr m => (accepted m).toList.map .accept
  | .call _ .canUpdate1ms => [.tick]
  | .call _ _ => []

/-- The command held after a list of events. -/
def bodyHeldAfter (es : List BodyEvent) : Held BodyCommand :=
  Runs.run Held.step Held.empty (es.flatMap bodyOps)

/-! ## The latch inside BODY -/

/-- Time-out counter, updated flag, mailbox and request flags form a latch. -/
def bodyLatch (s : Body) : Latch BodyCommand Requests where
  counter := s.can.cmdTimeoutMs
  fresh := s.can.rxUpdated
  box := s.can.rx
  out := s.control.requests

end BodySpec
