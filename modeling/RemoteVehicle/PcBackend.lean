import RemoteVehicle.BigEndian
import RemoteVehicle.MainState

/-!
# PC backend — `pc_control_backend.py`

The backend of the operator page: HTTP requests write two dictionaries, a thread turns one
of them into a control packet every 20 ms, and two threads receive the vehicle's status and
event datagrams.

A request body is a parsed JSON value.  Python compares it with strings and looks it up in
lists and dictionaries; `Json.is` and the two look-up functions are what these comparisons
do.  The integers in the dictionaries are unbounded, as in Python.
-/

namespace PcBackend

open MainState

/-! ## JSON -/

/-- A parsed JSON value; the fields of an object stand in the order of the text. -/
inductive Json where
  | null
  | bool (b : Bool)
  | num (q : ℚ)
  | str (s : String)
  | arr (items : List Json)
  | obj (fields : List (String × Json))

/-- `value == s`. -/
def Json.is (s : String) : Json → Bool
  | .str t => t == s
  | _ => false

/-- `value is None`. -/
def Json.isNone : Json → Bool
  | .null => true
  | _ => false

/-- `not value`. -/
def Json.falsy : Json → Bool
  | .null => true
  | .bool b => !b
  | .num q => q == 0
  | .str s => s == ""
  | .arr items => items.isEmpty
  | .obj fields => fields.isEmpty

/-- `command_data.get(key)`: a later field of the same name replaces an earlier one. -/
def getField (key : String) (fields : List (String × Json)) : Json :=
  (fields.reverse.lookup key).getD .null

/-- A value that a dictionary takes as a key. -/
def Json.hashable : Json → Bool
  | .arr _ => false
  | .obj _ => false
  | _ => true

/-! ## State -/

/-- `control_state`. -/
structure ControlState where
  sequenceNumber : Nat
  accel : Nat
  brake : Nat
  steer : Nat
  gear : Nat
  turnSignal : Nat
  horn : Nat
  ignition : Nat
  headLight : Nat
deriving DecidableEq, Repr

/-- `vehicle_state` without the constant `vehicle_id`. -/
structure VehicleState where
  remoteControlActive : Bool
  drivingState : Nat
deriving DecidableEq, Repr

structure Pc where
  control : ControlState
  vehicle : VehicleState
deriving DecidableEq, Repr

/-- The dictionaries as the module creates them. -/
def pcInitial : Pc where
  control := ⟨0, 0, 0, 0, 0, 0, 0, 0, 0⟩
  vehicle := ⟨false, 0⟩

/-- `reset_control_state`; the sequence number goes on. -/
def resetControlState (s : ControlState) : ControlState :=
  { s with accel := 0, brake := 0, steer := 0, gear := 0, turnSignal := 0, horn := 0,
           ignition := 0, headLight := 0 }

/-! ## Control packet -/

/-- The packet that `build_control_packet` returns. -/
def controlPacket (s : ControlState) : List UInt8 :=
  [UInt8.ofNat s.sequenceNumber, UInt8.ofNat s.accel, UInt8.ofNat s.brake, UInt8.ofNat s.steer,
   UInt8.ofNat s.gear, UInt8.ofNat s.turnSignal, UInt8.ofNat s.horn, UInt8.ofNat s.ignition,
   UInt8.ofNat s.headLight, 0x00, 0x00, 0x00, 0x00]

/-- What it leaves behind. -/
def buildControlPacket (s : ControlState) : ControlState :=
  { s with sequenceNumber := (s.sequenceNumber % 256 + 1) % 256 }

/-! ## Requests -/

/-- The messages of a refused request. -/
inductive Refusal where
  /-- "control command body is empty" -/
  | emptyBody
  /-- "type field is required" -/
  | typeRequired
  /-- "invalid drive value: {value}" -/
  | invalidDrive (value : Json)
  /-- "invalid gear value: {value}" -/
  | invalidGear (value : Json)
  /-- "unknown control type: {command_type}" -/
  | unknownType (commandType : Json)

/-- The answer to a request. -/
inductive Response where
  /-- "OK". -/
  | ok
  /-- "BAD_REQUEST" with error code 1. -/
  | badRequest (r : Refusal)
  /-- An exception that nobody catches. -/
  | raised

def Response.statusCode : Response → Nat
  | .ok => 200
  | .badRequest _ => 400
  | .raised => 500

/-- `start_remote_control`. -/
def startRemoteControl (s : Pc) : Response × Pc :=
  (.ok, ⟨resetControlState s.control, ⟨true, 0⟩⟩)

/-- `stop_remote_control`. -/
def stopRemoteControl (s : Pc) : Response × Pc :=
  (.ok, ⟨resetControlState s.control, ⟨false, 0⟩⟩)

/-- The drive commands. -/
inductive Drive where
  | forward
  | backward
  | left
  | right
  | forwardLeft
  | forwardRight
  | backwardLeft
  | backwardRight
  | stop
deriving DecidableEq, Repr

/-- `valid_drive_values`. -/
def validDriveValues : List (String × Drive) :=
  [("FORWARD", .forward), ("BACKWARD", .backward), ("LEFT", .left), ("RIGHT", .right),
   ("FORWARD_LEFT", .forwardLeft), ("FORWARD_RIGHT", .forwardRight),
   ("BACKWARD_LEFT", .backwardLeft), ("BACKWARD_RIGHT", .backwardRight), ("STOP", .stop)]

/-- `gear_map`. -/
def gearMap : List (String × Nat) := [("P", 0), ("R", 1), ("N", 2), ("D", 3)]

/-- The entry of a value, if it is one of the keys. -/
def lookupValue {α : Type} (table : List (String × α)) : Json → Option α
  | .str s => table.lookup s
  | _ => none

/-- `control_state[key] = 1 if value == "ON" else 0`. -/
def onOff (value : Json) : Nat := if value.is "ON" then 1 else 0

/-- The drive branch: accelerator and steering are cleared first, the gear stays with no
    command. -/
def applyDrive (d : Drive) (s : Pc) : Pc :=
  let c := { s.control with accel := 0, steer := 0 }
  match d with
  | .forward => ⟨{ c with accel := 1, gear := 3 }, { s.vehicle with drivingState := 1 }⟩
  | .backward => ⟨{ c with accel := 1, gear := 1 }, { s.vehicle with drivingState := 1 }⟩
  | .left => ⟨{ c with gear := 2, steer := 1 }, { s.vehicle with drivingState := 0 }⟩
  | .right => ⟨{ c with gear := 2, steer := 2 }, { s.vehicle with drivingState := 0 }⟩
  | .forwardLeft =>
      ⟨{ c with accel := 1, gear := 3, steer := 1 }, { s.vehicle with drivingState := 1 }⟩
  | .forwardRight =>
      ⟨{ c with accel := 1, gear := 3, steer := 2 }, { s.vehicle with drivingState := 1 }⟩
  | .backwardLeft =>
      ⟨{ c with accel := 1, gear := 1, steer := 1 }, { s.vehicle with drivingState := 1 }⟩
  | .backwardRight =>
      ⟨{ c with accel := 1, gear := 1, steer := 2 }, { s.vehicle with drivingState := 1 }⟩
  | .stop => ⟨{ c with accel := 0, steer := 0, gear := 2 }, { s.vehicle with drivingState := 0 }⟩

/-- The accelerator and the steering after a drive command. -/
def driveAccel : Drive → Nat
  | .left => 0
  | .right => 0
  | .stop => 0
  | _ => 1

def driveSteer : Drive → Nat
  | .left => 1
  | .forwardLeft => 1
  | .backwardLeft => 1
  | .right => 2
  | .forwardRight => 2
  | .backwardRight => 2
  | _ => 0

@[simp] theorem applyDrive_accel (d : Drive) (s : Pc) :
    (applyDrive d s).control.accel = driveAccel d := by
  cases d <;> rfl

@[simp] theorem applyDrive_steer (d : Drive) (s : Pc) :
    (applyDrive d s).control.steer = driveSteer d := by
  cases d <;> rfl

@[simp] theorem applyDrive_ignition (d : Drive) (s : Pc) :
    (applyDrive d s).control.ignition = s.control.ignition := by
  cases d <;> rfl

/-- The brake branch. -/
def applyBrake (value : Json) (s : Pc) : Pc where
  control := { s.control with brake := onOff value }
  vehicle := if value.is "ON" then { s.vehicle with drivingState := 0 } else s.vehicle

/-- The two indicator branches: switching one side off leaves the other side on. -/
def applyIndicator (side : Nat) (value : Json) (s : Pc) : Pc :=
  let turnSignal :=
    if value.is "ON" then side
    else if s.control.turnSignal = side then 0
    else s.control.turnSignal
  { s with control := { s.control with turnSignal := turnSignal } }

/-- The hazard branch. -/
def applyHazard (value : Json) (s : Pc) : Pc :=
  { s with control := { s.control with turnSignal := if value.is "ON" then 3 else 0 } }

/-- `control_command` on a body with these fields. -/
def controlFields (fields : List (String × Json)) (s : Pc) : Response × Pc :=
  let commandType := getField "type" fields
  let value := getField "value" fields
  if commandType.isNone then (.badRequest .typeRequired, s)
  else if commandType.is "drive" then
    match lookupValue validDriveValues value with
    | none => (.badRequest (.invalidDrive value), s)
    | some d => (.ok, applyDrive d s)
  else if commandType.is "brake" then (.ok, applyBrake value s)
  else if commandType.is "gear" then
    -- a list or an object cannot be a key
    if value.hashable = false then (.raised, s)
    else
      match lookupValue gearMap value with
      | none => (.badRequest (.invalidGear value), s)
      | some gear => (.ok, { s with control := { s.control with gear := gear } })
  else if commandType.is "indicator_left" then (.ok, applyIndicator 1 value s)
  else if commandType.is "indicator_right" then (.ok, applyIndicator 2 value s)
  else if commandType.is "hazard" then (.ok, applyHazard value s)
  else if commandType.is "horn" then
    (.ok, { s with control := { s.control with horn := onOff value } })
  else if commandType.is "ignition" then
    (.ok, { s with control := { s.control with ignition := onOff value } })
  else if commandType.is "head_light" then
    (.ok, { s with control := { s.control with headLight := onOff value } })
  else (.badRequest (.unknownType commandType), s)

/-- `control_command`; without a body, or with one that is no JSON, `get_json` returns
    `None`. -/
def controlCommand (body : Option Json) (s : Pc) : Response × Pc :=
  match body with
  | none => (.badRequest .emptyBody, s)
  | some commandData =>
      if commandData.falsy then (.badRequest .emptyBody, s)
      else
        match commandData with
        | .obj fields => controlFields fields s
        -- a list or a number has no `get`
        | _ => (.raised, s)

/-! ## Runs -/

/-- What the threads of the server do to the dictionaries. -/
inductive PcEvent where
  /-- `POST /remote-control/start`. -/
  | start
  /-- `POST /remote-control/stop`. -/
  | stop
  /-- `POST /control`. -/
  | control (body : Option Json)
  /-- `udp_control_sender_loop` builds and sends a packet. -/
  | send

/-- The answer to a request and the state after it. -/
def pcHandle (s : Pc) : PcEvent → Response × Pc
  | .start => startRemoteControl s
  | .stop => stopRemoteControl s
  | .control body => controlCommand body s
  | .send => (.ok, { s with control := buildControlPacket s.control })

def pcStep (s : Pc) (e : PcEvent) : Pc := (pcHandle s e).2

/-! ## Reception -/

/-- `udp_speed_receiver_loop`: the speed in km/h of a datagram that is long enough. -/
def speedOfDatagram (data : List UInt8) : Option ℚ :=
  let data := data.take 64
  if data.length < 3 then none
  else
    let speedRaw := (data.getD 1 0).toNat ||| ((data.getD 2 0).toNat <<< 8)
    some ((speedRaw : ℚ) / 100)

/-- `EVENT_TYPES`. -/
def eventTypes : List (Nat × String) :=
  [(1, "COLLISION"), (2, "COMM_WARN"), (3, "COMM_LOST"), (4, "COMM_RESTORED"),
   (5, "DIAG_MODE"), (6, "DRIVE_MODE"), (7, "CAN1_LOST"), (8, "CAN1_RESTORED"),
   (9, "CAN2_LOST"), (10, "CAN2_RESTORED")]

/-- What `parse_event_packet` returns; the time of reception is left out. -/
structure EventPacket where
  eventType : Nat
  eventName : String
  eventData : Nat
  timestampMs : Nat
  sourceIp : IpAddr
  sourcePort : Nat
  raw : List UInt8
deriving DecidableEq, Repr

/-- `parse_event_packet`. -/
def parseEventPacket (data : List UInt8) (addr : IpAddr × Nat) : Option EventPacket :=
  if data.length < 6 then none
  else
    let eventType := (data.getD 0 0).toNat
    some {
      eventType := eventType
      eventName := (eventTypes.lookup eventType).getD "UNKNOWN"
      eventData := (data.getD 1 0).toNat
      timestampMs := BigEndian.value ((data.drop 2).take 4)
      sourceIp := addr.1
      sourcePort := addr.2
      raw := data.take 6 }

end PcBackend
