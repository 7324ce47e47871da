import RemoteVehicle.PcBackend

/-!
# Operator page — `RemoteControlPage.jsx`

The handlers of the page: each changes what the page shows and may send control requests to
the backend.  A request is sent without waiting for the one before it.  `Page` holds the
state of the component and its references; the references to the pressed keys and to the
brake are always what is shown.
-/

namespace PcPage

open PcBackend

/-! ## Control requests -/

inductive Gear where
  | p
  | r
  | n
  | d
deriving DecidableEq, Repr

def gearText : Gear → String
  | .p => "P"
  | .r => "R"
  | .n => "N"
  | .d => "D"

def driveText : Drive → String
  | .forward => "FORWARD"
  | .backward => "BACKWARD"
  | .left => "LEFT"
  | .right => "RIGHT"
  | .forwardLeft => "FORWARD_LEFT"
  | .forwardRight => "FORWARD_RIGHT"
  | .backwardLeft => "BACKWARD_LEFT"
  | .backwardRight => "BACKWARD_RIGHT"
  | .stop => "STOP"

def onText (on : Bool) : String := if on then "ON" else "OFF"

/-- What the page sends. -/
inductive Request where
  | drive (command : Drive)
  | brake (on : Bool)
  | gear (gear : Gear)
  | indicatorLeft (on : Bool)
  | indicatorRight (on : Bool)
  | hazard (on : Bool)
  | horn (on : Bool)
  | ignition (on : Bool)
  | headLight (on : Bool)
deriving DecidableEq, Repr

/-- The two arguments of `sendControlCommand`. -/
def Request.args : Request → String × String
  | .drive command => ("drive", driveText command)
  | .brake on => ("brake", onText on)
  | .gear nextGear => ("gear", gearText nextGear)
  | .indicatorLeft on => ("indicator_left", onText on)
  | .indicatorRight on => ("indicator_right", onText on)
  | .hazard on => ("hazard", onText on)
  | .horn on => ("horn", onText on)
  | .ignition on => ("ignition", onText on)
  | .headLight on => ("head_light", onText on)

/-- The body that `sendControlCommand` posts. -/
def sendControlCommand (r : Request) : Json :=
  .obj [("type", .str r.args.1), ("value", .str r.args.2)]

/-! ## State -/

structure PressedKeys where
  arrowUp : Bool
  arrowDown : Bool
  arrowLeft : Bool
  arrowRight : Bool
deriving DecidableEq, Repr

def initialPressedKeys : PressedKeys := ⟨false, false, false, false⟩

structure Page where
  gear : Gear
  brakeOn : Bool
  leftSignalOn : Bool
  rightSignalOn : Bool
  hazardOn : Bool
  ignitionOn : Bool
  headLightOn : Bool
  hornOn : Bool
  pressedKeys : PressedKeys
  lastDriveCommand : Drive
deriving DecidableEq, Repr

/-- The page when it opens. -/
def pageInitial : Page where
  gear := .p
  brakeOn := false
  leftSignalOn := false
  rightSignalOn := false
  hazardOn := false
  ignitionOn := false
  headLightOn := false
  hornOn := false
  pressedKeys := initialPressedKeys
  lastDriveCommand := .stop

/-! ## Keys -/

inductive ArrowKey where
  | up
  | down
  | left
  | right
deriving DecidableEq, Repr

inductive Key where
  | arrow (k : ArrowKey)
  | space
  | gear (gear : Gear)
  /-- A key that is no target. -/
  | other
deriving DecidableEq, Repr

def PressedKeys.get (keys : PressedKeys) : ArrowKey → Bool
  | .up => keys.arrowUp
  | .down => keys.arrowDown
  | .left => keys.arrowLeft
  | .right => keys.arrowRight

/-- `{...keys, [key]: pressed}`. -/
def PressedKeys.set (keys : PressedKeys) (pressed : Bool) : ArrowKey → PressedKeys
  | .up => { keys with arrowUp := pressed }
  | .down => { keys with arrowDown := pressed }
  | .left => { keys with arrowLeft := pressed }
  | .right => { keys with arrowRight := pressed }

/-- `getDriveCommand`: left wins over right, forward over backward. -/
def getDriveCommand (keys : PressedKeys) : Drive :=
  if keys.arrowUp && keys.arrowLeft then .forwardLeft
  else if keys.arrowUp && keys.arrowRight then .forwardRight
  else if keys.arrowDown && keys.arrowLeft then .backwardLeft
  else if keys.arrowDown && keys.arrowRight then .backwardRight
  else if keys.arrowUp then .forward
  else if keys.arrowDown then .backward
  else if keys.arrowLeft then .left
  else if keys.arrowRight then .right
  else .stop

/-- `getGearForDriveCommand`. -/
def getGearForDriveCommand : Drive → Gear
  | .forward => .d
  | .forwardLeft => .d
  | .forwardRight => .d
  | .backward => .r
  | .backwardLeft => .r
  | .backwardRight => .r
  | _ => .n

/-- `sendDriveCommandIfChanged`. -/
def sendDriveCommandIfChanged (keys : PressedKeys) (p : Page) : Page × List Request :=
  let nextCommand := getDriveCommand keys
  if p.lastDriveCommand = nextCommand then (p, [])
  else
    ({ p with lastDriveCommand := nextCommand, gear := getGearForDriveCommand nextCommand },
      [.drive nextCommand])

/-- `handleBrakeOn`. -/
def handleBrakeOn (p : Page) : Page × List Request :=
  if p.brakeOn then (p, []) else ({ p with brakeOn := true }, [.brake true])

/-- `handleBrakeOff`. -/
def handleBrakeOff (p : Page) : Page × List Request :=
  if p.brakeOn then ({ p with brakeOn := false }, [.brake false]) else (p, [])

/-- `handleGearClick`. -/
def handleGearClick (nextGear : Gear) (p : Page) : Page × List Request :=
  ({ p with gear := nextGear }, [.gear nextGear])

/-- `handleKeyDown`; the repeats of a held key are ignored. -/
def handleKeyDown (key : Key) (p : Page) : Page × List Request :=
  match key with
  | .other => (p, [])
  | .space => handleBrakeOn p
  | .gear gear => handleGearClick gear p
  | .arrow k =>
      if p.pressedKeys.get k then (p, [])
      else
        let nextPressedKeys := p.pressedKeys.set true k
        sendDriveCommandIfChanged nextPressedKeys { p with pressedKeys := nextPressedKeys }

/-- `handleKeyUp`; for a gear key no arrow changes. -/
def handleKeyUp (key : Key) (p : Page) : Page × List Request :=
  match key with
  | .other => (p, [])
  | .space => handleBrakeOff p
  | .gear _ => sendDriveCommandIfChanged p.pressedKeys p
  | .arrow k =>
      let nextPressedKeys := p.pressedKeys.set false k
      sendDriveCommandIfChanged nextPressedKeys { p with pressedKeys := nextPressedKeys }

/-! ## Buttons -/

/-- `handleLeftSignalClick`. -/
def handleLeftSignalClick (p : Page) : Page × List Request :=
  let next := !p.leftSignalOn
  let p := { p with leftSignalOn := next }
  if next then
    ({ p with rightSignalOn := false }, [.indicatorLeft true, .indicatorRight false])
  else (p, [.indicatorLeft false])

/-- `handleRightSignalClick`. -/
def handleRightSignalClick (p : Page) : Page × List Request :=
  let next := !p.rightSignalOn
  let p := { p with rightSignalOn := next }
  if next then
    ({ p with leftSignalOn := false }, [.indicatorRight true, .indicatorLeft false])
  else (p, [.indicatorRight false])

/-- `handleHazardClick`. -/
def handleHazardClick (p : Page) : Page × List Request :=
  let next := !p.hazardOn
  ({ p with hazardOn := next }, [.hazard next])

/-- `handleHornOn`, `handleHornOff`. -/
def handleHornOn (p : Page) : Page × List Request := ({ p with hornOn := true }, [.horn true])
def handleHornOff (p : Page) : Page × List Request := ({ p with hornOn := false }, [.horn false])

/-- `handleIgnitionClick`. -/
def handleIgnitionClick (p : Page) : Page × List Request :=
  let next := !p.ignitionOn
  ({ p with ignitionOn := next }, [.ignition next])

/-- `handleHeadLightClick`. -/
def handleHeadLightClick (p : Page) : Page × List Request :=
  let next := !p.headLightOn
  ({ p with headLightOn := next }, [.headLight next])

/-! ## Events -/

/-- What the operator does. -/
inductive PageEvent where
  | keyDown (key : Key)
  | keyUp (key : Key)
  | gearClick (gear : Gear)
  | leftSignalClick
  | rightSignalClick
  | hazardClick
  | hornOn
  | hornOff
  | ignitionClick
  | headLightClick
deriving DecidableEq, Repr

/-- The page afterwards, and the requests that are sent, in order. -/
def pageHandle (p : Page) : PageEvent → Page × List Request
  | .keyDown key => handleKeyDown key p
  | .keyUp key => handleKeyUp key p
  | .gearClick gear => handleGearClick gear p
  | .leftSignalClick => handleLeftSignalClick p
  | .rightSignalClick => handleRightSignalClick p
  | .hazardClick => handleHazardClick p
  | .hornOn => handleHornOn p
  | .hornOff => handleHornOff p
  | .ignitionClick => handleIgnitionClick p
  | .headLightClick => handleHeadLightClick p

end PcPage
