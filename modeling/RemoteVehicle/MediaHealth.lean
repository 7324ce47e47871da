import RemoteVehicle.MediaUds

/-!
# MEDIA health monitor — `health_monitor.py`

A thread makes seven checks, one after the other, again and again.  A check looks at the system,
writes what it has found into the status and then reports it to the store of trouble codes.  The
UDS server reads both, from another thread, so a request may come between the two halves of a
check; `HealthEvent` takes them apart.

Percentages are exact.
-/

namespace MediaHealth

open MediaUds

/-- The checks of `_run_checks`, in their order. -/
inductive Check where
  | eth0
  | usb1Camera
  | usbCamera
  | mic
  | flask
  | someip
  | storage
deriving DecidableEq, Repr

/-- The check after this one; the last one is followed by a pause and the first one. -/
def Check.next : Check → Check
  | .eth0 => .usb1Camera
  | .usb1Camera => .usbCamera
  | .usbCamera => .mic
  | .mic => .flask
  | .flask => .someip
  | .someip => .storage
  | .storage => .eth0

/-- `DTCCode`. -/
def dtcCode : Check → DtcCode
  | .usb1Camera => 0xC30000
  | .usbCamera => 0xC30100
  | .mic => 0xC30200
  | .storage => 0xC30300
  | .flask => 0xC30400
  | .someip => 0xC30500
  | .eth0 => 0xC30600

/-- The data identifier with the status of a check. -/
def dataIdentifier : Check → Nat
  | .eth0 => 0x0300
  | .usb1Camera => 0x0301
  | .usbCamera => 0x0302
  | .mic => 0x0303
  | .flask => 0x0304
  | .someip => 0x0305
  | .storage => 0x0306

/-! ## What a check finds -/

/-- A camera: the answer of `has_recent_frame` if a recorder is attached, none in it for an
    exception; and the device, which may be there and give a frame. -/
structure Camera where
  recorder : Option (Option Bool)
  device : Bool
  streams : Bool
deriving DecidableEq, Repr

/-- The system as the checks see it; none is an exception. -/
structure Probes where
  operstate : Option (List Char)
  front : Camera
  rear : Camera
  /-- The sound cards in order: whether they have `usbid` and `pcm0c`. -/
  cards : List (Bool × Bool)
  /-- `connect_ex` returned 0. -/
  connects : Option Bool
  /-- The lines of `/proc/net/udp`. -/
  udpLines : Option (List (List Char))
  /-- Used and total bytes. -/
  diskUsage : Option (Nat × Nat)
deriving DecidableEq, Repr

/-- `_recorder_has_recent_frame`. -/
def recorderHasRecentFrame : Option (Option Bool) → Bool
  | none => false
  | some answer => answer.getD false

/-- `strip`. -/
def strip (text : List Char) : List Char :=
  ((text.dropWhile Char.isWhitespace).reverse.dropWhile Char.isWhitespace).reverse

def checkEth0 (p : Probes) : Bool :=
  match p.operstate with
  | none => false
  | some text => strip text == ['u', 'p']

/-- `_check_usb1_camera`. -/
def checkUsb1Camera (p : Probes) : Bool :=
  let ok := recorderHasRecentFrame p.front.recorder
  if p.front.recorder = none then (if p.front.device then p.front.streams else false) else ok

/-- `_check_usb_camera`. -/
def checkUsbCamera (p : Probes) : Bool :=
  let ok := recorderHasRecentFrame p.rear.recorder
  if p.rear.recorder = none then
    let canStream := if p.rear.device then p.rear.streams else false
    p.rear.device && canStream
  else ok

/-- `_find_usb_capture_card`. -/
def findUsbCaptureCard (cards : List (Bool × Bool)) : Option (Bool × Bool) :=
  cards.find? fun card => card.1 && card.2

def checkMic (p : Probes) : Bool := (findUsbCaptureCard p.cards).isSome

/-- `_tcp_open`. -/
def checkFlask (p : Probes) : Bool := p.connects.getD false

/-- `_udp_bound`: the port, 30491, in hexadecimal anywhere in a line. -/
def checkSomeip (p : Probes) : Bool :=
  match p.udpLines with
  | none => false
  | some lines => lines.any fun line => decide ([':', '7', '7', '1', 'B'] <:+: line)

/-- `used_pct`; nothing is used of a disk that cannot be asked. -/
def usedPct (p : Probes) : ℚ≥0 :=
  match p.diskUsage with
  | none => 0
  | some (used, total) => if total = 0 then 0 else used / total * 100

/-- `STORAGE_WARN_PCT`. -/
def storageWarnPct : ℚ≥0 := 90

/-- `ok`. -/
def Check.ok (p : Probes) : Check → Bool
  | .eth0 => checkEth0 p
  | .usb1Camera => checkUsb1Camera p
  | .usbCamera => checkUsbCamera p
  | .mic => checkMic p
  | .flask => checkFlask p
  | .someip => checkSomeip p
  | .storage => decide (usedPct p ≤ storageWarnPct)

/-- `status.update`. -/
def Check.update (p : Probes) (s : SystemStatus) : Check → SystemStatus
  | .eth0 => { s with eth0 := checkEth0 p }
  | .usb1Camera => { s with usb1 := checkUsb1Camera p }
  | .usbCamera => { s with usb := checkUsbCamera p }
  | .mic => { s with mic := checkMic p }
  | .flask => { s with flask := checkFlask p }
  | .someip => { s with someip := checkSomeip p }
  | .storage => { s with storageUsedPct := usedPct p }

/-- `_set_or_clear`. -/
def setOrClear (now : ℚ) (ok : Bool) (code : DtcCode) (dtcs : List DtcRow) : List DtcRow :=
  if ok then clearActive now code dtcs else setActive now code dtcs

/-! ## The monitor and the server -/

/-- Where the thread is: before a check, or in it with something to report. -/
inductive Phase where
  | ready (c : Check)
  | found (c : Check) (ok : Bool)
deriving DecidableEq, Repr

structure Health where
  status : SystemStatus
  dtcs : List DtcRow
  phase : Phase

/-- `SystemStatus.__init__`, and the trouble codes that were stored before. -/
def Health.initial (dtcs : List DtcRow) : Health where
  status := { eth0 := true, usb1 := false, usb := false, mic := false, flask := false,
              someip := false, storageUsedPct := 0 }
  dtcs := dtcs
  phase := .ready .eth0

/-- The first half of a check, the second half, which may raise, and a UDS request. -/
inductive HealthEvent where
  | probe (p : Probes)
  | report (now : ℚ) (raises : Bool)
  | request (udsData : List UInt8)

/-- One step; the thread does what comes next.  After an exception it starts again. -/
def healthStep (h : Health) : HealthEvent → Health
  | .probe p =>
      match h.phase with
      | .ready c => { h with status := c.update p h.status, phase := .found c (c.ok p) }
      | .found _ _ => h
  | .report now raises =>
      match h.phase with
      | .ready _ => h
      | .found c ok =>
          if raises then { h with phase := .ready .eth0 }
          else { h with dtcs := setOrClear now ok (dtcCode c) h.dtcs, phase := .ready c.next }
  | .request udsData => { h with dtcs := (handle udsData h.status h.dtcs).2 }

end MediaHealth
