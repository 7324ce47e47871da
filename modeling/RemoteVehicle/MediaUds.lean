import Mathlib.Data.List.Sort
import Mathlib.Data.NNRat.Floor
import RemoteVehicle.BigEndian
import RemoteVehicle.KeyedTable

/-!
# MEDIA diagnostics — `dtc_store.py`, `uds_server.py` and the snapshot of `health_monitor.py`

The store is the table `dtcs` with its rows in the order of the primary key; a query sorts
them, and rows of one time stay in that order.  Times are those of `time.time`, in seconds.
-/

namespace MediaUds

open BigEndian KeyedTable

/-! ## The store -/

/-- A trouble code is a number of three bytes. -/
abbrev DtcCode := Fin 0x1000000

/-- A row of the table `dtcs`. -/
structure DtcRow where
  dtcCode : DtcCode
  statusByte : UInt8
  firstOccurrence : ℚ
  lastOccurrence : ℚ
  occurrenceCount : Nat
  faultStartTime : Option ℚ
  recoveredTime : Option ℚ
  durationSec : Option ℚ
deriving DecidableEq

/-- `DTCStore._query`: the rows whose status meets the mask, the latest first. -/
def query (mask : UInt8) (dtcs : List DtcRow) : List DtcRow :=
  (dtcs.filter fun row => row.statusByte &&& mask ≠ 0).insertionSort
    fun a b => b.lastOccurrence ≤ a.lastOccurrence

/-- `DTCStore.get_all_dtcs`. -/
def getAllDtcs (statusMask : UInt8) (dtcs : List DtcRow) : List DtcRow := query statusMask dtcs

namespace DTCStatusBit

def testFailed : UInt8 := 0x01
def confirmed : UInt8 := 0x08

end DTCStatusBit

/-- `DTCStore.set_active`. -/
def setActive (now : ℚ) (code : DtcCode) (dtcs : List DtcRow) : List DtcRow :=
  let newStatus := DTCStatusBit.testFailed ||| DTCStatusBit.confirmed
  match select DtcRow.dtcCode code dtcs with
  | none =>
      insert DtcRow.dtcCode
        { dtcCode := code
          statusByte := newStatus
          firstOccurrence := now
          lastOccurrence := now
          occurrenceCount := 1
          faultStartTime := some now
          recoveredTime := none
          durationSec := none } dtcs
  | some row =>
      if row.statusByte &&& DTCStatusBit.testFailed = 0 then
        -- it has come back: a new episode, and the last recovery is forgotten
        update DtcRow.dtcCode code (fun row =>
          { row with
            statusByte := row.statusByte ||| newStatus
            lastOccurrence := now
            occurrenceCount := row.occurrenceCount + 1
            faultStartTime := some now
            recoveredTime := none
            durationSec := none }) dtcs
      else update DtcRow.dtcCode code (fun row => { row with lastOccurrence := now }) dtcs

/-- `row["fault_start_time"] or now`; the time 0 counts as none. -/
def startOr (now : ℚ) (faultStartTime : Option ℚ) : ℚ :=
  match faultStartTime with
  | none => now
  | some start => if start = 0 then now else start

/-- `DTCStore.clear_active`. -/
def clearActive (now : ℚ) (code : DtcCode) (dtcs : List DtcRow) : List DtcRow :=
  match select DtcRow.dtcCode code dtcs with
  | none => dtcs
  | some row =>
      if row.statusByte &&& DTCStatusBit.testFailed ≠ 0 then
        let start := startOr now row.faultStartTime
        let duration := now - start
        update DtcRow.dtcCode code (fun row =>
          { row with
            statusByte := row.statusByte &&& ~~~DTCStatusBit.testFailed
            recoveredTime := some now
            durationSec := some duration
            faultStartTime := none }) dtcs
      else dtcs

/-- `DTCStore.clear_all`. -/
def clearAll (_dtcs : List DtcRow) : List DtcRow := []

/-- What the services and the monitor do to the store. -/
inductive StoreOp where
  | setActive (now : ℚ) (code : DtcCode)
  | clearActive (now : ℚ) (code : DtcCode)
  | clearAll
deriving DecidableEq

def storeStep (dtcs : List DtcRow) : StoreOp → List DtcRow
  | .setActive now code => setActive now code dtcs
  | .clearActive now code => clearActive now code dtcs
  | .clearAll => clearAll dtcs

/-! ## The status -/

/-- `SystemStatus.snapshot`. -/
structure SystemStatus where
  eth0 : Bool
  usb1 : Bool
  usb : Bool
  mic : Bool
  flask : Bool
  someip : Bool
  storageUsedPct : ℚ≥0

/-! ## Services -/

/-- `NODE_ID`, "MED1". -/
def nodeId : List UInt8 := [0x4D, 0x45, 0x44, 0x31]

namespace NRC

def serviceNotSupported : UInt8 := 0x11
def subfunctionNotSupported : UInt8 := 0x12
def incorrectMsgLength : UInt8 := 0x13
def requestOutOfRange : UInt8 := 0x31

end NRC

/-- `_nrc`. -/
def nrc (sid code : UInt8) : List UInt8 := [0x7F, sid, code]

/-- `_dsc`. -/
def dsc (data : List UInt8) : List UInt8 :=
  if data.length < 2 then nrc 0x10 NRC.incorrectMsgLength
  else if data.getD 1 0 ≠ 0x01 then nrc 0x10 NRC.subfunctionNotSupported
  else [0x50, 0x01, 0x00, 0x19, 0x01, 0xF4]

/-- A flag as a byte. -/
def flag (b : Bool) : List UInt8 := [if b then 1 else 0]

/-- The value of a data identifier, if there is one. -/
def identifierValue (did : Nat) (s : SystemStatus) : Option (List UInt8) :=
  if did = 0xF190 then some nodeId
  else if did = 0x0300 then some (flag s.eth0)
  else if did = 0x0301 then some (flag s.usb1)
  else if did = 0x0302 then some (flag s.usb)
  else if did = 0x0303 then some (flag s.mic)
  else if did = 0x0304 then some (flag s.flask)
  else if did = 0x0305 then some (flag s.someip)
  else if did = 0x0306 then some [UInt8.ofNat (min ⌊s.storageUsedPct⌋₊ 100)]
  else none

/-- `_rdbi`. -/
def rdbi (data : List UInt8) (s : SystemStatus) : List UInt8 :=
  if data.length < 3 then nrc 0x22 NRC.incorrectMsgLength
  else
    let did := value ((data.drop 1).take 2)
    match identifierValue did s with
    | none => nrc 0x22 NRC.requestOutOfRange
    | some val => 0x62 :: (digits 2 did ++ val)

/-- A row in a response. -/
def dtcRecord (row : DtcRow) : List UInt8 := digits 3 row.dtcCode ++ [row.statusByte]

/-- `_rdtc`. -/
def rdtc (data : List UInt8) (dtcs : List DtcRow) : List UInt8 :=
  if data.length < 2 then nrc 0x19 NRC.incorrectMsgLength
  else if data.getD 1 0 = 0x02 then
    if data.length < 3 then nrc 0x19 NRC.incorrectMsgLength
    else [0x59, 0x02, 0xFF] ++ (getAllDtcs (data.getD 2 0) dtcs).flatMap dtcRecord
  else nrc 0x19 NRC.subfunctionNotSupported

/-- `_clear_dtc`. -/
def clearDtc (data : List UInt8) (dtcs : List DtcRow) : List UInt8 × List DtcRow :=
  if data.length < 4 then (nrc 0x14 NRC.incorrectMsgLength, dtcs)
  else if value ((data.drop 1).take 3) ≠ 0xFFFFFF then (nrc 0x14 NRC.requestOutOfRange, dtcs)
  else ([0x54], clearAll dtcs)

/-- `LocalUDSServer.handle`. -/
def handle (udsData : List UInt8) (status : SystemStatus) (dtcs : List DtcRow) :
    List UInt8 × List DtcRow :=
  match udsData with
  | [] => (nrc 0x00 NRC.incorrectMsgLength, dtcs)
  | sid :: _ =>
      if sid = 0x10 then (dsc udsData, dtcs)
      else if sid = 0x22 then (rdbi udsData status, dtcs)
      else if sid = 0x19 then (rdtc udsData dtcs, dtcs)
      else if sid = 0x14 then clearDtc udsData dtcs
      else (nrc sid NRC.serviceNotSupported, dtcs)

end MediaUds
