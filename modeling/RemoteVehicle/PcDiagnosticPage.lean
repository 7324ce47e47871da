import RemoteVehicle.PcPreDrive

/-!
# Diagnosis dashboard — `DiagnosticPage.jsx`

The page asks for MEDIA first and then for a full scan, clears all codes and starts function tests.
It holds the codes twice: on the cards and in a table, which are changed apart.

A fetch is in flight until its reply comes.  The buttons are disabled while `loading`, but the
timer that starts the first diagnosis is not, so more than one fetch may be in flight, and any of
them ends `loading`.  The log, the time of the last update and the texts below a test are left out.
-/

namespace PcDiagnosticPage

open PcDiagnostics PcFullScan
open PcPreDrive (Tone CardState CardSummary FunctionTest TestResult TestReply ScanReply formatValue
  ecuState resultOk)

/-! ## Cards -/

/-- What a row shows. -/
inductive Cell where
  | text (s : String)
  /-- "0x{session:02X}" -/
  | session (b : UInt8)
deriving DecidableEq, Repr

/-- A row of a card; those of the page itself have no tone. -/
structure DidRow where
  label : String
  value : Cell
  unit : Option String
  tone : Option Tone
deriving DecidableEq, Repr

inductive Address where
  | text (s : String)
  /-- "0x{logical_address:04X}" -/
  | logical (n : Nat)
deriving DecidableEq, Repr

structure Card where
  id : String
  name : String
  address : Address
  route : String
  state : CardState
  summary : CardSummary
  dids : List DidRow
  dtcs : List DtcItem
deriving DecidableEq, Repr

/-- `buildInitialEcus`, MAIN. -/
def initialMain : Card where
  id := "main"
  name := "MAIN ECU"
  address := .text "Central Gateway"
  route := "DoIP 192.168.10.2:13400"
  state := .standby
  summary := .text "Routing Activation 대기 중"
  dids :=
    [⟨"Routing Activation", .text "대기", none, none⟩, ⟨"MAIN 자체 진단", .text "대기", none, none⟩]
  dtcs := []

/-- `buildInitialEcus`, ACT. -/
def initialAct : Card where
  id := "act"
  name := "ACT ECU"
  address := .text "Drive Unit"
  route := "MAIN 경유 / CAN Bus 1"
  state := .standby
  summary := .text "Drive / Steering / Brake"
  dids := []
  dtcs := []

/-- `buildInitialEcus`, BODY. -/
def initialBody : Card where
  id := "body"
  name := "BODY ECU"
  address := .text "Body Unit"
  route := "MAIN 경유 / CAN Bus 2"
  state := .standby
  summary := .text "Lighting / Ultrasonic / Collision"
  dids := []
  dtcs := []

/-- `buildInitialEcus`, MEDIA. -/
def initialMedia : Card where
  id := "media"
  name := "MEDIA PI"
  address := .text "Media Unit"
  route := "DoIP 192.168.20.2:13401"
  state := .standby
  summary := .text "Camera / Audio / Accident Log"
  dids := []
  dtcs := []

/-- `buildInitialEcus`. -/
def buildInitialEcus : List Card := [initialMain, initialAct, initialBody, initialMedia]

/-- `getDidTone`, of an item of the backend, which has no tone. -/
def getDidTone (item : DidResult) : Tone :=
  if item.ok = false then .bad
  else if item.value ∈ ["미연결", "DOWN", "중지", "두절", "응답 오류", "DID 불일치"].map Value.text then
    .bad
  else if item.value = .text "NRC" then .warn
  else .good

/-- `makeDids`. -/
def makeDids (items : List DidResult) : List DidRow :=
  items.map fun item =>
    ⟨item.label, .text (formatValue item.value), item.unit, some (getDidTone item)⟩

/-- Some row is bad; `getDidTone` of a row that has a tone is that tone. -/
def hasBadDid (dids : List DidRow) : Bool := dids.any fun row => row.tone == some .bad

/-- The row of a routing activation. -/
def routingDid (success : Bool) : DidRow where
  label := "Routing Activation"
  value := .text (if success then "성공" else "거부")
  unit := none
  tone := some (if success then .good else .bad)

/-- The row of a session. -/
def sessionDid (session : SessionResult) : DidRow where
  label := "진단 세션"
  value := .session session.session
  unit := none
  tone := some (if session.ok then .good else .bad)

/-- `buildMainCard`. -/
def buildMainCard : Except Raised SectionResult → Card
  | .error e =>
      { initialMain with
        state := .offline
        summary := .raised e "MAIN ECU Routing Activation 실패"
        dids := [⟨"Routing Activation", .text "실패", none, some .bad⟩]
        dtcs := [] }
  | .ok r =>
      let success := r.routingActivation.responseCode == 0x10
      let dids := routingDid success :: sessionDid r.session :: makeDids r.dids
      { initialMain with
        state := if success && !hasBadDid dids && r.dtcs.items.isEmpty then .ready else .warning
        summary := .text "CAN 기반 ECU 진단 중계 + 자체 통신 DTC"
        dids := dids
        dtcs := r.dtcs.items }

/-- `buildRoutedEcuCard`; an initial card has no session, no error and no items, and comes out as
    it is. -/
def buildRoutedEcuCard (ecu : Option EcuEntry) (initial : Card) : Card :=
  match ecu with
  | none => initial
  | some ecu =>
      { id := ecu.id
        name := ecu.name
        address := .logical ecu.logicalAddress
        route := if ecu.id = "act" then "MAIN 경유 / CAN Bus 1" else "MAIN 경유 / CAN Bus 2"
        state := ecuState ecu.state
        summary := match ecu.error with
          | some e => .raised (.doip e) ""
          | none => .text
              (if ecu.id = "act" then "Drive / Steering / Brake"
                else "Lighting / Ultrasonic / Collision")
        dids := (ecu.session.map sessionDid).toList ++ makeDids ecu.dids
        dtcs := ecu.dtcs.items }

/-- `buildRoutedErrorCard`. -/
def buildRoutedErrorCard (template : Card) (e : Raised) : Card :=
  { template with
    state := .offline
    summary := .raised e "MAIN ECU 경유 진단 실패"
    dids := [⟨"MAIN 경유 진단", .text "실패", none, some .bad⟩]
    dtcs := [] }

/-- `buildMediaCard`. -/
def buildMediaCard : Except Raised SectionResult → Card
  | .error e =>
      { initialMedia with
        state := .offline
        summary := .raised e "Media Pi DoIP 연결 실패"
        dids := [⟨"DoIP 연결", .text "실패", none, some .bad⟩]
        dtcs := [] }
  | .ok r =>
      let success := r.routingActivation.responseCode == 0x10
      let hasBad := r.dids.any fun item => getDidTone item == .bad
      { initialMedia with
        state := if success && r.dtcs.items.isEmpty && !hasBad then .normal else .warning
        dids := routingDid success :: sessionDid r.session :: makeDids r.dids
        dtcs := r.dtcs.items }

/-- The card of an ECU behind MAIN, in `buildEcus`. -/
def routedCard (mainEcus : Except Raised ScanResult) (initial : Card) : Card :=
  match mainEcus with
  | .error e => buildRoutedErrorCard initial e
  | .ok r => buildRoutedEcuCard (r.ecus.find? fun ecu => ecu.id == initial.id) initial

/-- `buildEcus`. -/
def buildEcus (scan : FullScan) : List Card :=
  [buildMainCard scan.mainRouting, routedCard scan.mainEcus initialAct,
   routedCard scan.mainEcus initialBody, buildMediaCard scan.media]

/-- `mergeEcuById`. -/
def mergeEcuById (current : List Card) (next : Card) : List Card :=
  current.map fun ecu => if ecu.id = next.id then next else ecu

/-! ## Table of codes -/

structure DtcRow where
  ecu : String
  code : Nat
  active : Bool
  description : String
deriving DecidableEq, Repr

/-- A row; its status is "Active" or "Stored". -/
def dtcRow (name : String) (dtc : DtcItem) : DtcRow where
  ecu := name
  code := dtc.code
  active := dtc.active
  description := if dtc.description = "" then "정의되지 않은 DTC" else dtc.description

/-- `buildDtcRows`. -/
def buildDtcRows (ecus : List Card) : List DtcRow :=
  ecus.flatMap fun ecu => ecu.dtcs.map (dtcRow ecu.name)

/-! ## Routing -/

inductive RoutingStatus where
  | standby
  | offline
  | active
deriving DecidableEq, Repr

/-- `getRoutingStatus`. -/
def getRoutingStatus : Option Card → RoutingStatus
  | none => .standby
  | some ecu =>
      let routing := ecu.dids.find? fun item => item.label == "Routing Activation"
      if ecu.state = .standby ∨ routing.map (·.value) = some (.text "대기") then .standby
      else if ecu.state = .offline ∨ routing.bind (·.tone) = some .bad then .offline
      else .active

/-! ## The page -/

/-- A fetch in flight. -/
inductive Await where
  | media
  | scan
  | clear
  | routine (test : FunctionTest)
deriving DecidableEq, Repr

structure Page where
  loading : Bool
  ecus : List Card
  dtcs : List DtcRow
  selectedTestResult : Option TestResult
  awaits : List Await
deriving DecidableEq, Repr

def Page.initial : Page := ⟨false, buildInitialEcus, [], none, []⟩

/-- What comes of a fetch of MEDIA. -/
inductive MediaReply where
  | failed
  | data (r : SectionResult)

/-- What comes of a fetch that clears. -/
inductive ClearReply where
  | failed
  | data (items : List ClearItem)

inductive PageEvent where
  /-- The timer that is set when the page is opened. -/
  | opened
  /-- The buttons. -/
  | run
  | clear
  | routine (test : FunctionTest)
  | mediaReply (reply : MediaReply)
  | scanReply (reply : ScanReply)
  | clearReply (reply : ClearReply)
  | routineReply (test : FunctionTest) (reply : TestReply)

/-- A fetch is sent. -/
def send (a : Await) (p : Page) : Page := { p with loading := true, awaits := a :: p.awaits }

/-- A fetch ends, and what was begun with it. -/
def finish (a : Await) (p : Page) : Page :=
  { p with loading := false, awaits := p.awaits.erase a }

/-- `runDiagnostics`, the reply of MEDIA. -/
def showMedia (r : SectionResult) (p : Page) : Page :=
  let mediaCard := buildMediaCard (.ok r)
  { p with
    ecus := mergeEcuById p.ecus mediaCard
    dtcs := p.dtcs.filter (fun dtc => dtc.ecu ≠ "MEDIA PI") ++ buildDtcRows [mediaCard] }

/-- `runDiagnostics`, the reply of the scan. -/
def showScan (scan : FullScan) (p : Page) : Page :=
  { p with ecus := buildEcus scan, dtcs := buildDtcRows (buildEcus scan) }

/-- `clearedTargets`. -/
def clearedTargets (items : List ClearItem) : List String := (items.filter (·.ok)).map (·.target)

/-- `nextState`. -/
def nextState (ecu : Card) : CardState :=
  if ecu.id = "main" ∧ hasBadDid ecu.dids = false then .ready
  else if hasBadDid ecu.dids then .warning
  else .normal

/-- A card in `handleClearDtc`. -/
def clearedCard (targets : List String) (ecu : Card) : Card :=
  if ecu.name ∈ targets then { ecu with state := nextState ecu, dtcs := [] } else ecu

/-- `handleClearDtc`, the reply; an outcome that is an error changes nothing. -/
def showClear (items : List ClearItem) (p : Page) : Page :=
  if clearOutcome items = .error then p
  else
    { p with
      ecus := p.ecus.map (clearedCard (clearedTargets items))
      dtcs := p.dtcs.filter fun dtc => dtc.ecu ∉ clearedTargets items }

/-- `handleRoutine`, the reply. -/
def showRoutine (test : FunctionTest) (reply : TestReply) (p : Page) : Page :=
  let ok := resultOk reply
  { p with
    selectedTestResult :=
      some ⟨test, if ok then "성공" else "실패", if ok then .success else .fail⟩ }

/-- `runDiagnostics` goes on after MEDIA: whatever has come of it, the scan is next. -/
def afterMedia (p : Page) : MediaReply → Page
  | .failed => { p with awaits := .scan :: p.awaits.erase .media }
  | .data r => { showMedia r p with awaits := .scan :: p.awaits.erase .media }

/-- `runDiagnostics` ends. -/
def afterScan (p : Page) : ScanReply → Page
  | .failed => finish .scan p
  | .data scan => finish .scan (showScan scan p)

/-- `handleClearDtc` ends. -/
def afterClear (p : Page) : ClearReply → Page
  | .failed => finish .clear p
  | .data items => finish .clear (showClear items p)

/-- `DiagnosticPage`, from one fetch to the next. -/
def pageStep (p : Page) : PageEvent → Page
  | .opened => send .media p
  | .run => if p.loading then p else send .media p
  | .clear => if p.loading then p else send .clear p
  | .routine test =>
      if p.loading then p else send (.routine test) { p with selectedTestResult := none }
  | .mediaReply reply => if .media ∈ p.awaits then afterMedia p reply else p
  | .scanReply reply => if .scan ∈ p.awaits then afterScan p reply else p
  | .clearReply reply => if .clear ∈ p.awaits then afterClear p reply else p
  | .routineReply test reply =>
      if .routine test ∈ p.awaits then finish (.routine test) (showRoutine test reply p) else p

end PcDiagnosticPage
