import RemoteVehicle.PcFullScan

/-!
# Pre-drive diagnosis — `PreDriveDiagnosisPage.jsx`

The page asks the backend for a full scan, then for five function tests one after the other, and
says READY or CHECK.  A fetch is an event of its own: the page waits for it, and the button that
starts the next diagnosis is disabled meanwhile.

A test's `detail` and `raw` are shown nowhere and left out, as is the time of the last update.
-/

namespace PcPreDrive

open PcDiagnostics PcFullScan

/-! ## Cards -/

inductive Tone where
  | good
  | warn
  | bad
deriving DecidableEq, Repr

inductive CardState where
  | standby
  | ready
  | normal
  | warning
  | offline
deriving DecidableEq, Repr

/-- The line below the name. -/
inductive CardSummary where
  | text (s : String)
  /-- The text of an exception, or `otherwise` where it is empty. -/
  | raised (e : Raised) (otherwise : String)
  /-- "DoIP 응답 완료 / {elapsed_ms} ms" -/
  | answered
deriving DecidableEq, Repr

/-- A row of a card. -/
structure DidRow where
  label : String
  value : String
  unit : Option String
  tone : Tone
deriving DecidableEq, Repr

structure Card where
  id : String
  name : String
  address : String
  route : String
  state : CardState
  summary : CardSummary
  dids : List DidRow
  dtcs : List DtcItem
deriving DecidableEq, Repr

/-- `INITIAL_ECUS[0]`. -/
def initialMain : Card where
  id := "main"
  name := "MAIN ECU"
  address := "Central Gateway"
  route := "DoIP 192.168.10.2:13400"
  state := .standby
  summary := .text "Routing Activation 대기 중"
  dids := [⟨"Routing Activation", "대기", none, .good⟩, ⟨"MAIN 자체 진단", "대기", none, .good⟩]
  dtcs := []

/-- `INITIAL_ECUS[1]`. -/
def initialAct : Card where
  id := "act"
  name := "ACT ECU"
  address := "Drive Unit"
  route := "MAIN 경유 / CAN Bus 1"
  state := .standby
  summary := .text "Drive / Steering / Brake"
  dids := []
  dtcs := []

/-- `INITIAL_ECUS[2]`. -/
def initialBody : Card where
  id := "body"
  name := "BODY ECU"
  address := "Body Unit"
  route := "MAIN 경유 / CAN Bus 2"
  state := .standby
  summary := .text "Lighting / Ultrasonic / Collision"
  dids := []
  dtcs := []

/-- `INITIAL_ECUS[3]`. -/
def initialMedia : Card where
  id := "media"
  name := "MEDIA PI"
  address := "Media Unit"
  route := "DoIP 192.168.20.2:13401"
  state := .standby
  summary := .text "Camera / Audio / EDR"
  dids := []
  dtcs := []

/-- `INITIAL_ECUS`. -/
def initialEcus : List Card := [initialMain, initialAct, initialBody, initialMedia]

/-- `String(value ?? "")`. -/
def valueText : Value → String
  | .none => ""
  | .text s => s
  | .number n => toString n

/-- `formatValue`. -/
def formatValue (value : Value) : String :=
  if valueText value = "" then "--" else valueText value

/-- `getDidTone`; the backend gives no tone. -/
def getDidTone (item : DidResult) : Tone :=
  if item.ok = false then .bad
  else if valueText item.value ∈ ["미연결", "DOWN", "중지", "두절", "응답 오류", "DID 불일치"] then
    .bad
  else if valueText item.value = "NRC" then .warn
  else .good

/-- `normalizeDids`. -/
def normalizeDids (dids : List DidResult) : List DidRow :=
  dids.map fun item => ⟨item.label, formatValue item.value, item.unit, getDidTone item⟩

/-- `hasActiveDtc`. -/
def hasActiveDtc (dtcs : List DtcItem) : Bool := dtcs.any (·.active)

/-- `hasBadDid`. -/
def hasBadDid (dids : List DidResult) : Bool := dids.any fun item => getDidTone item == .bad

/-- `buildMainCard`. -/
def buildMainCard : Except Raised SectionResult → Card
  | .error e =>
      { initialMain with
        state := .offline
        summary := .raised e "MAIN ECU 응답 없음"
        dids := [⟨"Routing Activation", "실패", none, .bad⟩, ⟨"MAIN 자체 진단", "실패", none, .bad⟩]
        dtcs := [] }
  | .ok r =>
      let routingSuccess := r.routingActivation.responseCode == 0x10
      { initialMain with
        state := if routingSuccess && !hasActiveDtc r.dtcs.items then .ready else .warning
        summary := .text
          (if routingSuccess then "Routing Activation 완료" else "Routing Activation 확인 필요")
        dids :=
          ⟨"Routing Activation", if routingSuccess then "Active" else "Fail", none,
            if routingSuccess then .good else .bad⟩ :: normalizeDids r.dids
        dtcs := r.dtcs.items }

/-- `buildMediaCard`. -/
def buildMediaCard : Except Raised SectionResult → Card
  | .error e =>
      { initialMedia with
        state := .offline
        summary := .raised e "MEDIA PI 응답 없음"
        dids := []
        dtcs := [] }
  | .ok r =>
      { initialMedia with
        state := if hasBadDid r.dids || hasActiveDtc r.dtcs.items then .warning else .normal
        summary := .answered
        dids := normalizeDids r.dids
        dtcs := r.dtcs.items }

/-- The state that the backend has found; it is never empty. -/
def ecuState : EcuState → CardState
  | .normal => .normal
  | .warning => .warning
  | .offline => .offline

/-- `buildRoutedEcuCard`. -/
def buildRoutedEcuCard (ecu : Option EcuEntry) (fallback : Card) : Card :=
  match ecu with
  | none =>
      { fallback with
        state := .offline, summary := .text (fallback.name ++ " 응답 없음"), dids := [], dtcs := [] }
  | some ecu =>
      { fallback with
        state := ecuState ecu.state
        summary := match ecu.error with
          | none => fallback.summary
          | some e => .raised (.doip e) ""
        dids := normalizeDids ecu.dids
        dtcs := ecu.dtcs.items }

/-- `sections.main_ecus?.ecus || []`. -/
def routedEcus : Except Raised ScanResult → List EcuEntry
  | .ok r => r.ecus
  | .error _ => []

/-- `buildEcusFromScan`. -/
def buildEcusFromScan (data : FullScan) : List Card :=
  let routedEcus := routedEcus data.mainEcus
  let act := routedEcus.find? fun ecu => ecu.id == "act"
  let body := routedEcus.find? fun ecu => ecu.id == "body"
  [buildMainCard data.mainRouting, buildRoutedEcuCard act initialAct,
   buildRoutedEcuCard body initialBody, buildMediaCard data.media]

/-! ## Function tests -/

structure FunctionTest where
  id : String
  ecu : String
  label : String
  routine : String
deriving DecidableEq, Repr

/-- `FUNCTION_TESTS`. -/
def functionTests : List FunctionTest :=
  [⟨"act-motor", "ACT ECU", "모터 테스트", "0x0100"⟩,
   ⟨"act-servo", "ACT ECU", "서보 테스트", "0x0101"⟩,
   ⟨"body-buzzer", "BODY ECU", "부저 테스트", "0x0200"⟩,
   ⟨"body-led", "BODY ECU", "LED 테스트", "0x0201"⟩,
   ⟨"body-ultrasonic", "BODY ECU", "초음파 테스트", "0x0202"⟩]

inductive TestTone where
  | idle
  | running
  | success
  | fail
deriving DecidableEq, Repr

structure TestResult where
  test : FunctionTest
  status : String
  tone : TestTone
deriving DecidableEq, Repr

/-- `buildInitialTestResults`. -/
def buildInitialTestResults : List TestResult :=
  functionTests.map fun test => ⟨test, "대기", .idle⟩

/-- `updateTest`. -/
def updateTest (id : String) (status : String) (tone : TestTone) (current : List TestResult) :
    List TestResult :=
  current.map fun r => if r.test.id = id then { r with status := status, tone := tone } else r

/-- What comes of a fetch of a test: it fails, or the backend has ended with a value, which is
    none for a test that it does not know. -/
inductive TestReply where
  | failed
  | data (r : Option RoutineResult)
deriving DecidableEq, Repr

/-- What `runSingleFunctionTest` makes of the reply; what it throws counts as a failure. -/
def resultOk : TestReply → Bool
  | .failed => false
  | .data none => false
  | .data (some r) => r.ok && r.routineResult != some 0x01

/-! ## The page -/

/-- Where `runPreDriveDiagnosis` waits: for the scan, or for a test with others to come. -/
inductive Await where
  | idle
  | scan
  | test (test : FunctionTest) (rest : List FunctionTest)
deriving DecidableEq, Repr

structure Page where
  running : Bool
  completed : Bool
  ecus : List Card
  testResults : List TestResult
  await : Await
deriving DecidableEq, Repr

def Page.initial : Page := ⟨false, false, initialEcus, buildInitialTestResults, .idle⟩

/-- What comes of a fetch of the scan. -/
inductive ScanReply where
  | failed
  | data (scan : FullScan)

inductive PageEvent where
  /-- The page is opened, or its button is pressed. -/
  | run
  | scanReply (reply : ScanReply)
  | testReply (reply : TestReply)

/-- The loop over the tests goes on, or the diagnosis ends. -/
def nextTest (p : Page) : List FunctionTest → Page
  | [] => { p with running := false, completed := true, await := .idle }
  | test :: rest =>
      { p with
        testResults := updateTest test.id "실행 중" .running p.testResults
        await := .test test rest }

/-- `runPreDriveDiagnosis` and `runSingleFunctionTest`, from one fetch to the next. -/
def pageStep (p : Page) : PageEvent → Page
  | .run =>
      if p.running then p
      else
        { p with
          running := true, completed := false
          testResults := buildInitialTestResults, await := .scan }
  | .scanReply reply =>
      match p.await with
      | .scan =>
          match reply with
          | .failed => { p with running := false, completed := true, await := .idle }
          | .data scan => nextTest { p with ecus := buildEcusFromScan scan } functionTests
      | _ => p
  | .testReply reply =>
      match p.await with
      | .test test rest =>
          let ok := resultOk reply
          nextTest
            { p with
              testResults :=
                updateTest test.id (if ok then "성공" else "실패") (if ok then .success else .fail)
                  p.testResults }
            rest
      | _ => p

/-- `activeDtcCount`. -/
def activeDtcCount (p : Page) : Nat := (p.ecus.flatMap (·.dtcs)).countP (·.active)

/-- `failedTestCount`. -/
def failedTestCount (p : Page) : Nat := p.testResults.countP (·.tone == .fail)

inductive Verdict where
  | standby
  | running
  | check
  | ready
deriving DecidableEq, Repr

/-- `diagnosisSummary`. -/
def diagnosisSummary (p : Page) : Verdict :=
  if p.running then .running
  else if p.completed then
    if 0 < failedTestCount p ∨ 0 < activeDtcCount p then .check else .ready
  else .standby

end PcPreDrive
