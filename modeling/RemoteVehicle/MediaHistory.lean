import Mathlib.Data.List.Sort
import RemoteVehicle.MediaTrigger
import RemoteVehicle.PcBackend
import RemoteVehicle.Runs

/-!
# MEDIA event history — `event_db.py`, `someip_server.py`, `streamer.py`

The event table outlives the program that fills it: `HistoryEvent` lets the program start again,
with the rows that are there.  Three readers look at the table: the SOME/IP method
`GetAccidentList`, the routes of the streaming server, and through both of them the accident
page of the PC.

JSON is exchanged as values; the texts of the errors that only go to a log are left out.
-/

namespace MediaHistory

open Calendar MediaTrigger PcBackend Runs

/-! ## Event table -/

/-- A row as the queries return it, without `created_at`. -/
structure DbRow where
  id : Nat
  eventId : String
  triggeredAt : ℚ
  eventDir : String
deriving DecidableEq

/-- `INTEGER PRIMARY KEY AUTOINCREMENT`: no row is ever deleted. -/
def dbRows (rows : List EventRow) : List DbRow :=
  rows.mapIdx fun i r => ⟨i + 1, r.eventId, r.triggeredAt, r.eventDir⟩

/-- `ORDER BY triggered_at DESC LIMIT ?`. -/
def newestRows (limit : Nat) (rows : List EventRow) : List DbRow :=
  ((dbRows rows).insertionSort fun a b => b.triggeredAt ≤ a.triggeredAt).take limit

/-- `get_events`: none is an exception, where SQLite cannot open or read the file. -/
def getEvents (raises : Bool) (limit : Nat) (rows : List EventRow) : Option (List DbRow) :=
  if raises then none else some (newestRows limit rows)

/-- `get_event`. -/
def getEvent (eventId : String) (rows : List EventRow) : Option DbRow :=
  (dbRows rows).find? fun r => r.eventId == eventId

/-! ## `GetAccidentList` -/

/-- `time.localtime`, for years of four digits. -/
def localTime (utcOffset : Int) (timestamp : ℚ) : Option DateTime :=
  let second := ⌊timestamp⌋ + utcOffset + epochDays * 86400
  if second < 0 then none else ofSeconds second.toNat

/-- `strftime("%Y-%m-%d %H:%M:%S")`. -/
def timeText (d : DateTime) : String :=
  String.ofList (pad4 d.year ++ '-' :: (pad2 d.month ++ '-' :: (pad2 d.day ++
    ' ' :: (pad2 d.hour ++ ':' :: (pad2 d.minute ++ ':' :: pad2 d.second)))))

/-- `http://{config.MEDIA_INTERFACE_IP}:{config.FLASK_PORT}`. -/
def streamerOrigin : String := "http://192.168.20.2:8080"

def videoUrl (eventId : String) : String :=
  streamerOrigin ++ "/events/" ++ eventId ++ "/video/usb"

/-- An entry of `accidents`. -/
structure Accident where
  accidentId : Nat
  accidentTime : String
  drivingState : Nat
  videoUrl : String
deriving DecidableEq, Repr

/-- `result` with its `error_code`. -/
inductive ListResult where
  | ok
  | empty
  | internalError
deriving DecidableEq, Repr

def ListResult.text : ListResult → String
  | .ok => "OK"
  | .empty => "EMPTY"
  | .internalError => "INTERNAL_ERROR"

def ListResult.errorCode : ListResult → Nat
  | .ok => 0
  | .empty => 1
  | .internalError => 2

/-- `resp`; the count is the length of the list. -/
structure RecordList where
  result : ListResult
  accidents : List Accident
deriving DecidableEq, Repr

/-- `config.VEHICLE_ID`; Python's `True` is equal to 1. -/
def isVehicleId : Json → Bool
  | .num q => q == 1
  | .bool b => b
  | _ => false

/-- The `vehicle_id` of a request: an exception for what is no JSON object, and none without
    data. -/
def requestedId (loads : List UInt8 → Option Json) (inputData : List UInt8) : Option Json :=
  if inputData = [] then some .null
  else
    match loads inputData with
    | some (.obj fields) => some (getField "vehicle_id" fields)
    | _ => none

/-- An entry for a row; `localtime` may raise. -/
def accidentOf (utcOffset : Int) (r : DbRow) : Option Accident :=
  (localTime utcOffset r.triggeredAt).map fun d =>
    { accidentId := r.id
      accidentTime := timeText d
      drivingState := 1
      videoUrl := videoUrl r.eventId }

/-- The answer about the own vehicle. -/
def accidentList (utcOffset : Int) (events : List DbRow) : RecordList :=
  if events = [] then ⟨.empty, []⟩
  else
    match events.mapM (accidentOf utcOffset) with
    | none => ⟨.internalError, []⟩
    | some accidents => ⟨.ok, accidents⟩

/-- What follows the query, or its exception. -/
def queriedList (utcOffset : Int) : Option (List DbRow) → RecordList
  | none => ⟨.internalError, []⟩
  | some events => accidentList utcOffset events

/-- `get_record_list_handler`, with a query of the table that may raise. -/
def getRecordList (loads : List UInt8 → Option Json) (utcOffset : Int) (queryRaises : Bool)
    (rows : List EventRow) (inputData : List UInt8) : RecordList :=
  match requestedId loads inputData with
  | none => ⟨.internalError, []⟩
  | some vehicleId =>
      if vehicleId.isNone then ⟨.internalError, []⟩
      else if isVehicleId vehicleId then queriedList utcOffset (getEvents queryRaises 50 rows)
      else ⟨.empty, []⟩

/-- An entry as JSON. -/
def Accident.toJson (a : Accident) : Json :=
  .obj [("accident_id", .num a.accidentId), ("accident_time", .str a.accidentTime),
    ("driving_state", .num a.drivingState), ("video_url", .str a.videoUrl)]

/-- What is sent. -/
def RecordList.toJson (l : RecordList) : Json :=
  .obj [("result", .str l.result.text), ("error_code", .num l.result.errorCode),
    ("recording_started", .bool false), ("accident_count", .num l.accidents.length),
    ("accidents", .arr (l.accidents.map Accident.toJson))]

/-! ## Routes of the streaming server -/

/-- The routes, with the event they are about. -/
inductive Route where
  | index
  | streamUsb1
  | streamUsb
  | apiEvents
  | apiEventsSse
  | apiEventStatus (eventId : String)
  | eventDetail (eventId : String)
  | streamEventUsb1 (eventId : String)
  | streamEventUsb (eventId : String)
  | videoEventUsb1 (eventId : String)
  | videoEventUsb (eventId : String)
deriving DecidableEq, Repr

/-- The parts of a path between its slashes. -/
def segments (path : String) : List String := (path.toList.splitOn '/').map String.ofList

/-- A route about an event; an empty part matches no `<event_id>`. -/
def forEvent (eventId : String) (route : String → Route) : Option Route :=
  if eventId = "" then none else some (route eventId)

/-- Flask's choice of a route. -/
def routeOf (path : String) : Option Route :=
  match segments path with
  | ["", ""] => some .index
  | ["", "stream", "usb1"] => some .streamUsb1
  | ["", "stream", "usb"] => some .streamUsb
  | ["", "api", "events"] => some .apiEvents
  | ["", "api", "events", "sse"] => some .apiEventsSse
  | ["", "api", "events", id, "status"] => forEvent id .apiEventStatus
  | ["", "events", id] => forEvent id .eventDetail
  | ["", "events", id, "stream", "usb1"] => forEvent id .streamEventUsb1
  | ["", "events", id, "stream", "usb"] => forEvent id .streamEventUsb
  | ["", "events", id, "video", "usb1"] => forEvent id .videoEventUsb1
  | ["", "events", id, "video", "usb"] => forEvent id .videoEventUsb
  | _ => none

/-- What a video route answers: a file with its type, or 404. -/
inductive Served where
  | file (path mimetype : String)
  | notFound
deriving DecidableEq, Repr

/-- `config.EVENTS_DIR / f"event_{event_id}"`. -/
def eventBase (eventsDir eventId : String) : String := eventFile eventsDir ("event_" ++ eventId)

/-- The MP4 file of a clip, or the AVI file it is made from. -/
def videoEvent (stem : String) (files : String → Bool) (eventsDir eventId : String) : Served :=
  let base := eventBase eventsDir eventId
  if files (eventFile base (stem ++ ".mp4")) then
    .file (eventFile base (stem ++ ".mp4")) "video/mp4"
  else if files (eventFile base (stem ++ ".avi")) then
    .file (eventFile base (stem ++ ".avi")) "video/x-msvideo"
  else .notFound

/-- `video_event_usb1`, `video_event_usb`. -/
def videoEventUsb1 : (String → Bool) → String → String → Served := videoEvent "front_clip"
def videoEventUsb : (String → Bool) → String → String → Served := videoEvent "usb_clip"

/-- A video that a browser loads from a URL of the streaming server. -/
def loadVideo (files : String → Bool) (eventsDir url : String) : Served :=
  if streamerOrigin.toList <+: url.toList then
    match routeOf (String.ofList (url.toList.drop streamerOrigin.toList.length)) with
    | some (.videoEventUsb1 id) => videoEventUsb1 files eventsDir id
    | some (.videoEventUsb id) => videoEventUsb files eventsDir id
    | _ => .notFound
  else .notFound

/-! ## Accident page — `AccidentHistoryPage.jsx` -/

/-- What a value counts as in a JavaScript condition. -/
def truthy : Json → Bool
  | .null => false
  | .bool b => b
  | .num q => q != 0
  | .str s => s != ""
  | .arr _ => true
  | .obj _ => true

/-- `a || b`. -/
def jsOr (a b : Json) : Json := if truthy a then a else b

/-- `object.key`. -/
def member (key : String) : Json → Json
  | .obj fields => getField key fields
  | _ => .null

/-- `getDrivingStateText`. -/
def getDrivingStateText : Json → String
  | .num q => if q = 1 then "주행 중" else if q = 0 then "정지 중" else "확인 불가"
  | _ => "확인 불가"

/-- `AccidentCard`: what it shows, and what its two players load. -/
structure Card where
  accidentTime : Json
  drivingText : String
  front : Json
  rear : Json

/-- `getVideoUrls`, and the rest of the card. -/
def cardOf (accident : Json) : Card where
  accidentTime := member "accident_time" accident
  drivingText := getDrivingStateText (member "driving_state" accident)
  front := jsOr (jsOr (member "front_video_url" accident) (member "video_url" accident)) (.str "")
  rear := jsOr (jsOr (member "rear_video_url" accident) (member "video_url" accident)) (.str "")

/-- The page after a call of `fetchAccidents`. -/
structure AccidentPage where
  result : Json
  accidents : List Json
  errorMessage : Json

/-- The items of an array. -/
def itemsOf : Json → List Json
  | .arr items => items
  | _ => []

/-- `fetchAccidents`: none is a backend that cannot be reached, or does not answer with 200. -/
def fetchAccidents : Option Json → AccidentPage
  | none => ⟨.str "INTERNAL_ERROR", [], .str "PC backend 서버에 연결할 수 없습니다."⟩
  | some data =>
      let result := jsOr (member "result" data) (.str "")
      if (member "result" data).is "OK" then ⟨result, itemsOf (member "accidents" data), .str ""⟩
      else if (member "result" data).is "EMPTY" then ⟨result, [], .str ""⟩
      else ⟨result, [], jsOr (member "detail" data) (.str "조회 중 오류가 발생했습니다.")⟩

/-- The cards that are shown. -/
def AccidentPage.cards (p : AccidentPage) : List Card :=
  if p.result.is "OK" then p.accidents.map cardOf else []

/-- `get_accidents` of the backend: none is the answer 502 after a `SomeIpError`. -/
def getAccidents (answer : Option RecordList) : Option Json := answer.map RecordList.toJson

/-! ## The program, started again and again -/

/-- A step of the blackbox, or a new start of its program. -/
inductive HistoryEvent where
  | boot (now : ℚ)
  | system (e : SystemEvent)

/-- A new start forgets the trigger and the handlers; what is on the disk stays. -/
def boot (now : ℚ) (s : EventSystem) : EventSystem where
  box := { s.box with trigger := .initial, recording := fun _ => false }
  handlers := []
  clock := now

def historyStep (cfg : Config) (s : EventSystem) : HistoryEvent → EventSystem
  | .boot now => boot now s
  | .system e => systemStep cfg s e

/-- Time does not go backwards, and a new start takes some time. -/
def Onward (s : EventSystem) : HistoryEvent → Prop
  | .boot now => s.clock < now
  | .system e => s.clock ≤ e.now

instance (s : EventSystem) : ∀ e, Decidable (Onward s e)
  | .boot now => inferInstanceAs (Decidable (s.clock < now))
  | .system e => inferInstanceAs (Decidable (s.clock ≤ e.now))

/-- The blackbox after all this, from an empty table on. -/
def historyRun (cfg : Config) (clock : ℚ) (es : List HistoryEvent) : EventSystem :=
  run (historyStep cfg) (EventSystem.initial clock) es

/-! ## Subscribers -/

/-- A connection of `api_events_sse`: its queue, what has been written to it apart from pings,
    how often `put_nowait` raised `queue.Full`, and whether it is in `_sse_queues`. -/
structure Subscriber where
  queue : List String
  sent : List String
  missed : Nat
  listed : Bool
deriving DecidableEq, Repr

/-- `queue.Queue(maxsize=10)`. -/
def sseMaxSize : Nat := 10

/-- `put_nowait`, and the `except` clause. -/
def Subscriber.putNowait (eventId : String) (c : Subscriber) : Subscriber :=
  if c.queue.length < sseMaxSize then { c with queue := c.queue ++ [eventId] }
  else { c with missed := c.missed + 1 }

/-- `notify_new_event`. -/
def notifyNewEvent (eventId : String) (clients : List Subscriber) : List Subscriber :=
  clients.map fun c => if c.listed then c.putNowait eventId else c

/-- A turn of the loop in `stream`, and what it yields. -/
def Subscriber.turn (c : Subscriber) : Subscriber × String :=
  match c.queue with
  | [] => (c, "data: ping\n\n")
  | eventId :: rest =>
      ({ c with queue := rest, sent := c.sent ++ [eventId] }, "data: " ++ eventId ++ "\n\n")

/-- The blackbox with the connections of the streaming server, in the order in which they came. -/
structure Hub where
  media : EventSystem
  clients : List Subscriber

def Hub.initial (clock : ℚ) : Hub := ⟨EventSystem.initial clock, []⟩

/-- What happens next: to the blackbox, or to a connection. -/
inductive HubEvent where
  | media (e : HistoryEvent)
  | connect
  | turn (i : Nat)
  | disconnect (i : Nat)

/-- A new start of the program ends all connections. -/
def keepClients (clients : List Subscriber) : HistoryEvent → List Subscriber
  | .boot _ => clients.map fun c => { c with listed := false }
  | .system _ => clients

/-- The events that a step of the blackbox has told about. -/
def freshEvents (before after : EventSystem) : List String :=
  after.box.notified.drop before.box.notified.length

def hubStep (cfg : Config) (h : Hub) : HubEvent → Hub
  | .media e =>
      let media := historyStep cfg h.media e
      { media := media
        clients := (freshEvents h.media media).foldl (fun cs id => notifyNewEvent id cs)
          (keepClients h.clients e) }
  | .connect => { h with clients := h.clients ++ [⟨[], [], 0, true⟩] }
  | .turn i => { h with clients := h.clients.modify i fun c => if c.listed then c.turn.1 else c }
  | .disconnect i => { h with clients := h.clients.modify i fun c => { c with listed := false } }

def hubRun (cfg : Config) (clock : ℚ) (es : List HubEvent) : Hub :=
  run (hubStep cfg) (Hub.initial clock) es

end MediaHistory
