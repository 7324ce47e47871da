import Mathlib.Logic.Function.Basic
import RemoteVehicle.BigEndian
import RemoteVehicle.Calendar
import RemoteVehicle.Raising

/-!
# MEDIA blackbox — `event_trigger.py` and `body_relay.py`

Both receive the datagrams of BODY: at most 16 bytes are read, five are an event type and a time,
any other number is ignored.

A trigger that is accepted starts a thread, and the thread handles the event: it starts a clip
on every recorder, sleeps, stops the clips, writes what is known about the event and starts
the transcoding.  Nearly every call on this way may raise an exception; `HandlerInputs` says
which ones do, and `adds_recordEvent` what is in the lists of the blackbox then.

Clock readings are the exact rationals that `time.time` returns.  (Two of them are within a
factor of two of each other, so that their difference is exact, too.)
-/

namespace MediaTrigger

open Calendar Raising

/-! ## Datagrams -/

/-- What is read out of a datagram. -/
structure Trigger where
  eventType : Nat
  timestampMs : Nat
deriving DecidableEq, Repr

/-- `FRAME_LEN`, `EVENT_TYPE_ACCIDENT`; the trigger has the same values. -/
def frameLen : Nat := 5
def eventTypeAccident : Nat := 0x01

/-- `EventTrigger._udp_listener` up to `_on_trigger`; an unknown type triggers too. -/
def udpListener (datagram : List UInt8) : Option Trigger :=
  let data := datagram.take 16
  if data.length ≠ frameLen then none
  else
    some {
      eventType := (data.getD 0 0).toNat
      timestampMs := BigEndian.value ((data.drop 1).take 4) }

/-- `relay`: what is read, and the datagram that is sent on. -/
def relay (datagram : List UInt8) : Option (Trigger × List UInt8) :=
  let data := datagram.take 16
  if data.length ≠ frameLen then none
  else
    let eventType := (data.getD 0 0).toNat
    if eventType ≠ eventTypeAccident then none
    else
      let timestampMs := BigEndian.value ((data.drop 1).take 4)
      some (⟨eventType, timestampMs⟩, data)

/-! ## Configuration -/

/-- `PRE_EVENT_SECS`, `POST_EVENT_SECS`. -/
def preEventSecs : Nat := 5
def postEventSecs : Nat := 10

/-- `_POST_EVENT_COOLDOWN_SECS`. -/
def postEventCooldownSecs : ℚ := 30

/-- The recorders of an `EventTrigger`. -/
inductive RecorderId where
  | usb1
  | usb
  | mic
deriving DecidableEq, Repr

/-- What is fixed: the recorders that were passed to `EventTrigger`, the directory of the events
    and the offset of the local time in seconds. -/
structure Config where
  present : RecorderId → Bool
  eventsDir : String
  utcOffset : Int

/-! ## State -/

/-- The attributes `_in_event` and `_last_event_end`. -/
structure EventTrigger where
  inEvent : Bool
  lastEventEnd : ℚ
deriving DecidableEq

/-- `EventTrigger.__init__`. -/
def EventTrigger.initial : EventTrigger := ⟨false, 0⟩

/-- The arguments of `_on_trigger` that the handler gets. -/
structure TriggerInfo where
  source : String
  ecuEventType : Option Nat
  ecuTimestampMs : Option Nat
deriving DecidableEq, Repr

/-- What is written to `metadata.json`. -/
structure Metadata where
  eventId : String
  triggeredAt : ℚ
  trigger : TriggerInfo
  preSecs : Nat
  postSecs : Nat
  front : String
  usb : String
  mic : String
deriving DecidableEq

/-- A row of the event table. -/
structure EventRow where
  eventId : String
  triggeredAt : ℚ
  eventDir : String
deriving DecidableEq

/-- The arguments of `_transcode`. -/
structure TranscodeJob where
  avi : String
  mp4 : String
  audio : Option String
  audioOffset : ℚ
  targetDuration : ℚ
deriving DecidableEq

/-- What the trigger and its handler read and write.  A recorder is recording when it holds an
    `_event_writer` or `_event_chunks`. -/
structure Blackbox where
  trigger : EventTrigger
  recording : RecorderId → Bool
  metadata : List Metadata
  rows : List EventRow
  notified : List String
  transcodes : List TranscodeJob

/-- The state at the start of the program. -/
def Blackbox.initial : Blackbox where
  trigger := .initial
  recording := fun _ => false
  metadata := []
  rows := []
  notified := []
  transcodes := []

/-! ## Triggers -/

/-- `_on_trigger`, up to the start of the handler thread: whether the trigger is accepted. -/
def onTrigger (now : ℚ) (t : EventTrigger) : Bool × EventTrigger :=
  if t.inEvent then (false, t)
  else if now - t.lastEventEnd < postEventCooldownSecs then (false, t)
  else (true, { t with inEvent := true })

/-! ## Event identifiers -/

/-- Days from 0001-01-01 to 1970-01-01. -/
def epochDays : Int := 719162

/-- `datetime.fromtimestamp`: the clock is read in microseconds; a year must have four digits. -/
def fromTimestamp (utcOffset : Int) (timestamp : ℚ) : Option DateTime :=
  let microsecond := roundHalfEven (timestamp * 1000000)
  let second := microsecond / 1000000 + utcOffset + epochDays * 86400
  if second < 0 then none else ofSeconds second.toNat

/-- `strftime("%Y%m%d_%H%M%S")`. -/
def eventIdOf (utcOffset : Int) (triggeredAt : ℚ) : Option String :=
  (fromTimestamp utcOffset triggeredAt).map fun d => String.ofList (stamp d)

/-! ## Calls that may raise -/

/-- The calls of `_handle_event` that may raise. -/
inductive HandlerCall where
  | eventId
  | mkdir
  | startClip (r : RecorderId)
  | sleep
  | stopClip (r : RecorderId)
  | writeMetadata
  | insertEvent
  | notifyNewEvent
  | syncOffsets
  | startTranscode (stem : String)
deriving DecidableEq, Repr

/-- What the calls of a handler meet: which of them raise, whether a video file can be opened,
    what the recorders return as the beginning of their clip, and whether the audio file is
    there in the end. -/
structure HandlerInputs where
  raises : HandlerCall → Bool
  opened : RecorderId → Bool
  videoStart : RecorderId → Option ℚ
  audioStart : ℚ
  wavExists : Bool

/-- A part of the handler: an exception is the call that raised it. -/
abbrev HandlerM := Program HandlerCall Blackbox

/-- A call that may raise. -/
def attempt (inp : HandlerInputs) (c : HandlerCall) : HandlerM Unit :=
  if inp.raises c then throw c else pure ()

/-! ## Clips -/

/-- The recorder gets or loses its event writer. -/
def setRecording (r : RecorderId) (b : Bool) : HandlerM Unit :=
  modify fun s => { s with recording := Function.update s.recording r b }

/-- `start_event_clip` of the cameras: whatever raises in it does so before the writer is
    activated. -/
def usbStartEventClip (inp : HandlerInputs) (r : RecorderId) : HandlerM (Option ℚ) := do
  attempt inp (.startClip r)
  if inp.opened r then
    setRecording r true
    return inp.videoStart r
  else return none

/-- `MicRecorder.start_event_clip`. -/
def micStartEventClip (inp : HandlerInputs) : HandlerM (Option ℚ) := do
  attempt inp (.startClip .mic)
  setRecording .mic true
  return some inp.audioStart

/-- `stop_event_clip` of the cameras: the writer is released, then forgotten. -/
def usbStopEventClip (inp : HandlerInputs) (r : RecorderId) : HandlerM Unit := do
  let s ← get
  if s.recording r then
    attempt inp (.stopClip r)
    setRecording r false

/-- `MicRecorder.stop_event_clip`: the chunks are taken, then written. -/
def micStopEventClip (inp : HandlerInputs) : HandlerM Unit := do
  let s ← get
  if s.recording .mic then
    setRecording .mic false
    attempt inp (.stopClip .mic)

/-- `if self._x is not None`. -/
def whenPresent {α : Type} (cfg : Config) (r : RecorderId) (absent : α) (x : HandlerM α) :
    HandlerM α :=
  if cfg.present r then x else pure absent

/-- The clips are started one after the other. -/
def startClips (cfg : Config) (inp : HandlerInputs) :
    HandlerM (Option ℚ × Option ℚ × Option ℚ) := do
  let usb1VideoStart ← whenPresent cfg .usb1 none (usbStartEventClip inp .usb1)
  let usbVideoStart ← whenPresent cfg .usb none (usbStartEventClip inp .usb)
  let micAudioStart ← whenPresent cfg .mic none (micStartEventClip inp)
  return (usb1VideoStart, usbVideoStart, micAudioStart)

/-- And stopped in the same order. -/
def stopClips (cfg : Config) (inp : HandlerInputs) : HandlerM Unit := do
  whenPresent cfg .usb1 () (usbStopEventClip inp .usb1)
  whenPresent cfg .usb () (usbStopEventClip inp .usb)
  whenPresent cfg .mic () (micStopEventClip inp)

/-! ## The event -/

/-- The files of an event. -/
def eventFile (eventDir name : String) : String := eventDir ++ "/" ++ name

/-- The offset between video and audio, when both starts are known. -/
def syncOffset (videoStart audioStart : Option ℚ) : ℚ :=
  match videoStart, audioStart with
  | some video, some audio => video - audio
  | _, _ => 0

/-- The arguments of `_transcode` for a clip. -/
def clipJob (cfg : Config) (inp : HandlerInputs) (eventDir stem : String) (audioOffset : ℚ) :
    TranscodeJob :=
  let hasAudio := cfg.present .mic && inp.wavExists
  { avi := eventFile eventDir (stem ++ ".avi")
    mp4 := eventFile eventDir (stem ++ ".mp4")
    audio := if hasAudio then some (eventFile eventDir "mic_clip.wav") else none
    audioOffset := audioOffset
    targetDuration := (preEventSecs + postEventSecs : Nat) }

/-- A thread transcodes a clip. -/
def startTranscode (cfg : Config) (inp : HandlerInputs) (eventDir stem : String)
    (audioOffset : ℚ) : HandlerM Unit := do
  attempt inp (.startTranscode stem)
  modify fun s => { s with transcodes := s.transcodes ++
    [clipJob cfg inp eventDir stem audioOffset] }

/-- What is written and started when the clips are there. -/
def saveEvent (cfg : Config) (inp : HandlerInputs) (info : TriggerInfo) (triggeredAt : ℚ)
    (eventId : String) (starts : Option ℚ × Option ℚ × Option ℚ) : HandlerM Unit := do
  let eventDir := eventFile cfg.eventsDir ("event_" ++ eventId)
  attempt inp .writeMetadata
  modify fun s => { s with metadata := s.metadata ++
    [{ eventId := eventId
       triggeredAt := triggeredAt
       trigger := info
       preSecs := preEventSecs
       postSecs := postEventSecs
       front := eventFile eventDir "front_clip.avi"
       usb := eventFile eventDir "usb_clip.avi"
       mic := eventFile eventDir "mic_clip.wav" }] }
  attempt inp .insertEvent
  modify fun s => { s with rows := s.rows ++ [⟨eventId, triggeredAt, eventDir⟩] }
  attempt inp .notifyNewEvent
  modify fun s => { s with notified := s.notified ++ [eventId] }
  attempt inp .syncOffsets
  startTranscode cfg inp eventDir "front_clip" (syncOffset starts.1 starts.2.2)
  startTranscode cfg inp eventDir "usb_clip" (syncOffset starts.2.1 starts.2.2)

/-- The `try` block of `_handle_event`. -/
def recordEvent (cfg : Config) (inp : HandlerInputs) (info : TriggerInfo) (triggeredAt : ℚ)
    (eventId : String) : HandlerM Unit := do
  let starts ← startClips cfg inp
  attempt inp .sleep
  stopClips cfg inp
  saveEvent cfg inp info triggeredAt eventId starts

/-- What `_handle_event` does before it: the identifier and the directory of the event. -/
def openEvent (cfg : Config) (inp : HandlerInputs) (triggeredAt : ℚ) : HandlerM String := do
  match eventIdOf cfg.utcOffset triggeredAt with
  | none => throw .eventId
  | some eventId =>
      attempt inp .mkdir
      return eventId

/-- The `finally` block. -/
def closeEvent (endedAt : ℚ) : HandlerM Unit :=
  modify fun s => { s with trigger := { inEvent := false, lastEventEnd := endedAt } }

/-- The `try` statement: an exception is logged, and the event is closed in any case. -/
def tryEvent (cfg : Config) (inp : HandlerInputs) (info : TriggerInfo) (triggeredAt : ℚ)
    (eventId : String) (endedAt : ℚ) : HandlerM Unit := do
  try
    recordEvent cfg inp info triggeredAt eventId
  catch _ =>
    pure ()
  finally
    closeEvent endedAt

/-- `_handle_event`, started at one time and ended at another. -/
def handleEvent (cfg : Config) (inp : HandlerInputs) (info : TriggerInfo)
    (triggeredAt endedAt : ℚ) : HandlerM Unit := do
  let eventId ← openEvent cfg inp triggeredAt
  tryEvent cfg inp info triggeredAt eventId endedAt

/-! ## What the handler does -/

section Handler

variable {cfg : Config} {inp : HandlerInputs} {info : TriggerInfo} {triggeredAt endedAt : ℚ}
  {s : Blackbox}

/-- The handler reaches its `try` block. -/
def Opens (cfg : Config) (inp : HandlerInputs) (triggeredAt : ℚ) : Prop :=
  (eventIdOf cfg.utcOffset triggeredAt).isSome = true ∧ inp.raises .mkdir = false

instance (cfg : Config) (inp : HandlerInputs) (triggeredAt : ℚ) :
    Decidable (Opens cfg inp triggeredAt) := by
  unfold Opens
  infer_instance

theorem runOn_attempt (inp : HandlerInputs) (c : HandlerCall) (s : Blackbox) :
    runOn (attempt inp c) s = if inp.raises c then (.error c, s) else (.ok (), s) := by
  rw [attempt]
  cases inp.raises c with
  | true => exact runOn_throw c s
  | false => exact runOn_pure () s

theorem runOn_openEvent_none (h : eventIdOf cfg.utcOffset triggeredAt = none) :
    runOn (openEvent cfg inp triggeredAt) s = (.error .eventId, s) := by
  unfold openEvent
  rw [h]
  exact runOn_throw _ s

theorem runOn_openEvent_some (inp : HandlerInputs) {eventId : String}
    (h : eventIdOf cfg.utcOffset triggeredAt = some eventId) :
    runOn (openEvent cfg inp triggeredAt) s =
      if inp.raises .mkdir = true then (.error .mkdir, s) else (.ok eventId, s) := by
  unfold openEvent
  rw [h]
  dsimp only
  rw [runOn_bind, runOn_attempt]
  cases inp.raises .mkdir with
  | true => rfl
  | false => exact runOn_pure eventId s

/-- What comes before the `try` block changes nothing. -/
theorem openEvent_cases (cfg : Config) (inp : HandlerInputs) (triggeredAt : ℚ) (s : Blackbox) :
    (¬ Opens cfg inp triggeredAt ∧ ∃ e, runOn (openEvent cfg inp triggeredAt) s = (.error e, s)) ∨
    (Opens cfg inp triggeredAt ∧ ∃ eventId, eventIdOf cfg.utcOffset triggeredAt = some eventId ∧
      runOn (openEvent cfg inp triggeredAt) s = (.ok eventId, s)) := by
  rcases hid : eventIdOf cfg.utcOffset triggeredAt with _ | eventId
  · have hclosed : ¬ Opens cfg inp triggeredAt := by
      rintro ⟨hsome, -⟩
      rw [hid] at hsome
      cases hsome
    exact Or.inl ⟨hclosed, .eventId, runOn_openEvent_none hid⟩
  · have hrun := runOn_openEvent_some (s := s) inp hid
    by_cases hmkdir : inp.raises .mkdir = true
    · rw [if_pos hmkdir] at hrun
      exact Or.inl ⟨fun h => Bool.false_ne_true (h.2.symm.trans hmkdir), .mkdir, hrun⟩
    · rw [if_neg hmkdir] at hrun
      have hsome : (eventIdOf cfg.utcOffset triggeredAt).isSome = true := by
        rw [hid]
        rfl
      exact Or.inr ⟨⟨hsome, Bool.not_eq_true _ ▸ hmkdir⟩, eventId, rfl, hrun⟩

/-- **The `try` statement** does what its body does, and closes the event. -/
theorem runOn_tryEvent (eventId : String) (s : Blackbox) :
    runOn (tryEvent cfg inp info triggeredAt eventId endedAt) s =
      (.ok (), { (runOn (recordEvent cfg inp info triggeredAt eventId) s).2 with
        trigger := { inEvent := false, lastEventEnd := endedAt } }) := by
  rw [tryEvent, runOn_tryFinally, runOn_tryCatch]
  rcases runOn (recordEvent cfg inp info triggeredAt eventId) s with ⟨e | a, t⟩ <;> rfl

/-- **The handler**: it is over at once, or its `try` block runs and the event is closed. -/
theorem runOn_handleEvent (cfg : Config) (inp : HandlerInputs) (info : TriggerInfo)
    (triggeredAt endedAt : ℚ) (s : Blackbox) :
    (¬ Opens cfg inp triggeredAt ∧
      (runOn (handleEvent cfg inp info triggeredAt endedAt) s).2 = s) ∨
    (Opens cfg inp triggeredAt ∧ ∃ eventId, eventIdOf cfg.utcOffset triggeredAt = some eventId ∧
      (runOn (handleEvent cfg inp info triggeredAt endedAt) s).2 =
        { (runOn (recordEvent cfg inp info triggeredAt eventId) s).2 with
          trigger := { inEvent := false, lastEventEnd := endedAt } }) := by
  rcases openEvent_cases cfg inp triggeredAt s with ⟨hopens, e, hrun⟩ | ⟨hopens, id, hid, hrun⟩
  · refine Or.inl ⟨hopens, ?_⟩
    rw [handleEvent, runOn_bind_error hrun]
  · refine Or.inr ⟨hopens, id, hid, ?_⟩
    rw [handleEvent, runOn_bind_ok hrun, runOn_tryEvent]

end Handler

/-! ## What the clips' starts return -/

/-- The beginning of the video of a camera, if it is known. -/
def cameraStart (cfg : Config) (inp : HandlerInputs) (r : RecorderId) : Option ℚ :=
  if cfg.present r then if inp.opened r then inp.videoStart r else none else none

/-- The beginning of the audio, if it is known. -/
def micStart (cfg : Config) (inp : HandlerInputs) : Option ℚ :=
  if cfg.present .mic then some inp.audioStart else none

section Entries

variable {α : Type} {cfg : Config} {inp : HandlerInputs} {r : RecorderId}

theorem returns_whenPresent {absent a : α} {x : HandlerM α} (hx : Returns x a) :
    Returns (whenPresent cfg r absent x) (if cfg.present r then a else absent) := by
  rw [whenPresent]
  split
  · exact hx
  · exact returns_pure absent

theorem returns_usbStart (r : RecorderId) :
    Returns (usbStartEventClip inp r) (if inp.opened r then inp.videoStart r else none) := by
  refine returns_last _ fun _ => ?_
  split
  · exact returns_last _ fun _ => returns_pure _
  · exact returns_pure none

theorem returns_micStart : Returns (micStartEventClip inp) (some inp.audioStart) :=
  returns_last _ fun _ => returns_last _ fun _ => returns_pure _

theorem returns_startClips : Returns (startClips cfg inp)
    (cameraStart cfg inp .usb1, cameraStart cfg inp .usb, micStart cfg inp) :=
  returns_bind (returns_whenPresent (returns_usbStart .usb1)) <|
    returns_bind (returns_whenPresent (returns_usbStart .usb)) <|
      returns_bind (returns_whenPresent returns_micStart) (returns_pure _)

/-! ## What a handler adds -/

/-- An entry of the event table, of the subscribers' queues or of the list of jobs. -/
inductive Entry where
  | row (r : EventRow)
  | notice (eventId : String)
  | job (j : TranscodeJob)

def Entry.row? : Entry → Option EventRow
  | .row r => some r
  | _ => none

def Entry.notice? : Entry → Option String
  | .notice eventId => some eventId
  | _ => none

def Entry.job? : Entry → Option TranscodeJob
  | .job j => some j
  | _ => none

/-- The lists get these entries and no others. -/
structure Added (es : List Entry) (s t : Blackbox) : Prop where
  rows : t.rows = s.rows ++ es.filterMap Entry.row?
  notified : t.notified = s.notified ++ es.filterMap Entry.notice?
  transcodes : t.transcodes = s.transcodes ++ es.filterMap Entry.job?

theorem added_nil (s : Blackbox) : Added [] s s :=
  ⟨(List.append_nil _).symm, (List.append_nil _).symm, (List.append_nil _).symm⟩

theorem added_composes : Composes Added where
  nil := added_nil
  append h h' := by
    constructor
    · rw [h'.rows, h.rows, List.append_assoc, List.filterMap_append]
    · rw [h'.notified, h.notified, List.append_assoc, List.filterMap_append]
    · rw [h'.transcodes, h.transcodes, List.append_assoc, List.filterMap_append]

theorem adds_attempt (c : HandlerCall) : Enters Added [] (attempt inp c) := by
  rw [attempt]
  split
  · exact enters_throw added_composes c
  · exact enters_pure added_composes ()

theorem adds_setRecording (b : Bool) : Enters Added [] (setRecording r b) :=
  enters_modify fun s => ⟨(added_nil s).rows, (added_nil s).notified, (added_nil s).transcodes⟩

theorem adds_whenPresent (absent : α) {x : HandlerM α} (hx : Enters Added [] x) :
    Enters Added [] (whenPresent cfg r absent x) := by
  rw [whenPresent]
  split
  · exact hx
  · exact enters_pure added_composes absent

theorem adds_usbStart (r : RecorderId) : Enters Added [] (usbStartEventClip inp r) := by
  refine enters_quiet added_composes (adds_attempt _) fun _ => ?_
  split
  · exact enters_quiet added_composes (adds_setRecording true) fun _ =>
      enters_pure added_composes _
  · exact enters_pure added_composes none

theorem adds_micStart : Enters Added [] (micStartEventClip inp) :=
  enters_quiet added_composes (adds_attempt _) fun _ =>
    enters_quiet added_composes (adds_setRecording true) fun _ => enters_pure added_composes _

theorem adds_startClips : Enters Added [] (startClips cfg inp) :=
  enters_quiet added_composes (adds_whenPresent none (adds_usbStart .usb1)) fun _ =>
    enters_quiet added_composes (adds_whenPresent none (adds_usbStart .usb)) fun _ =>
      enters_quiet added_composes (adds_whenPresent none adds_micStart) fun _ =>
        enters_pure added_composes _

theorem adds_usbStop (r : RecorderId) : Enters Added [] (usbStopEventClip inp r) := by
  refine enters_quiet added_composes (enters_get added_composes) fun s => ?_
  split
  · exact enters_quiet added_composes (adds_attempt _) fun _ => adds_setRecording false
  · exact enters_pure added_composes ()

theorem adds_micStop : Enters Added [] (micStopEventClip inp) := by
  refine enters_quiet added_composes (enters_get added_composes) fun s => ?_
  split
  · exact enters_quiet added_composes (adds_setRecording false) fun _ => adds_attempt _
  · exact enters_pure added_composes ()

theorem adds_stopClips : Enters Added [] (stopClips cfg inp) :=
  enters_quiet added_composes (adds_whenPresent () (adds_usbStop .usb1)) fun _ =>
    enters_quiet added_composes (adds_whenPresent () (adds_usbStop .usb)) fun _ =>
      adds_whenPresent () adds_micStop

theorem adds_startTranscode (eventDir stem : String) (audioOffset : ℚ) :
    Enters Added [.job (clipJob cfg inp eventDir stem audioOffset)]
      (startTranscode cfg inp eventDir stem audioOffset) := by
  refine enters_quiet added_composes (adds_attempt _) fun _ => enters_modify fun s => ?_
  exact ⟨(List.append_nil _).symm, (List.append_nil _).symm, rfl⟩

/-- The row of an event. -/
def rowOf (cfg : Config) (triggeredAt : ℚ) (eventId : String) : EventRow :=
  ⟨eventId, triggeredAt, eventFile cfg.eventsDir ("event_" ++ eventId)⟩

/-- What an event adds, in this order. -/
def entriesOf (cfg : Config) (inp : HandlerInputs) (triggeredAt : ℚ) (eventId : String)
    (starts : Option ℚ × Option ℚ × Option ℚ) : List Entry :=
  let eventDir := eventFile cfg.eventsDir ("event_" ++ eventId)
  [.row (rowOf cfg triggeredAt eventId),
   .notice eventId,
   .job (clipJob cfg inp eventDir "front_clip" (syncOffset starts.1 starts.2.2)),
   .job (clipJob cfg inp eventDir "usb_clip" (syncOffset starts.2.1 starts.2.2))]

theorem adds_saveEvent (info : TriggerInfo) (triggeredAt : ℚ) (eventId : String)
    (starts : Option ℚ × Option ℚ × Option ℚ) :
    Enters Added (entriesOf cfg inp triggeredAt eventId starts)
      (saveEvent cfg inp info triggeredAt eventId starts) := by
  refine enters_quiet added_composes (adds_attempt _) fun _ => ?_
  refine enters_quiet added_composes (enters_modify fun s => ?_) fun _ => ?_
  · exact ⟨(List.append_nil _).symm, (List.append_nil _).symm, (List.append_nil _).symm⟩
  refine enters_quiet added_composes (adds_attempt _) fun _ => ?_
  refine enters_cons added_composes (enters_modify fun s => ?_) fun _ => ?_
  · exact ⟨rfl, (List.append_nil _).symm, (List.append_nil _).symm⟩
  refine enters_quiet added_composes (adds_attempt _) fun _ => ?_
  refine enters_cons added_composes (enters_modify fun s => ?_) fun _ => ?_
  · exact ⟨(List.append_nil _).symm, rfl, (List.append_nil _).symm⟩
  refine enters_quiet added_composes (adds_attempt _) fun _ => ?_
  exact enters_cons added_composes (adds_startTranscode _ _ _) fun _ => adds_startTranscode _ _ _

/-- **WHAT A HANDLER ADDS**: its row, its notice and its jobs, one after the other; when something
    raises, the first of them. -/
theorem adds_recordEvent (info : TriggerInfo) (triggeredAt : ℚ) (eventId : String) :
    Enters Added (entriesOf cfg inp triggeredAt eventId
        (cameraStart cfg inp .usb1, cameraStart cfg inp .usb, micStart cfg inp))
      (recordEvent cfg inp info triggeredAt eventId) := by
  rw [← List.nil_append (entriesOf _ _ _ _ _)]
  refine enters_bind added_composes adds_startClips fun starts s t hrun => ?_
  obtain rfl := returns_startClips s starts t hrun
  exact enters_quiet added_composes (adds_attempt _) fun _ =>
    enters_quiet added_composes adds_stopClips fun _ =>
      adds_saveEvent info triggeredAt eventId _

end Entries

/-! ## Some inputs -/

/-- All recorders are there, and local time is nine hours ahead. -/
def allRecorders : Config where
  present := fun _ => true
  eventsDir := "recordings/events"
  utcOffset := 32400

/-- Nothing raises. -/
def raisesNothing : HandlerInputs where
  raises := fun _ => false
  opened := fun _ => true
  videoStart := fun _ => none
  audioStart := 0
  wavExists := true

/-- Only this call raises. -/
def raisesOnly (c : HandlerCall) : HandlerInputs :=
  { raisesNothing with raises := fun d => d == c }

/-! ## Threads

Triggers come from several threads, and every accepted one starts a handler of its own.  A
handler touches the attributes of the trigger only in its `finally` block, so it takes two
steps: up to the `try` block when it reads the clock, and from there to the end. -/

/-- How far a handler is. -/
inductive HandlerPhase where
  | spawned
  | recording (triggeredAt : ℚ) (eventId : String)
  /-- An exception before the `try` block has ended the thread. -/
  | died
  | ended (triggeredAt : ℚ) (eventId : String) (endedAt : ℚ)
deriving DecidableEq

/-- The handler of an accepted trigger. -/
structure Handler where
  info : TriggerInfo
  acceptedAt : ℚ
  phase : HandlerPhase
deriving DecidableEq

/-- `triggered_at`, the time at which the recording starts. -/
def Handler.startedAt (h : Handler) : Option ℚ :=
  match h.phase with
  | .recording triggeredAt _ => some triggeredAt
  | .ended triggeredAt _ _ => some triggeredAt
  | _ => none

/-- The time at which the event ends. -/
def Handler.endedAt (h : Handler) : Option ℚ :=
  match h.phase with
  | .ended _ _ endedAt => some endedAt
  | _ => none

/-- `event_id`. -/
def Handler.eventId (h : Handler) : Option String :=
  match h.phase with
  | .recording _ eventId => some eventId
  | .ended _ eventId _ => some eventId
  | _ => none

/-- The thread of the handler is running. -/
def Handler.live (h : Handler) : Bool :=
  match h.phase with
  | .spawned => true
  | .recording _ _ => true
  | _ => false

/-- The blackbox with the handlers of all accepted triggers, the first one first, and the time of
    the last event. -/
structure EventSystem where
  box : Blackbox
  handlers : List Handler
  clock : ℚ

def EventSystem.initial (clock : ℚ) : EventSystem := ⟨.initial, [], clock⟩

/-- What happens next: a trigger, or a step of the `i`-th handler. -/
inductive SystemEvent where
  | trigger (now : ℚ) (info : TriggerInfo)
  | begin (i : Nat) (now : ℚ) (inp : HandlerInputs)
  | finish (i : Nat) (now : ℚ) (inp : HandlerInputs)

def SystemEvent.now : SystemEvent → ℚ
  | .trigger now _ => now
  | .begin _ now _ => now
  | .finish _ now _ => now

/-- A handler goes on. -/
def EventSystem.enter (s : EventSystem) (box : Blackbox) (now : ℚ) (i : Nat) (h : Handler)
    (phase : HandlerPhase) : EventSystem where
  box := box
  handlers := s.handlers.set i { h with phase := phase }
  clock := now

/-- One step; a handler that is not there, or not that far, does not step. -/
def systemStep (cfg : Config) (s : EventSystem) : SystemEvent → EventSystem
  | .trigger now info =>
      let (accepted, trigger) := onTrigger now s.box.trigger
      { box := { s.box with trigger := trigger }
        handlers := if accepted then s.handlers ++ [⟨info, now, .spawned⟩] else s.handlers
        clock := now }
  | .begin i now inp =>
      match s.handlers[i]? with
      | none => s
      | some h =>
          match h.phase with
          | .spawned =>
              match runOn (openEvent cfg inp now) s.box with
              | (.ok eventId, box) => s.enter box now i h (.recording now eventId)
              | (.error _, box) => s.enter box now i h .died
          | _ => s
  | .finish i now inp =>
      match s.handlers[i]? with
      | none => s
      | some h =>
          match h.phase with
          | .recording triggeredAt eventId =>
              s.enter (runOn (tryEvent cfg inp h.info triggeredAt eventId now) s.box).2 now i h
                (.ended triggeredAt eventId now)
          | _ => s

end MediaTrigger
