import RemoteVehicle.Handover
import RemoteVehicle.MediaTrigger

/-!
# MEDIA recorders — `ring_buffer.py`, `csi_recorder.py`, `usb_recorder.py`, `mic_recorder.py`

Two threads meet in a recorder.  The capture thread pushes every item (a frame, or a chunk of
audio) into the ring buffer and, some time later, into the clip of the event if there is one.
The handler of an event takes a snapshot of the ring buffer, makes it the beginning of a clip and,
some time later, puts the clip where the capture thread finds it.  Every section under a lock is
one step, and the steps of the two threads come in any order.

Items are numbered as they are captured.  The source has no numbers; they tell items apart that
look the same.
-/

namespace MediaRecorder

open MediaTrigger

/-! ## Ring buffer -/

/-- `RingBuffer`: a `deque` that drops its oldest item. -/
structure RingBuffer (T : Type) where
  maxlen : Nat
  buf : List T
  bounded : buf.length ≤ maxlen

/-- `RingBuffer.__init__`. -/
def RingBuffer.empty (T : Type) (maxlen : Nat) : RingBuffer T := ⟨maxlen, [], Nat.zero_le maxlen⟩

/-- `push`. -/
def RingBuffer.push {T : Type} (r : RingBuffer T) (item : T) : RingBuffer T where
  maxlen := r.maxlen
  buf := (r.buf ++ [item]).drop (r.buf.length + 1 - r.maxlen)
  bounded := by
    have hlen : (r.buf ++ [item]).length = r.buf.length + 1 := by simp
    rw [List.length_drop, hlen]
    omega

/-- `snapshot`, the oldest item first. -/
def RingBuffer.snapshot {T : Type} (r : RingBuffer T) : List T := r.buf

/-- An item that was captured, and how many were before it. -/
structure Captured (T : Type) where
  number : Nat
  item : T
deriving DecidableEq, Repr

/-! ## Recorders -/

/-- In what the recorders differ: the size of the ring buffer, which items of the snapshot go into
    a clip, what is returned as the beginning of the clip, and whether the capture loop goes on
    after an exception. -/
structure RecorderKind (T : Type) where
  maxlen : Nat
  preEvent : ℚ → T → Bool
  startTs : ℚ → List T → Option ℚ
  survives : Bool

/-- The recorders of the cameras: the item is a time stamp with a frame, and `cutoff_ts` is
    `PRE_EVENT_SECS` ago. -/
def cameraRecorder (F : Type) (fps : Nat) : RecorderKind (ℚ × F) where
  maxlen := fps * preEventSecs
  preEvent := fun now item => decide (now - preEventSecs ≤ item.1)
  startTs := fun _ filtered => filtered.head?.map Prod.fst
  survives := true

/-- `FrontUSBRecorder`, with `USB1_FPS`. -/
def frontUsbRecorder (F : Type) : RecorderKind (ℚ × F) := cameraRecorder F 30

/-- `USBRecorder`, with `USB2_FPS`. -/
def usbRecorder (F : Type) : RecorderKind (ℚ × F) := cameraRecorder F 30

/-- `AUDIO_RATE`, `AUDIO_CHUNK`. -/
def audioRate : Nat := 48000
def audioChunk : Nat := 1024

/-- `MicRecorder`, with `_PRE_CHUNKS`: the whole snapshot goes into the clip, and an exception
    ends the capture loop.  (The length of the snapshot in seconds is not rounded.) -/
def micRecorder (C : Type) : RecorderKind C where
  maxlen := audioRate * preEventSecs / audioChunk
  preEvent := fun _ _ => true
  startTs := fun callTime snapshot => some (callTime - snapshot.length * audioChunk / audioRate)
  survives := false

/-! ## State -/

/-- A clip: the items in it, what `start_event_clip` returns, and the number of the oldest item
    that was retained at its start. -/
structure Clip (T : Type) where
  frames : List (Captured T)
  startTs : Option ℚ
  first : Nat
deriving DecidableEq

/-- A recorder with its threads: `hand` is the item that the capture thread has pushed and not yet
    brought to its event section, `starting` the clip of a `start_event_clip` that has not come to
    its own, and `event` stands for `_event_writer` and `_event_chunks`.  `captured` is the history
    of all items; a saved clip has the number of items captured before its stop. -/
structure Recorder (T : Type) where
  ring : RingBuffer (Captured T)
  captured : List (Captured T)
  capturing : Bool
  hand : Option (Captured T)
  starting : Option (Clip T)
  event : Option (Clip T)
  saved : List (Clip T × Nat)

/-- A recorder at the start of its capture thread. -/
def Recorder.initial {T : Type} (k : RecorderKind T) : Recorder T where
  ring := .empty (Captured T) k.maxlen
  captured := []
  capturing := true
  hand := none
  starting := none
  event := none
  saved := []

variable {T : Type}

/-! ## Capture thread -/

/-- `_loop` reads an item and pushes it. -/
def pushItem (s : Recorder T) (item : T) : Recorder T :=
  if s.capturing ∧ s.hand = none then
    let f : Captured T := ⟨s.captured.length, item⟩
    { s with
      ring := s.ring.push f
      captured := s.captured ++ [f]
      hand := some f }
  else s

/-- The event section at the end of the loop body. -/
def eventSection (s : Recorder T) : Recorder T :=
  match s.hand with
  | none => s
  | some f =>
      { s with
        hand := none
        event := s.event.map fun c => { c with frames := c.frames ++ [f] } }

/-- An exception in the loop body. -/
def captureError (k : RecorderKind T) (s : Recorder T) : Recorder T :=
  { s with hand := none, capturing := s.capturing && k.survives }

/-! ## Handler thread -/

/-- The clip that begins with the snapshot; the clock is read after it was taken. -/
def beginClip (k : RecorderKind T) (s : Recorder T) (now : ℚ) : Clip T :=
  let filtered := s.ring.snapshot.filter fun f => k.preEvent now f.item
  { frames := filtered
    startTs := k.startTs now (filtered.map Captured.item)
    first := match filtered with
      | [] => s.captured.length
      | f :: _ => f.number }

/-- `start_event_clip`, up to the lock. -/
def takeSnapshot (k : RecorderKind T) (s : Recorder T) (now : ℚ) : Recorder T :=
  match s.starting with
  | some _ => s
  | none => { s with starting := some (beginClip k s now) }

/-- The section under the lock; a clip that is still there is forgotten. -/
def activateClip (s : Recorder T) : Recorder T :=
  match s.starting with
  | none => s
  | some c => { s with starting := none, event := some c }

/-- An exception before it. -/
def abandonStart (s : Recorder T) : Recorder T := { s with starting := none }

/-- `stop_event_clip`. -/
def stopEventClip (s : Recorder T) : Recorder T :=
  match s.starting, s.event with
  | none, some c => { s with event := none, saved := s.saved ++ [(c, s.captured.length)] }
  | _, _ => s

/-! ## Steps -/

/-- What happens next in one of the two threads. -/
inductive RecorderEvent (T : Type) where
  | pushItem (item : T)
  | eventSection
  | captureError
  | takeSnapshot (now : ℚ)
  | activateClip
  | abandonStart
  | stopEventClip
deriving DecidableEq

/-- One step; a thread that is somewhere else does not step. -/
def recorderStep (k : RecorderKind T) (s : Recorder T) : RecorderEvent T → Recorder T
  | .pushItem item => pushItem s item
  | .eventSection => eventSection s
  | .captureError => captureError k s
  | .takeSnapshot now => takeSnapshot k s now
  | .activateClip => activateClip s
  | .abandonStart => abandonStart s
  | .stopEventClip => stopEventClip s

end MediaRecorder
