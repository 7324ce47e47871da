import Mathlib.Data.Char
import Mathlib.Data.List.Lex
import RemoteVehicle.MediaHistory
import RemoteVehicle.Retention

/-!
# MEDIA continuous recording — `csi_recorder.py`, `usb_recorder.py`

The capture loop of a camera writes every frame into a file, begins a new file every minute, and
then removes the oldest ones.  The name of a file is the second in which it was begun, so sorting
the names finds the oldest file.

A step is a start of `_loop`, a pass of it with a frame, or its end.  The ring buffer, the live
stream and the clips of events, which the same loop serves, are in other modules; here they only
appear as what may raise before a frame is written.
-/

namespace MediaContinuous

open Calendar MediaHistory Retention Runs

/-! ## Files -/

/-- A file of the directory: its name, and the frames in it. -/
structure Segment (F : Type) where
  name : List Char
  frames : List F
deriving DecidableEq

/-- `CONTINUOUS_SEGMENT_SECS`. -/
def continuousSegmentSecs : ℚ := 60

/-- `CONTINUOUS_MAX_SEGMENTS`. -/
def continuousMaxSegments : Nat := 10

/-- `f"{ts}.avi"`; a time without a date raises. -/
def segmentName (utcOffset : Int) (stampedAt : ℚ) : Option (List Char) :=
  (localTime utcOffset stampedAt).map fun d => stamp d ++ ['.', 'a', 'v', 'i']

section Files

variable {F : Type}

/-- `VideoWriter`: a file that is there begins again. -/
def createFile (name : List Char) (files : List (Segment F)) : List (Segment F) :=
  files.filter (fun f => f.name ≠ name) ++ [⟨name, []⟩]

/-- `write`; what is written to a file that is not in the directory is lost. -/
def writeFrame (name : List Char) (x : F) (files : List (Segment F)) : List (Segment F) :=
  files.map fun f => if f.name = name then { f with frames := f.frames ++ [x] } else f

/-- `_purge_old_segments`, for the files that `unlink` can remove. -/
def purgeOldSegments (unlinks : List Char → Bool) (files : List (Segment F)) :
    List (Segment F) :=
  prune Segment.name continuousMaxSegments unlinks files

end Files

/-! ## `_open_cont_writer` -/

/-- In what the recorders differ: one of them looks at `isOpened`. -/
structure SegmentKind where
  checksOpened : Bool
deriving DecidableEq, Repr

/-- `FrontUSBRecorder`. -/
def frontUsbSegments : SegmentKind := ⟨true⟩

/-- `USBRecorder`. -/
def usbSegments : SegmentKind := ⟨false⟩

/-- The steps that may raise. -/
inductive OpenStep where
  | mkdir
  | makeWriter
  | glob
deriving DecidableEq, Repr

/-- What a call meets: the clock at its beginning and at its end, the steps that raise, whether
    the writer can open its file, and the files that can be removed. -/
structure Opening where
  stampedAt : ℚ
  endedAt : ℚ
  raises : OpenStep → Bool
  opened : Bool
  unlinks : List Char → Bool

/-- `_open_cont_writer`: the directory after it, and the file of the writer that it returns; none
    is an exception. -/
def openContWriter {F : Type} (k : SegmentKind) (utcOffset : Int) (o : Opening)
    (files : List (Segment F)) : List (Segment F) × Option (List Char) :=
  match segmentName utcOffset o.stampedAt with
  | none => (files, none)
  | some name =>
      if o.raises .mkdir || o.raises .makeWriter then (files, none)
      else
        let files := if o.opened then createFile name files else files
        if k.checksOpened && !o.opened then (files, none)
        else if o.raises .glob then (files, none)
        else (purgeOldSegments o.unlinks files, some name)

/-! ## `_loop` -/

/-- The directory, `_cont_writer` as the name of its file, `_cont_start`, whether the loop runs,
    and the clock. -/
structure Recording (F : Type) where
  files : List (Segment F)
  writer : Option (List Char)
  contStart : ℚ
  looping : Bool
  clock : ℚ

/-- An empty directory, and no loop yet. -/
def Recording.initial {F : Type} (clock : ℚ) : Recording F where
  files := []
  writer := none
  contStart := 0
  looping := false
  clock := clock

section Loop

variable {F : Type} (k : SegmentKind) (utcOffset : Int)

/-- The assignment of both attributes, or the `except` clause. -/
def reopen (o : Opening) (s : Recording F) : Recording F :=
  match openContWriter k utcOffset o s.files with
  | (files, some name) =>
      { s with files := files, writer := some name, contStart := o.endedAt, clock := o.endedAt }
  | (files, none) => { s with files := files, writer := none, clock := o.endedAt }

/-- `_loop` begins, in a new process. -/
def boot (o : Opening) (s : Recording F) : Recording F :=
  reopen k utcOffset o { s with contStart := o.endedAt, looping := true }

/-- A pass of `_loop` with a frame; `written` is false where something raises before the frame
    has been written, and `o` is for the case that a new file is due. -/
def captureFrame (x : F) (now : ℚ) (written : Bool) (o : Opening) (s : Recording F) :
    Recording F :=
  if s.looping then
    match s.writer with
    | none => { s with clock := now }
    | some name =>
        if written then
          let s := { s with files := writeFrame name x s.files, clock := now }
          if continuousSegmentSecs ≤ now - s.contStart then reopen k utcOffset o s else s
        else { s with clock := now }
  else s

inductive RecordingEvent (F : Type) where
  | boot (o : Opening)
  | frame (x : F) (now : ℚ) (written : Bool) (o : Opening)
  | leave

def recordStep (s : Recording F) : RecordingEvent F → Recording F
  | .boot o => boot k utcOffset o s
  | .frame x now written o => captureFrame k utcOffset x now written o s
  | .leave => { s with looping := false }

/-- The recorder after all this, from an empty directory on. -/
def recordingRun (clock : ℚ) (es : List (RecordingEvent F)) : Recording F :=
  run (recordStep k utcOffset) (Recording.initial clock) es

end Loop

/-- Time does not go backwards, and a start comes in a later second than what was before. -/
def Onward {F : Type} (s : Recording F) : RecordingEvent F → Prop
  | .boot o => ⌊s.clock⌋ < ⌊o.stampedAt⌋ ∧ s.clock ≤ o.endedAt ∧ o.stampedAt ≤ o.endedAt
  | .frame _ now _ o => s.clock ≤ now ∧ now ≤ o.stampedAt ∧ o.stampedAt ≤ o.endedAt
  | .leave => True

instance {F : Type} (s : Recording F) : ∀ e, Decidable (Onward s e)
  | .boot o =>
      inferInstanceAs (Decidable (⌊s.clock⌋ < ⌊o.stampedAt⌋ ∧ s.clock ≤ o.endedAt ∧
        o.stampedAt ≤ o.endedAt))
  | .frame _ now _ o =>
      inferInstanceAs (Decidable (s.clock ≤ now ∧ now ≤ o.stampedAt ∧ o.stampedAt ≤ o.endedAt))
  | .leave => inferInstanceAs (Decidable True)

end MediaContinuous
