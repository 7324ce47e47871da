import RemoteVehicle.MediaTranscode

/-!
# Video and audio of an event clip

The recorders start their clips at different times, and the handler measures the offset: the
beginning of the video minus that of the audio.  A positive offset means that the audio began
earlier, so its beginning has to be cut off; `_transcode` delays it.  A negative one means that
it began later, and `_transcode` cuts it.  The error is twice the offset
(`placed_late`, `placed_early`).

Only an offset of at most 5 ms, which is left alone, gives a clip that is in step
(`aligned_iff`).
-/

namespace ClipSync

open Raising MediaTrigger MediaTranscode

/-! ## The time line of a clip -/

/-- The clip time of what is `t` seconds into an input: `-itsoffset` delays the input, `-ss`
    drops its beginning. -/
def placed (option : Option InputOption) (t : ℚ) : Option ℚ :=
  match option with
  | none => some t
  | some (.itsoffset seconds) => some (t + seconds)
  | some (.ss seconds) => if t < seconds then none else some (t - seconds)

/-- Every sound since the first frame is within 5 ms of the picture taken at the same time. -/
def Aligned (videoStart audioStart : ℚ) (input : Input) : Prop :=
  ∀ w, audioStart ≤ w → videoStart ≤ w →
    ∃ c, placed input.option (w - audioStart) = some c ∧ |c - (w - videoStart)| ≤ 5 / 1000

section Options

variable {videoStart audioStart : ℚ}

/-- The digits that the command has keep half a millisecond. -/
theorem fixed_three (x : ℚ) : x - 1 / 2000 ≤ fixed 3 x ∧ fixed 3 x ≤ x + 1 / 2000 := by
  have hnear := fixed_near 3 x
  rw [abs_le] at hnear
  constructor <;> linarith

/-- **Audio that began earlier** is delayed, and off by twice the offset. -/
theorem placed_late (h : 5 / 1000 < videoStart - audioStart) {w : ℚ} :
    ∃ c, placed (offsetOption (videoStart - audioStart)) (w - audioStart) = some c ∧
      2 * (videoStart - audioStart) - 1 / 2000 ≤ c - (w - videoStart) := by
  have hoption : offsetOption (videoStart - audioStart) =
      some (.itsoffset (fixed 3 (videoStart - audioStart))) := if_pos h
  obtain ⟨hlow, -⟩ := fixed_three (videoStart - audioStart)
  rw [hoption]
  refine ⟨_, rfl, ?_⟩
  linarith

/-- **Audio that began later** is cut, and off by twice the offset. -/
theorem placed_early (h : videoStart - audioStart < -(5 / 1000)) {w c : ℚ}
    (hc : placed (offsetOption (videoStart - audioStart)) (w - audioStart) = some c) :
    c - (w - videoStart) ≤ 2 * (videoStart - audioStart) + 1 / 2000 := by
  have hoption : offsetOption (videoStart - audioStart) =
      some (.ss (fixed 3 (-(videoStart - audioStart)))) := by
    rw [offsetOption, if_neg (by linarith), if_pos h]
  obtain ⟨hlow, -⟩ := fixed_three (-(videoStart - audioStart))
  rw [hoption, placed] at hc
  split at hc
  · cases hc
  · obtain rfl := Option.some.inj hc
    linarith

/-- **An offset of at most 5 ms** is left alone. -/
theorem placed_near (h : |videoStart - audioStart| ≤ 5 / 1000) (t : ℚ) :
    placed (offsetOption (videoStart - audioStart)) t = some t := by
  rw [abs_le] at h
  have hoption : offsetOption (videoStart - audioStart) = none := by
    rw [offsetOption, if_neg (by linarith [h.2]), if_neg (by linarith [h.1])]
  rw [hoption]
  rfl

/-- **WHEN A CLIP IS IN STEP**, for every pair of start times. -/
theorem aligned_iff (file : String) :
    Aligned videoStart audioStart ⟨offsetOption (videoStart - audioStart), file⟩ ↔
      |videoStart - audioStart| ≤ 5 / 1000 := by
  constructor
  · intro h
    by_contra hfar
    obtain ⟨c, hplaced, hnear⟩ :=
      h (max audioStart videoStart) (le_max_left ..) (le_max_right ..)
    rw [abs_le] at hnear
    rcases lt_abs.mp (not_le.mp hfar) with hlate | hearly
    · obtain ⟨d, hd, herror⟩ := placed_late (w := max audioStart videoStart) hlate
      obtain rfl := Option.some.inj (hplaced.symm.trans hd)
      linarith [hnear.2]
    · have herror := placed_early (by linarith) hplaced
      linarith [hnear.1]
  · intro h w _ _
    refine ⟨_, placed_near h (w - audioStart), ?_⟩
    have hoffset : w - audioStart - (w - videoStart) = videoStart - audioStart := by ring
    rw [hoffset]
    exact h

end Options

/-! ## The jobs of an event -/

/-- The clip of the front camera, or that of the other one. -/
def clipStem : RecorderId → String
  | .usb1 => "front_clip"
  | _ => "usb_clip"

/-- A job for the clip of a camera: its video, the audio of the event, and the offset between the
    two. -/
structure JobFor (cfg : Config) (inp : HandlerInputs) (r : RecorderId) (job : TranscodeJob) :
    Prop where
  camera : r ≠ .mic
  video : ∃ eventDir, job.avi = eventFile eventDir (clipStem r ++ ".avi") ∧
    ∀ file, job.audio = some file → file = eventFile eventDir "mic_clip.wav"
  offset : job.audioOffset = syncOffset (cameraStart cfg inp r) (micStart cfg inp)

section Handler

variable {cfg : Config} {inp : HandlerInputs} {r : RecorderId}

theorem jobFor_clipJob (hr : r ≠ .mic) (eventDir : String) {audioOffset : ℚ}
    (hoffset : audioOffset = syncOffset (cameraStart cfg inp r) (micStart cfg inp)) :
    JobFor cfg inp r (clipJob cfg inp eventDir (clipStem r) audioOffset) := by
  refine ⟨hr, ⟨eventDir, rfl, fun file hfile => ?_⟩, hoffset⟩
  rw [clipJob] at hfile
  dsimp only at hfile
  split at hfile
  · exact (Option.some.inj hfile).symm
  · cases hfile

/-- The jobs among the entries of an event are for its cameras. -/
theorem jobFor_entriesOf {triggeredAt : ℚ} {eventId : String} {job : TranscodeJob}
    (h : .job job ∈ entriesOf cfg inp triggeredAt eventId
      (cameraStart cfg inp .usb1, cameraStart cfg inp .usb, micStart cfg inp)) :
    ∃ r, JobFor cfg inp r job := by
  simp only [entriesOf, List.mem_cons, reduceCtorEq, Entry.job.injEq, List.not_mem_nil, or_false,
    false_or] at h
  rcases h with rfl | rfl
  · exact ⟨.usb1, jobFor_clipJob (by decide) _ rfl⟩
  · exact ⟨.usb, jobFor_clipJob (by decide) _ rfl⟩

/-- **The handler of an event** starts jobs for its cameras, each with the offset between its
    video and the audio. -/
theorem handleEvent_jobs (info : TriggerInfo) (triggeredAt endedAt : ℚ) (s : Blackbox) :
    ∃ jobs, (runOn (handleEvent cfg inp info triggeredAt endedAt) s).2.transcodes =
        s.transcodes ++ jobs ∧
      ∀ job ∈ jobs, ∃ r, JobFor cfg inp r job := by
  rcases runOn_handleEvent cfg inp info triggeredAt endedAt s with ⟨-, hsame⟩ | ⟨-, id, -, hrun⟩
  · rw [hsame]
    exact ⟨[], (List.append_nil _).symm, fun _ hjob => absurd hjob List.not_mem_nil⟩
  · obtain ⟨done, hadded, hfront, -⟩ := adds_recordEvent info triggeredAt id s
    rw [hrun]
    refine ⟨_, hadded.transcodes, fun job hjob => ?_⟩
    obtain ⟨entry, hentry, hsome⟩ := List.mem_filterMap.mp hjob
    cases entry with
    | row r => cases hsome
    | notice eventId => cases hsome
    | job j =>
        obtain rfl := Option.some.inj hsome
        exact jobFor_entriesOf (hfront.subset hentry)

end Handler

/-! ## The law -/

/-- What ffmpeg makes of a job is aligned, whatever else it meets. -/
def InStep (videoStart audioStart : ℚ) (job : TranscodeJob) : Prop :=
  ∀ (inp : TranscodeInputs) (cmd : FfmpegCommand) (input : Input),
    transcodeJob job inp = .clip cmd → cmd.audio = some input →
      Aligned videoStart audioStart input

/-- The job leads to a clip with audio when its files are there and an encoder works. -/
theorem clip_of_job {job : TranscodeJob} {file : String} (haudio : job.audio = some file) :
    ∃ inp cmd, transcodeJob job inp = .clip cmd ∧
      cmd.audio = some ⟨offsetOption job.audioOffset, file⟩ := by
  refine ⟨⟨true, true, none, fun _ => .done, none⟩, _, rfl, ?_⟩
  show audioInput job.audio true job.audioOffset = _
  rw [haudio]
  rfl

theorem inStep_iff {videoStart audioStart : ℚ} {job : TranscodeJob} {file : String}
    (haudio : job.audio = some file) (hoffset : job.audioOffset = videoStart - audioStart) :
    InStep videoStart audioStart job ↔ |videoStart - audioStart| ≤ 5 / 1000 := by
  constructor
  · intro h
    obtain ⟨inp, cmd, hclip, hinput⟩ := clip_of_job haudio
    have haligned := h inp cmd _ hclip hinput
    rw [hoffset] at haligned
    exact (aligned_iff file).mp haligned
  · intro h inp cmd input hclip hinput
    rw [audio_of_clip hclip, haudio, audioInput, hoffset] at hinput
    split at hinput
    · obtain rfl := Option.some.inj hinput
      exact (aligned_iff file).mpr h
    · cases hinput

/-- **WHEN A MERGED CLIP IS IN STEP.**  The handler of an event starts one job for each camera, and
    where both start times are known, the clip of a job with audio has every sound within 5 ms
    of its picture exactly if the two recordings began within 5 ms of each other. -/
theorem clip_sync (cfg : Config) (inp : HandlerInputs) (info : TriggerInfo)
    (triggeredAt endedAt : ℚ) (s : Blackbox) :
    ∃ jobs, (runOn (handleEvent cfg inp info triggeredAt endedAt) s).2.transcodes =
        s.transcodes ++ jobs ∧
      ∀ job ∈ jobs, ∃ r, JobFor cfg inp r job ∧
        ∀ videoStart audioStart, cameraStart cfg inp r = some videoStart →
          micStart cfg inp = some audioStart → ∀ file, job.audio = some file →
            (InStep videoStart audioStart job ↔ |videoStart - audioStart| ≤ 5 / 1000) := by
  obtain ⟨jobs, hjobs, hfor⟩ := handleEvent_jobs info triggeredAt endedAt s
  refine ⟨jobs, hjobs, fun job hjob => ?_⟩
  obtain ⟨r, hr⟩ := hfor job hjob
  refine ⟨r, hr, fun videoStart audioStart hvideo haudio file hfile => ?_⟩
  refine inStep_iff hfile ?_
  rw [hr.offset, hvideo, haudio]
  rfl

/-! ## A video that began later -/

/-- The videos begin 200 ms after the audio. -/
def lateVideo : HandlerInputs :=
  { raisesNothing with videoStart := fun _ => some (51 / 5), audioStart := 10 }

/-- Every clip with known start times is in step. -/
def ClipsInStep : Prop :=
  ∀ (cfg : Config) (inp : HandlerInputs) (r : RecorderId) (job : TranscodeJob),
    JobFor cfg inp r job → ∀ videoStart audioStart, cameraStart cfg inp r = some videoStart →
      micStart cfg inp = some audioStart → InStep videoStart audioStart job

/-- **The failing event.**  The audio began 200 ms before the video.  The handler passes that on,
    and the sound of one second after the beginning of the audio, 800 ms into the video, is
    placed 1200 ms into the clip. -/
theorem clips_in_step_fails :
    ¬ ClipsInStep ∧
      (runOn (handleEvent allRecorders lateVideo ⟨"manual", none, none⟩ 1769904000 1769904016)
        .initial).2.transcodes.map (fun job => offsetOption job.audioOffset) =
          [some (.itsoffset (1 / 5)), some (.itsoffset (1 / 5))] ∧
      placed (some (.itsoffset (1 / 5))) (11 - 10) = some (6 / 5) := by
  refine ⟨fun h => ?_, by decide +kernel, by decide +kernel⟩
  let job : TranscodeJob :=
    { avi := eventFile "event" "front_clip.avi"
      mp4 := eventFile "event" "front_clip.mp4"
      audio := some (eventFile "event" "mic_clip.wav")
      audioOffset := 51 / 5 - 10
      targetDuration := 15 }
  have hjob : JobFor allRecorders lateVideo .usb1 job :=
    ⟨by decide, ⟨"event", rfl, fun file hfile => (Option.some.inj hfile).symm⟩, rfl⟩
  have haudio : job.audio = some (eventFile "event" "mic_clip.wav") := rfl
  have hnear := (inStep_iff haudio rfl).mp
    (h allRecorders lateVideo .usb1 job hjob (51 / 5) 10 rfl rfl)
  norm_num [abs_le] at hnear

end ClipSync
