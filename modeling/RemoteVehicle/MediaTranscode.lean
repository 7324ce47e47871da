import RemoteVehicle.MediaTrigger

/-!
# MEDIA transcoding — `_transcode` of `event_trigger.py`

An event clip is made by ffmpeg from the video and, if there is one, the audio of the event.
The encoders are tried one after the other; OpenCV converts the video alone when both have
failed.

An option in front of an input says where it is placed on the time line of the clip.  Numbers are
the exact rationals behind the floats, and 0.005 and 0.01 are taken as written.
-/

namespace MediaTranscode

open Calendar MediaTrigger

/-! ## Numbers -/

/-- The number that `f"{x:.3f}"` writes, with this many digits. -/
def fixed (digits : Nat) (x : ℚ) : ℚ := (roundHalfEven (x * 10 ^ digits) : ℚ) / 10 ^ digits

/-- It is at most half a digit away. -/
theorem fixed_near (digits : Nat) (x : ℚ) :
    |fixed digits x - x| ≤ 1 / (2 * 10 ^ digits) := by
  have hpos : (0 : ℚ) < 10 ^ digits := by positivity
  obtain ⟨hlow, hhigh⟩ := roundHalfEven_near (x * 10 ^ digits)
  have herror : |(roundHalfEven (x * 10 ^ digits) : ℚ) - x * 10 ^ digits| ≤ 1 / 2 := by
    rw [abs_le]
    constructor <;> linarith
  have hscale : fixed digits x - x =
      ((roundHalfEven (x * 10 ^ digits) : ℚ) - x * 10 ^ digits) / 10 ^ digits := by
    rw [fixed]
    field_simp
  rw [hscale, abs_div, abs_of_pos hpos, div_le_iff₀ hpos]
  refine herror.trans (le_of_eq ?_)
  field_simp

/-! ## Video -/

/-- What an opened capture says about its file. -/
structure VideoProperties where
  fps : ℚ
  frames : ℚ

/-- `_probe_video_timeline`: the duration, and the span of the time stamps. -/
def probeVideoTimeline (cap : Option VideoProperties) : Option (ℚ × ℚ) :=
  match cap with
  | none => none
  | some ⟨fps, frames⟩ =>
      if fps ≤ 0 ∨ frames ≤ 0 then none
      else some (frames / fps, max ((frames - 1) / fps) (1 / fps))

/-- `video_filter`: the factor of `setpts`, where the duration is off by more than a
    hundredth. -/
def videoFilter (targetDuration : Option ℚ) (cap : Option VideoProperties) : Option ℚ :=
  match targetDuration, probeVideoTimeline cap with
  | some targetDuration, some (_, ptsSpan) =>
      if targetDuration ≤ 0 then none
      else
        let durationRatio := targetDuration / ptsSpan
        if 1 / 100 < |durationRatio - 1| then some (fixed 6 durationRatio) else none
  | _, _ => none

/-! ## Audio -/

/-- An option in front of an input. -/
inductive InputOption where
  | itsoffset (seconds : ℚ)
  | ss (seconds : ℚ)
deriving DecidableEq

/-- `-i file`, and the option in front of it. -/
structure Input where
  option : Option InputOption
  file : String
deriving DecidableEq

/-- The option for an offset: a positive one delays the audio, a negative one cuts its
    beginning off, and up to 5 ms it stays as it is. -/
def offsetOption (audioOffset : ℚ) : Option InputOption :=
  if 5 / 1000 < audioOffset then some (.itsoffset (fixed 3 audioOffset))
  else if audioOffset < -(5 / 1000) then some (.ss (fixed 3 (-audioOffset)))
  else none

/-- `audio_inputs`. -/
def audioInput (audio : Option String) (audioExists : Bool) (audioOffset : ℚ) : Option Input :=
  match audio with
  | none => none
  | some file => if audioExists then some ⟨offsetOption audioOffset, file⟩ else none

/-! ## The command -/

/-- `cmd`, for one of the encoders. -/
structure FfmpegCommand where
  avi : String
  audio : Option Input
  setpts : Option ℚ
  codec : String
  extra : List String
  audioCodec : List String
  mp4 : String
deriving DecidableEq

/-- `codecs`: the hardware encoder first. -/
def codecs : List (String × List String) :=
  [("h264_v4l2m2m", ["-pix_fmt", "yuv420p"]),
   ("libx264", ["-preset", "fast", "-crf", "23", "-pix_fmt", "yuv420p"])]

/-- How `subprocess.run` ends. -/
inductive RunOutcome where
  | done
  | notFound
  | timeout
  | failed
deriving DecidableEq, Repr

/-- What `_transcode` meets: the files, the properties of the video, how ffmpeg ends with each
    encoder, and the frames that OpenCV converts, unless it raises. -/
structure TranscodeInputs where
  aviExists : Bool
  audioExists : Bool
  cap : Option VideoProperties
  run : String → RunOutcome
  opencv : Option Nat

/-- What is there in the end. -/
inductive Transcoded where
  | clip (cmd : FfmpegCommand)
  | videoOnly
  | nothing
deriving DecidableEq

/-- The loop over the encoders; none where all of them have failed. -/
def tryCodecs (cmd : String × List String → FfmpegCommand) (run : String → RunOutcome) :
    List (String × List String) → Option Transcoded
  | [] => none
  | codec :: rest =>
      match run codec.1 with
      | .done => some (.clip (cmd codec))
      | .notFound => some .nothing
      | .timeout => some .nothing
      | .failed => tryCodecs cmd run rest

/-- `_transcode`. -/
def transcode (avi mp4 : String) (audio : Option String) (audioOffset : ℚ)
    (targetDuration : Option ℚ) (inp : TranscodeInputs) : Transcoded :=
  if inp.aviExists = false then .nothing
  else
    let audioInputs := audioInput audio inp.audioExists audioOffset
    let cmd (codec : String × List String) : FfmpegCommand :=
      { avi := avi
        audio := audioInputs
        setpts := videoFilter targetDuration inp.cap
        codec := codec.1
        extra := codec.2
        audioCodec := if audioInputs.isSome then ["-c:a", "aac", "-b:a", "128k"] else ["-an"]
        mp4 := mp4 }
    match tryCodecs cmd inp.run codecs with
    | some result => result
    | none =>
        match inp.opencv with
        | none => .nothing
        | some count => if count = 0 then .nothing else .videoOnly

/-- The thread of a job. -/
def transcodeJob (job : TranscodeJob) (inp : TranscodeInputs) : Transcoded :=
  transcode job.avi job.mp4 job.audio job.audioOffset (some job.targetDuration) inp

/-! ## What a clip is made of -/

section Clips

variable {avi mp4 : String} {audio : Option String} {audioOffset : ℚ} {targetDuration : Option ℚ}
  {inp : TranscodeInputs} {cmd : FfmpegCommand}

/-- A clip comes from one of the encoders. -/
theorem tryCodecs_clip {command : String × List String → FfmpegCommand} {run : String → RunOutcome}
    {encoders : List (String × List String)}
    (h : tryCodecs command run encoders = some (.clip cmd)) : ∃ c ∈ encoders, cmd = command c := by
  induction encoders with
  | nil => cases h
  | cons c rest ih =>
      rw [tryCodecs] at h
      cases hrun : run c.1 with
      | done =>
          rw [hrun] at h
          cases h
          exact ⟨c, List.mem_cons_self, rfl⟩
      | notFound =>
          rw [hrun] at h
          cases h
      | timeout =>
          rw [hrun] at h
          cases h
      | failed =>
          rw [hrun] at h
          obtain ⟨d, hd, hcmd⟩ := ih h
          exact ⟨d, List.mem_cons_of_mem c hd, hcmd⟩

/-- **The audio of a clip** is placed by the offset. -/
theorem audio_of_clip (h : transcode avi mp4 audio audioOffset targetDuration inp = .clip cmd) :
    cmd.audio = audioInput audio inp.audioExists audioOffset := by
  rw [transcode] at h
  split at h
  · cases h
  · dsimp only at h
    split at h
    · rename_i result hresult
      subst h
      obtain ⟨c, -, rfl⟩ := tryCodecs_clip hresult
      rfl
    · split at h
      · cases h
      · split at h <;> cases h

end Clips

end MediaTranscode
