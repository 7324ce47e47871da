import RemoteVehicle.Acquisition
import RemoteVehicle.MediaTrigger

/-!
# Recorders that are left recording

The handler of an event starts the clips of the recorders one after the other and stops them in
the same order, all in one `try` block.  Its `finally` block stops no recorder, so an exception
between the start of a clip and its stop leaves the clip open.

`Performs` reads a part of the handler as a part of a session of the library: what it does to
the recorders, and whether it goes on.  The whole `try` block is a session
(`recordEvent_recording`), and the library says when a session leaves nothing behind.
-/

namespace RecorderRelease

open Acquisition Raising MediaTrigger

/-! ## Outcomes -/

/-- The recorders of the trigger, in the order of their starts and stops. -/
def recorders (cfg : Config) : List RecorderId :=
  [RecorderId.usb1, .usb, .mic].filter cfg.present

theorem mem_recorders {cfg : Config} {r : RecorderId} :
    r ∈ recorders cfg ↔ cfg.present r = true := by
  rw [recorders, List.mem_filter]
  cases r <;> simp

theorem recorders_nodup (cfg : Config) : (recorders cfg).Nodup :=
  List.Nodup.filter _ (by decide)

/-- How `start_event_clip` ends. -/
def startOutcome (inp : HandlerInputs) (r : RecorderId) : Acquired :=
  if inp.raises (.startClip r) then .raises
  else if r = .mic ∨ inp.opened r = true then .granted
  else .refused

/-- How `stop_event_clip` ends on an open clip. -/
def stopOutcome (inp : HandlerInputs) (r : RecorderId) : Released :=
  if inp.raises (.stopClip r) then (if r = .mic then .raisesFreed else .raisesHolding)
  else .done

theorem startOutcome_raises {inp : HandlerInputs} {r : RecorderId} :
    startOutcome inp r ≠ .raises ↔ inp.raises (.startClip r) = false := by
  rw [startOutcome]
  cases inp.raises (.startClip r) with
  | true => simp
  | false =>
      simp only [Bool.false_eq_true, if_false]
      split <;> simp

theorem stopOutcome_done {inp : HandlerInputs} {r : RecorderId} :
    stopOutcome inp r = .done ↔ inp.raises (.stopClip r) = false := by
  rw [stopOutcome]
  cases inp.raises (.stopClip r) with
  | true =>
      simp only [if_true]
      split <;> simp
  | false => simp

theorem stopOutcome_holding {inp : HandlerInputs} {r : RecorderId} :
    stopOutcome inp r ≠ .raisesHolding ↔
      (r ≠ .mic → inp.raises (.stopClip r) = false) := by
  rw [stopOutcome]
  cases inp.raises (.stopClip r) with
  | true =>
      simp only [if_true]
      by_cases hr : r = .mic <;> simp [hr]
  | false => simp

/-! ## Parts of the handler as parts of a session -/

section Performs

variable {α β : Type} {cfg : Config} {inp : HandlerInputs} {r : RecorderId}
  {f g : (RecorderId → Bool) → Outcome RecorderId}

/-- The part does this to the recorders, and goes on when it says so. -/
def Performs (x : HandlerM α) (f : (RecorderId → Bool) → Outcome RecorderId) : Prop :=
  ∀ s, (runOn x s).2.recording = (f s.recording).1 ∧ (runOn x s).1.isOk = (f s.recording).2

/-- The part leaves the recorders so, whether it goes on or not. -/
def Leaves (x : HandlerM α) (f : (RecorderId → Bool) → Outcome RecorderId) : Prop :=
  ∀ s, (runOn x s).2.recording = (f s.recording).1

/-- The part leaves the recorders alone. -/
def Keeps (x : HandlerM α) : Prop := ∀ s, (runOn x s).2.recording = s.recording

/-- **Parts in a row are parts of a session in a row.** -/
theorem performs_bind {x : HandlerM α} {k : α → HandlerM β} (hx : Performs x f)
    (hk : ∀ a, Performs (k a) g) : Performs (x >>= k) fun held => (f held).next g := by
  intro s
  obtain ⟨hheld, hdone⟩ := hx s
  dsimp only
  rcases hrun : runOn x s with ⟨e | a, t⟩
  · rw [hrun] at hheld hdone
    rw [runOn_bind_error hrun, Outcome.next_raised hdone.symm]
    exact ⟨hheld, hdone⟩
  · rw [hrun] at hheld hdone
    rw [runOn_bind_ok hrun, Outcome.next_done hdone.symm, ← hheld]
    exact hk a t

/-- What comes after the last thing done to the recorders does not matter. -/
theorem performs_keeps {x : HandlerM α} {k : α → HandlerM β} (hx : Performs x f)
    (hk : ∀ a, Keeps (k a)) : Leaves (x >>= k) f := by
  intro s
  rcases hrun : runOn x s with ⟨e | a, t⟩
  · rw [runOn_bind_error hrun, ← (hx s).1, hrun]
  · rw [runOn_bind_ok hrun, hk a t, ← (hx s).1, hrun]

theorem leaves_bind {x : HandlerM α} {k : α → HandlerM β} (hx : Performs x f)
    (hk : ∀ a, Leaves (k a) g) : Leaves (x >>= k) fun held => (f held).next g := by
  intro s
  obtain ⟨hheld, hdone⟩ := hx s
  dsimp only
  rcases hrun : runOn x s with ⟨e | a, t⟩
  · rw [hrun] at hheld hdone
    rw [runOn_bind_error hrun, Outcome.next_raised hdone.symm]
    exact hheld
  · rw [hrun] at hheld hdone
    rw [runOn_bind_ok hrun, Outcome.next_done hdone.symm, ← hheld]
    exact hk a t

theorem keeps_bind {x : HandlerM α} {k : α → HandlerM β} (hx : Keeps x) (hk : ∀ a, Keeps (k a)) :
    Keeps (x >>= k) := by
  intro s
  rcases hrun : runOn x s with ⟨e | a, t⟩
  · rw [runOn_bind_error hrun, ← hx s, hrun]
  · rw [runOn_bind_ok hrun, hk a t, ← hx s, hrun]

theorem performs_pure (a : α) : Performs (pure a : HandlerM α) fun held => (held, true) := by
  intro s
  rw [runOn_pure]
  exact ⟨rfl, rfl⟩

theorem performs_attempt (inp : HandlerInputs) (c : HandlerCall) :
    Performs (attempt inp c) fun held => (held, !inp.raises c) := by
  intro s
  rw [runOn_attempt]
  cases inp.raises c with
  | true => exact ⟨rfl, rfl⟩
  | false => exact ⟨rfl, rfl⟩

theorem keeps_attempt (inp : HandlerInputs) (c : HandlerCall) : Keeps (attempt inp c) :=
  fun s => (performs_attempt inp c s).1

theorem runOn_setRecording (r : RecorderId) (b : Bool) (s : Blackbox) :
    runOn (setRecording r b) s =
      (.ok (), { s with recording := Function.update s.recording r b }) :=
  runOn_modify _ s

/-- A camera is acquired by its start. -/
theorem performs_usbStart (inp : HandlerInputs) {r : RecorderId} (hr : r ≠ .mic) :
    Performs (usbStartEventClip inp r) (acquire (startOutcome inp) r) := by
  intro s
  rw [acquire, startOutcome, usbStartEventClip, runOn_bind, runOn_attempt]
  cases inp.raises (.startClip r) with
  | true => exact ⟨rfl, rfl⟩
  | false =>
      simp only [Bool.false_eq_true, if_false, hr, false_or]
      cases inp.opened r with
      | true =>
          rw [if_pos rfl, if_pos rfl, runOn_bind, runOn_setRecording]
          exact ⟨rfl, rfl⟩
      | false =>
          rw [if_neg Bool.false_ne_true, if_neg Bool.false_ne_true, runOn_pure]
          exact ⟨rfl, rfl⟩

/-- So is the microphone, which opens no file. -/
theorem performs_micStart (inp : HandlerInputs) :
    Performs (micStartEventClip inp) (acquire (startOutcome inp) .mic) := by
  intro s
  rw [acquire, startOutcome, micStartEventClip, runOn_bind, runOn_attempt]
  cases inp.raises (.startClip .mic) with
  | true => exact ⟨rfl, rfl⟩
  | false =>
      simp only [Bool.false_eq_true, if_false, true_or, if_true]
      rw [runOn_bind, runOn_setRecording]
      exact ⟨rfl, rfl⟩

/-- A camera is released by its stop, unless the release raises. -/
theorem performs_usbStop (inp : HandlerInputs) {r : RecorderId} (hr : r ≠ .mic) :
    Performs (usbStopEventClip inp r) (release (stopOutcome inp) r) := by
  intro s
  rw [release, stopOutcome, usbStopEventClip, runOn_bind_ok (runOn_get s)]
  cases s.recording r with
  | false =>
      rw [if_neg Bool.false_ne_true, if_neg Bool.false_ne_true, runOn_pure]
      exact ⟨rfl, rfl⟩
  | true =>
      rw [if_pos rfl, if_pos rfl, if_neg hr, runOn_bind, runOn_attempt]
      cases inp.raises (.stopClip r) with
      | true => exact ⟨rfl, rfl⟩
      | false =>
          simp only [Bool.false_eq_true, if_false]
          rw [runOn_setRecording]
          exact ⟨rfl, rfl⟩

/-- The microphone is released in any case. -/
theorem performs_micStop (inp : HandlerInputs) :
    Performs (micStopEventClip inp) (release (stopOutcome inp) .mic) := by
  intro s
  rw [release, stopOutcome, micStopEventClip, runOn_bind_ok (runOn_get s)]
  cases s.recording .mic with
  | false =>
      rw [if_neg Bool.false_ne_true, if_neg Bool.false_ne_true, runOn_pure]
      exact ⟨rfl, rfl⟩
  | true =>
      rw [if_pos rfl, if_pos rfl, if_pos rfl, runOn_bind_ok (runOn_setRecording .mic false s),
        runOn_attempt]
      cases inp.raises (.stopClip .mic) with
      | true => exact ⟨rfl, rfl⟩
      | false => exact ⟨rfl, rfl⟩

/-- A recorder that is not there is not in the list. -/
theorem performs_whenPresent (cfg : Config) {r : RecorderId} (absent : α) {x : HandlerM α}
    {call : RecorderId → (RecorderId → Bool) → Outcome RecorderId} (hx : Performs x (call r)) :
    Performs (whenPresent cfg r absent x) (each call ([r].filter cfg.present)) := by
  rw [whenPresent, List.filter_singleton]
  cases cfg.present r with
  | false => exact performs_pure absent
  | true =>
      intro s
      obtain ⟨hheld, hdone⟩ := hx s
      have hone : each call [r] s.recording = call r s.recording := by
        rw [each, Outcome.next]
        split
        · rename_i hgo
          exact Prod.ext rfl hgo.symm
        · rfl
      show (runOn x s).2.recording = (each call [r] s.recording).1 ∧
        (runOn x s).1.isOk = (each call [r] s.recording).2
      rw [hone]
      exact ⟨hheld, hdone⟩

/-- The list of the recorders, taken apart. -/
theorem each_recorders (call : RecorderId → (RecorderId → Bool) → Outcome RecorderId)
    (cfg : Config) (held : RecorderId → Bool) :
    each call (recorders cfg) held =
      (each call ([RecorderId.usb1].filter cfg.present) held).next fun held =>
        (each call ([RecorderId.usb].filter cfg.present) held).next
          (each call ([RecorderId.mic].filter cfg.present)) := by
  have hsplit : recorders cfg = [RecorderId.usb1].filter cfg.present ++
      ([RecorderId.usb].filter cfg.present ++ [RecorderId.mic].filter cfg.present) := by
    rw [recorders, ← List.filter_append, ← List.filter_append]
    rfl
  have hrest : each call ([RecorderId.usb].filter cfg.present ++
      [RecorderId.mic].filter cfg.present) = fun held =>
        (each call ([RecorderId.usb].filter cfg.present) held).next
          (each call ([RecorderId.mic].filter cfg.present)) :=
    funext fun held => each_append call _ _ held
  rw [hsplit, each_append, hrest]

/-! ## The handler -/

theorem performs_startClips (cfg : Config) (inp : HandlerInputs) :
    Performs (startClips cfg inp) (each (acquire (startOutcome inp)) (recorders cfg)) := by
  have hfront := performs_whenPresent cfg none (performs_usbStart inp (r := .usb1) (by decide))
  have hrear := performs_whenPresent cfg none (performs_usbStart inp (r := .usb) (by decide))
  have hmic := performs_whenPresent cfg none (performs_micStart inp)
  have hall : Performs (startClips cfg inp) _ := performs_bind hfront fun _ =>
    performs_bind hrear fun _ => performs_bind hmic fun _ => performs_pure _
  intro s
  obtain ⟨hheld, hdone⟩ := hall s
  rw [each_recorders]
  simp only [Outcome.next_pure] at hheld hdone
  exact ⟨hheld, hdone⟩

theorem performs_stopClips (cfg : Config) (inp : HandlerInputs) :
    Performs (stopClips cfg inp) (each (release (stopOutcome inp)) (recorders cfg)) := by
  have hfront := performs_whenPresent cfg () (performs_usbStop inp (r := .usb1) (by decide))
  have hrear := performs_whenPresent cfg () (performs_usbStop inp (r := .usb) (by decide))
  have hmic := performs_whenPresent cfg () (performs_micStop inp)
  intro s
  rw [each_recorders]
  exact performs_bind hfront (fun _ => performs_bind hrear fun _ => hmic) s

theorem keeps_modify {f : Blackbox → Blackbox} (h : ∀ s, (f s).recording = s.recording) :
    Keeps (modify f) := by
  intro s
  rw [runOn_modify]
  exact h s

theorem keeps_saveEvent (cfg : Config) (inp : HandlerInputs) (info : TriggerInfo)
    (triggeredAt : ℚ) (eventId : String) (starts : Option ℚ × Option ℚ × Option ℚ) :
    Keeps (saveEvent cfg inp info triggeredAt eventId starts) := by
  have hjob : ∀ dir stem offset, Keeps (startTranscode cfg inp dir stem offset) :=
    fun _ _ _ => keeps_bind (keeps_attempt inp _) fun _ => keeps_modify fun _ => rfl
  refine keeps_bind (keeps_attempt inp _) fun _ => ?_
  refine keeps_bind (keeps_modify fun _ => rfl) fun _ => ?_
  refine keeps_bind (keeps_attempt inp _) fun _ => ?_
  refine keeps_bind (keeps_modify fun _ => rfl) fun _ => ?_
  refine keeps_bind (keeps_attempt inp _) fun _ => ?_
  refine keeps_bind (keeps_modify fun _ => rfl) fun _ => ?_
  refine keeps_bind (keeps_attempt inp _) fun _ => ?_
  exact keeps_bind (hjob _ _ _) fun _ => hjob _ _ _

/-- **The `try` block is a session** on the recorders. -/
theorem recordEvent_recording (cfg : Config) (inp : HandlerInputs) (info : TriggerInfo)
    (triggeredAt : ℚ) (eventId : String) (s : Blackbox) :
    (runOn (recordEvent cfg inp info triggeredAt eventId) s).2.recording =
      (session (startOutcome inp) (inp.raises .sleep) (stopOutcome inp) (recorders cfg)
        s.recording).1 := by
  have hclips : Leaves (recordEvent cfg inp info triggeredAt eventId) _ :=
    leaves_bind (performs_startClips cfg inp) fun starts =>
      leaves_bind (performs_attempt inp .sleep) fun _ =>
        performs_keeps (performs_stopClips cfg inp) fun _ =>
          keeps_saveEvent cfg inp info triggeredAt eventId starts
  rw [hclips s, session, Outcome.next_next]

end Performs

/-! ## The event -/

section Event

variable {cfg : Config} {inp : HandlerInputs} {info : TriggerInfo} {triggeredAt endedAt : ℚ}
  {s : Blackbox}

/-- A recorder has a clip that is to be stopped: from before, or because this event has started
    one. -/
def HasClip (cfg : Config) (inp : HandlerInputs) (triggeredAt : ℚ) (s : Blackbox)
    (r : RecorderId) : Prop :=
  s.recording r = true ∨
    (Opens cfg inp triggeredAt ∧ Granted (startOutcome inp) (recorders cfg) r)

/-- When a recorder has a clip, nothing raises up to its stop: neither before the `try` block,
    nor in a start, nor in the sleep, nor in the stop of a recorder before it, nor in its own
    unless it is the microphone. -/
def StopsClips (cfg : Config) (inp : HandlerInputs) (triggeredAt : ℚ) (s : Blackbox) : Prop :=
  ∀ before r after, recorders cfg = before ++ r :: after → HasClip cfg inp triggeredAt s r →
    Opens cfg inp triggeredAt ∧
      (∀ q ∈ recorders cfg, inp.raises (.startClip q) = false) ∧
      inp.raises .sleep = false ∧
      (∀ q ∈ before, HasClip cfg inp triggeredAt s q → inp.raises (.stopClip q) = false) ∧
      (r ≠ .mic → inp.raises (.stopClip r) = false)

/-- In an event that reaches its `try` block this is what the library calls undisturbed. -/
theorem stopsClips_opens (hopens : Opens cfg inp triggeredAt) :
    StopsClips cfg inp triggeredAt s ↔ Undisturbed (startOutcome inp) (inp.raises .sleep)
      (stopOutcome inp) (recorders cfg) s.recording := by
  have hclip : ∀ r, HasClip cfg inp triggeredAt s r ↔
      InHand (startOutcome inp) (recorders cfg) s.recording r := by
    intro r
    rw [HasClip, InHand, and_iff_right hopens]
  rw [StopsClips, Undisturbed]
  refine forall_congr' fun before => forall_congr' fun r => forall_congr' fun after =>
    imp_congr_right fun _ => ?_
  rw [hclip, and_iff_right hopens]
  refine imp_congr_right fun _ => and_congr ?_ (and_congr Iff.rfl (and_congr ?_ ?_))
  · exact forall₂_congr fun q _ => startOutcome_raises.symm
  · exact forall₂_congr fun q _ => imp_congr (hclip q) stopOutcome_done.symm
  · exact stopOutcome_holding.symm

/-- In one that does not, it says that no recorder was left recording before. -/
theorem stopsClips_not_opens (hopens : ¬ Opens cfg inp triggeredAt) :
    StopsClips cfg inp triggeredAt s ↔ ∀ r ∈ recorders cfg, s.recording r = false := by
  constructor
  · intro h r hr
    obtain ⟨before, after, heq⟩ := List.append_of_mem hr
    by_contra hrec
    exact hopens (h before r after heq (Or.inl (by simpa using hrec))).1
  · rintro h before r after heq (hrec | hgranted)
    · rw [h r (by simp [heq])] at hrec
      cases hrec
    · exact absurd hgranted.1 hopens

/-- **NO RECORDER IS LEFT RECORDING** after an event exactly when nothing raises between the
    start of a clip and its stop, for any recorders and any exceptions. -/
theorem recorders_released_iff (cfg : Config) (inp : HandlerInputs) (info : TriggerInfo)
    (triggeredAt endedAt : ℚ) (s : Blackbox) :
    (∀ r, cfg.present r = true →
      (runOn (handleEvent cfg inp info triggeredAt endedAt) s).2.recording r = false) ↔
      StopsClips cfg inp triggeredAt s := by
  have hlist : ∀ held : RecorderId → Bool,
      (∀ r, cfg.present r = true → held r = false) ↔ ∀ r ∈ recorders cfg, held r = false := by
    intro held
    exact forall_congr' fun r => imp_congr mem_recorders.symm Iff.rfl
  rw [hlist]
  rcases runOn_handleEvent cfg inp info triggeredAt endedAt s with
    ⟨hopens, hrun⟩ | ⟨hopens, id, -, hrun⟩
  · rw [hrun, stopsClips_not_opens hopens]
  · rw [hrun, stopsClips_opens hopens, ← session_none_iff (recorders_nodup cfg)]
    dsimp only
    rw [recordEvent_recording]

end Event

/-! ## A camera that goes on recording -/

/-- **The front camera goes on recording** when the rear camera raises at the start of its clip:
    the stops are skipped with the rest of the `try` block. -/
theorem front_left_recording :
    (runOn (handleEvent allRecorders (raisesOnly (.startClip .usb)) ⟨"manual", none, none⟩
      1769904000 1769904001) .initial).2.recording .usb1 = true := by
  decide +kernel

end RecorderRelease
