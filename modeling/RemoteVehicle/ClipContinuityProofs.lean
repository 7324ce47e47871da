import Mathlib.Data.List.Basic
import RemoteVehicle.MediaRecorder
import RemoteVehicle.Runs

/-!
# The clip of an event, item by item

A clip should have every item from the oldest one retained at its start to the last one captured
before its stop, and each of them once.  The capture thread may be anywhere in its loop when the
snapshot is taken, when the clip is activated and when it is stopped, and holds an item that is
in the ring buffer already.  Whether this item belongs into the clip is decided by the snapshot,
but whether it gets there by the activation.

1. `Base`: what holds in every run.
2. `HandsOver`: the steps after which the clip is still what it should be, or lacks nothing but
   the item in hand.
3. `clips_continuous`: in a run of such steps every clip is continuous.
-/

namespace ClipContinuity

open Runs Handover MediaRecorder

variable {T : Type} {k : RecorderKind T} {s : Recorder T} {c : Clip T} {f : Captured T}

/-! ## What holds in every run -/

/-- The items of the clip were captured, and its start is not in the future. -/
def Within (s : Recorder T) (c : Clip T) : Prop :=
  c.first ≤ s.captured.length ∧ ∀ f ∈ c.frames, f ∈ s.captured

structure Base (s : Recorder T) : Prop where
  numbers : ∀ (i : Nat) (f : Captured T), s.captured[i]? = some f → f.number = i
  ring : s.ring.buf <:+ s.captured
  hand : ∀ f ∈ s.hand, s.captured.getLast? = some f
  starting : ∀ c ∈ s.starting, Within s c
  event : ∀ c ∈ s.event, Within s c
  saved : ∀ p ∈ s.saved, p.2 ≤ s.captured.length

theorem base_initial (k : RecorderKind T) : Base (Recorder.initial k) := by
  refine ⟨?_, ?_, ?_, ?_, ?_, ?_⟩
  · intro i f hf
    cases hf
  · exact List.suffix_refl []
  · intro f hf
    cases hf
  · intro c hc
    cases hc
  · intro c hc
    cases hc
  · intro p hp
    cases hp

/-- An item occurs once. -/
theorem Base.nodup (h : Base s) : s.captured.Nodup := by
  rw [List.nodup_iff_getElem?_ne_getElem?]
  intro i j hij hj heq
  have hi := List.getElem?_eq_getElem (hij.trans hj)
  have hi' := h.numbers i _ hi
  have hj' := h.numbers j _ (heq ▸ hi)
  omega

/-- A new one is not among those captured before. -/
theorem Base.fresh (h : Base s) (item : T) : ⟨s.captured.length, item⟩ ∉ s.captured := by
  intro hmem
  obtain ⟨i, hi⟩ := List.mem_iff_getElem?.mp hmem
  have hnumber := h.numbers i _ hi
  have hlt := (List.getElem?_eq_some_iff.mp hi).1
  dsimp only at hnumber
  omega

/-- The ring buffer keeps the last items. -/
theorem push_suffix {r : RingBuffer (Captured T)} {l : List (Captured T)} (h : r.buf <:+ l)
    (f : Captured T) : (r.push f).buf <:+ l ++ [f] := by
  obtain ⟨u, rfl⟩ := h
  refine (List.drop_suffix _ _).trans ⟨u, ?_⟩
  rw [List.append_assoc]

/-- A clip begins with items of the ring buffer, none of which is older than its start. -/
theorem beginClip_sublist (h : Base s) (now : ℚ) :
    ((beginClip k s now).frames).Sublist (s.captured.drop (beginClip k s now).first) ∧
      (beginClip k s now).first ≤ s.captured.length := by
  have hsub : (s.ring.snapshot.filter fun f => k.preEvent now f.item).Sublist s.captured :=
    (List.filter_sublist).trans h.ring.sublist
  unfold beginClip
  dsimp only
  generalize s.ring.snapshot.filter (fun f => k.preEvent now f.item) = filtered at hsub
  cases filtered with
  | nil => exact ⟨List.nil_sublist _, le_refl _⟩
  | cons f rest =>
      dsimp only
      -- the position of the oldest item is its number
      obtain ⟨l, m, hlm, hf, hrest⟩ := List.cons_sublist_iff.mp hsub
      obtain ⟨u, v, rfl⟩ := List.append_of_mem hf
      have hat : s.captured[u.length]? = some f := by
        rw [hlm]
        simp
      have hnumber := h.numbers u.length f hat
      have hlt := (List.getElem?_eq_some_iff.mp hat).1
      rw [hnumber]
      refine ⟨?_, hlt.le⟩
      have hdrop : s.captured.drop u.length = f :: (v ++ m) := by
        rw [hlm, List.append_assoc, List.drop_left, List.cons_append]
      rw [hdrop]
      exact (hrest.trans (List.sublist_append_right v m)).cons_cons f

theorem Within.snoc (h : Within s c) {t : Recorder T} (ht : t.captured = s.captured ++ [f]) :
    Within t c := by
  obtain ⟨hfirst, hmem⟩ := h
  refine ⟨?_, fun g hg => ?_⟩
  · rw [ht, List.length_append]
    exact Nat.le_add_right_of_le hfirst
  · rw [ht]
    exact List.mem_append_left _ (hmem g hg)

/-- Nothing but the item in hand comes into a clip. -/
theorem Within.write (h : Within s c) (hf : f ∈ s.captured) :
    Within s { c with frames := c.frames ++ [f] } := by
  refine ⟨h.1, fun g hg => ?_⟩
  rcases List.mem_append.mp hg with hold | hnew
  · exact h.2 g hold
  · rw [List.mem_singleton.mp hnew]
    exact hf

theorem Base.hand_mem (h : Base s) (hf : f ∈ s.hand) : f ∈ s.captured :=
  List.mem_of_getLast? (h.hand f hf)

theorem Base.begin (h : Base s) (now : ℚ) : Within s (beginClip k s now) := by
  obtain ⟨hsub, hfirst⟩ := beginClip_sublist (k := k) h now
  exact ⟨hfirst, fun f hf => List.mem_of_mem_drop (hsub.subset hf)⟩

/-! ## What the threads should do -/

/-- The item was captured after the oldest one of the clip and is not in the clip. -/
def OwedTo (s : Recorder T) (c : Clip T) (f : Captured T) : Prop :=
  Owed s.captured c.first c.frames f

/-- The clip lacks nothing but the item in hand. -/
def TightClip (s : Recorder T) (c : Clip T) : Prop :=
  Tight s.captured c.first s.hand c.frames

/-- Before a clip is activated, the capture thread passes its event section with items of the
    snapshot only, and the snapshot leaves out none that has passed. -/
def StartingOk (k : RecorderKind T) (s : Recorder T) : RecorderEvent T → Prop
  | .eventSection => ∀ f ∈ s.hand, ∀ c ∈ s.starting, ¬ OwedTo s c f
  | .captureError => ∀ f ∈ s.hand, ∀ c ∈ s.starting, ¬ OwedTo s c f
  | .takeSnapshot now => s.starting = none →
      ∀ f ∈ s.captured, OwedTo s (beginClip k s now) f → s.hand = some f
  | _ => True

/-- From then on, it passes its event section with other items only, loses none of these, and
    holds none at the stop. -/
def OpenOk (s : Recorder T) : RecorderEvent T → Prop
  | .eventSection => ∀ f ∈ s.hand, ∀ c ∈ s.event, OwedTo s c f
  | .captureError => ∀ f ∈ s.hand, ∀ c ∈ s.event, ¬ OwedTo s c f
  | .stopEventClip => s.starting = none → ∀ f ∈ s.hand, ∀ c ∈ s.event, ¬ OwedTo s c f
  | _ => True

/-- The step does right by both clips. -/
def HandsOver (k : RecorderKind T) (s : Recorder T) (e : RecorderEvent T) : Prop :=
  StartingOk k s e ∧ OpenOk s e

/-- The clip has every item from its start to its stop, each of them once. -/
def Continuous (captured : List (Captured T)) (p : Clip T × Nat) : Prop :=
  p.1.frames = (captured.take p.2).drop p.1.first

/-! ## Steps -/

/-- **A step of a recorder.** -/
inductive Steps (k : RecorderKind T) (s : Recorder T) : RecorderEvent T → Recorder T → Prop where
  /-- The step does not take place, and no clip asks for anything. -/
  | idle (e : RecorderEvent T) (hok : HandsOver k s e) : Steps k s e s
  | pushed (item : T) (hhand : s.hand = none) :
      Steps k s (.pushItem item)
        { s with
          ring := s.ring.push ⟨s.captured.length, item⟩
          captured := s.captured ++ [⟨s.captured.length, item⟩]
          hand := some ⟨s.captured.length, item⟩ }
  | delivered (f : Captured T) (hhand : s.hand = some f) :
      Steps k s .eventSection
        { s with
          hand := none
          event := s.event.map fun c => { c with frames := c.frames ++ [f] } }
  | failed : Steps k s .captureError
      { s with hand := none, capturing := s.capturing && k.survives }
  | begun (now : ℚ) (hidle : s.starting = none) :
      Steps k s (.takeSnapshot now) { s with starting := some (beginClip k s now) }
  | activated (c : Clip T) (hc : s.starting = some c) :
      Steps k s .activateClip { s with starting := none, event := some c }
  | abandoned : Steps k s .abandonStart { s with starting := none }
  | stopped (c : Clip T) (hidle : s.starting = none) (hc : s.event = some c) :
      Steps k s .stopEventClip
        { s with event := none, saved := s.saved ++ [(c, s.captured.length)] }

theorem recorderStep_steps (k : RecorderKind T) (s : Recorder T) (e : RecorderEvent T) :
    Steps k s e (recorderStep k s e) := by
  cases e with
  | pushItem item =>
      rw [recorderStep, pushItem]
      split
      · rename_i hready
        exact .pushed item hready.2
      · exact .idle _ ⟨trivial, trivial⟩
  | eventSection =>
      rw [recorderStep, eventSection]
      split
      · rename_i hhand
        refine .idle _ ⟨?_, ?_⟩ <;> intro f hf <;> rw [hhand] at hf <;> cases hf
      · rename_i f hhand
        exact .delivered f hhand
  | captureError => exact .failed
  | takeSnapshot now =>
      rw [recorderStep, takeSnapshot]
      split
      · rename_i c hc
        refine .idle _ ⟨fun hidle => ?_, trivial⟩
        rw [hc] at hidle
        cases hidle
      · rename_i hidle
        exact .begun now hidle
  | activateClip =>
      rw [recorderStep, activateClip]
      split
      · exact .idle _ ⟨trivial, trivial⟩
      · rename_i c hc
        exact .activated c hc
  | abandonStart => exact .abandoned
  | stopEventClip =>
      rw [recorderStep, stopEventClip]
      split
      · rename_i c hidle hc
        exact .stopped c hidle hc
      · rename_i hno
        refine .idle _ ⟨trivial, fun hidle f _ c hc => ?_⟩
        exact absurd hc (hno c hidle)

/-- A new item gets the next number. -/
theorem Base.push (h : Base s) (item : T) :
    Base { s with
      ring := s.ring.push ⟨s.captured.length, item⟩
      captured := s.captured ++ [⟨s.captured.length, item⟩]
      hand := some ⟨s.captured.length, item⟩ } := by
  refine ⟨?_, push_suffix h.ring _, ?_, ?_, ?_, ?_⟩
  · intro i f hf
    rw [List.getElem?_append] at hf
    split at hf
    · exact h.numbers i f hf
    · -- the only other position is the last one
      rename_i hi
      obtain ⟨hlt, hf⟩ := List.getElem?_eq_some_iff.mp hf
      simp only [List.length_singleton] at hlt
      rw [List.getElem_singleton] at hf
      rw [← hf]
      dsimp only
      omega
  · intro f hf
    rw [← Option.some.inj hf]
    exact List.getLast?_concat
  · intro c hc
    exact (h.starting c hc).snoc rfl
  · intro c hc
    exact (h.event c hc).snoc rfl
  · intro p hp
    rw [List.length_append]
    exact Nat.le_add_right_of_le (h.saved p hp)

/-- **Step lemma.** -/
theorem base_step {e : RecorderEvent T} {t : Recorder T} (h : Base s) (hstep : Steps k s e t) :
    Base t := by
  cases hstep with
  | idle => exact h
  | pushed item => exact h.push item
  | delivered f hhand =>
      refine ⟨h.numbers, h.ring, ?_, h.starting, ?_, h.saved⟩
      · intro g hg
        cases hg
      · intro c hc
        obtain ⟨d, hd, rfl⟩ := Option.map_eq_some_iff.mp hc
        exact (h.event d hd).write (h.hand_mem hhand)
  | failed =>
      refine ⟨h.numbers, h.ring, ?_, h.starting, h.event, h.saved⟩
      intro f hf
      cases hf
  | begun now hidle =>
      refine ⟨h.numbers, h.ring, h.hand, ?_, h.event, h.saved⟩
      intro c hc
      rw [← Option.some.inj hc]
      exact h.begin now
  | activated c hc =>
      refine ⟨h.numbers, h.ring, h.hand, ?_, ?_, h.saved⟩
      · intro d hd
        cases hd
      · intro d hd
        rw [← Option.some.inj hd]
        exact h.starting c hc
  | abandoned =>
      refine ⟨h.numbers, h.ring, h.hand, ?_, h.event, h.saved⟩
      intro c hc
      cases hc
  | stopped c hidle hc =>
      refine ⟨h.numbers, h.ring, h.hand, h.starting, ?_, ?_⟩
      · intro d hd
        cases hd
      · intro p hp
        rcases List.mem_append.mp hp with hold | hnew
        · exact h.saved p hold
        · rw [List.mem_singleton.mp hnew]

/-- **Run lemma.** -/
theorem Base.run (h : Base s) (es : List (RecorderEvent T)) :
    Base (Runs.run (recorderStep k) s es) :=
  run_invariant Base (fun s e h => base_step h (recorderStep_steps k s e)) h es

/-! ## One clip -/

/-- A step that ends the start of a clip. -/
def endsStart : RecorderEvent T → Bool
  | .activateClip => true
  | .abandonStart => true
  | _ => false

/-- A step that ends an active clip: another one takes its place, or it is stopped. -/
def endsClip (s : Recorder T) : RecorderEvent T → Bool
  | .activateClip => s.starting.isSome
  | .stopEventClip => s.starting.isNone
  | _ => false

/-- What is pushed is owed to every clip. -/
theorem tightClip_push (h : Base s) (hc : Within s c) (hhand : s.hand = none) (item : T) :
    TightClip
        { s with
          ring := s.ring.push ⟨s.captured.length, item⟩
          captured := s.captured ++ [⟨s.captured.length, item⟩]
          hand := some ⟨s.captured.length, item⟩ } c ↔
      TightClip s c := by
  rw [TightClip, TightClip, hhand]
  exact tight_produce hc.1 hc.2 (h.fresh item)

/-- A loss is right for what is not owed, and no matter when there is nothing in hand. -/
theorem tightClip_lose (h : Base s) {t : Recorder T} (hcaptured : t.captured = s.captured)
    (hhand : t.hand = none) :
    TightClip t c ↔ TightClip s c ∧ ∀ f ∈ s.hand, ¬ OwedTo s c f := by
  rw [TightClip, TightClip, hcaptured, hhand]
  rcases hf : s.hand with _ | f
  · simp
  · rw [tight_lose h.nodup (x := f)]
    simp [OwedTo]

/-- **A snapshot.** -/
theorem begin_step (h : Base s) (hidle : s.starting = none) (now : ℚ) :
    TightClip { s with starting := some (beginClip k s now) } (beginClip k s now) ↔
      StartingOk k s (.takeSnapshot now) := by
  show TightClip s (beginClip k s now) ↔ _
  rw [TightClip, tight_open h.nodup h.hand (beginClip_sublist h now).1]
  constructor
  · intro hall _ f _ howed
    exact hall f howed
  · intro hok f howed
    exact hok hidle f (List.mem_of_mem_drop howed.1) howed

/-- **While a clip is started.** -/
theorem starting_step (h : Base s) (hc : s.starting = some c) {e : RecorderEvent T}
    {t : Recorder T} (hstep : Steps k s e t) (he : endsStart e = false) :
    t.starting = some c ∧ (TightClip t c ↔ TightClip s c ∧ StartingOk k s e) := by
  cases hstep with
  | idle _ hok => exact ⟨hc, fun htight => ⟨htight, hok.1⟩, fun hboth => hboth.1⟩
  | pushed item hhand =>
      refine ⟨hc, ?_⟩
      rw [tightClip_push h (h.starting c hc) hhand]
      exact ⟨fun htight => ⟨htight, trivial⟩, fun hboth => hboth.1⟩
  | delivered f hhand =>
      refine ⟨hc, ?_⟩
      refine (tightClip_lose h ?_ ?_).trans ?_
      · rfl
      · rfl
      · rw [StartingOk, hc]
        simp
  | failed =>
      refine ⟨hc, ?_⟩
      refine (tightClip_lose h ?_ ?_).trans ?_
      · rfl
      · rfl
      · rw [StartingOk, hc]
        simp
  | begun now hidle =>
      rw [hc] at hidle
      cases hidle
  | activated => cases he
  | abandoned => cases he
  | stopped d hidle =>
      rw [hc] at hidle
      cases hidle

/-- **While a clip is active.** -/
theorem event_step (h : Base s) (hc : s.event = some c) {e : RecorderEvent T} {t : Recorder T}
    (hstep : Steps k s e t) (he : endsClip s e = false) :
    ∃ d, t.event = some d ∧ d.first = c.first ∧
      (TightClip t d ↔ TightClip s c ∧ OpenOk s e) := by
  have hkeep : ∀ {u : Recorder T}, u.event = s.event → (TightClip u c ↔ TightClip s c) →
      OpenOk s e → ∃ d, u.event = some d ∧ d.first = c.first ∧
        (TightClip u d ↔ TightClip s c ∧ OpenOk s e) := by
    intro u hu hiff hok
    exact ⟨c, hu.trans hc, rfl, fun htight => ⟨hiff.mp htight, hok⟩,
      fun hboth => hiff.mpr hboth.1⟩
  cases hstep with
  | idle _ hok => exact hkeep rfl Iff.rfl hok.2
  | pushed item hhand => exact hkeep rfl (tightClip_push h (h.event c hc) hhand item) trivial
  | delivered f hhand =>
      -- the only step that writes into the clip
      refine ⟨{ c with frames := c.frames ++ [f] }, by rw [hc]; rfl, rfl, ?_⟩
      have hok : OpenOk s .eventSection ↔ OwedTo s c f := by
        rw [OpenOk, hhand, hc]
        simp
      rw [hok, TightClip, TightClip, hhand]
      exact tight_deliver h.nodup
  | failed =>
      refine ⟨c, hc, rfl, ?_⟩
      refine (tightClip_lose h ?_ ?_).trans ?_
      · rfl
      · rfl
      · rw [OpenOk, hc]
        simp
  | begun now hidle => exact hkeep rfl Iff.rfl trivial
  | activated d hd =>
      rw [endsClip, hd] at he
      cases he
  | abandoned => exact hkeep rfl Iff.rfl trivial
  | stopped d hidle =>
      rw [endsClip, hidle] at he
      cases he

/-- **A stop.** -/
theorem stop_step (h : Base s) (hc : s.event = some c) (hidle : s.starting = none) :
    Continuous s.captured (c, s.captured.length) ↔
      TightClip s c ∧ OpenOk s .stopEventClip := by
  have hok : OpenOk s .stopEventClip ↔ ∀ f ∈ s.hand, ¬ OwedTo s c f := by
    rw [OpenOk, hc]
    simp [hidle]
  rw [hok, Continuous]
  dsimp only
  rw [List.take_length, eq_comm]
  exact whole_iff h.nodup

/-! ## Whole runs -/

theorem Continuous.later {captured later : List (Captured T)} {p : Clip T × Nat}
    (h : Continuous captured p) (hle : p.2 ≤ captured.length) (hmore : captured <+: later) :
    Continuous later p := by
  obtain ⟨u, rfl⟩ := hmore
  rw [Continuous] at h ⊢
  rw [List.take_append_of_le_length hle]
  exact h

/-- All clips are what they should be. -/
structure Sound (s : Recorder T) : Prop where
  base : Base s
  starting : ∀ c, s.starting = some c → TightClip s c
  event : ∀ c, s.event = some c → TightClip s c
  saved : ∀ p ∈ s.saved, Continuous s.captured p

theorem sound_initial (k : RecorderKind T) : Sound (Recorder.initial k) := by
  refine ⟨base_initial k, ?_, ?_, ?_⟩
  · intro c hc
    cases hc
  · intro c hc
    cases hc
  · intro p hp
    cases hp

/-- A step that is neither a start nor a stop keeps every clip. -/
theorem Sound.keep (h : Sound s) {e : RecorderEvent T} {t : Recorder T} (hstep : Steps k s e t)
    (he : HandsOver k s e) (hstart : endsStart e = false) (hclip : endsClip s e = false)
    (hsame : t.starting = s.starting) (hevent : t.event.isSome = s.event.isSome)
    (hsaved : t.saved = s.saved) (hmore : s.captured <+: t.captured) : Sound t := by
  refine ⟨base_step h.base hstep, ?_, ?_, ?_⟩
  · intro c hc
    rw [hsame] at hc
    exact (starting_step h.base hc hstep hstart).2.mpr ⟨h.starting c hc, he.1⟩
  · intro d hd
    obtain ⟨c, hc⟩ : ∃ c, s.event = some c := by
      rw [← Option.isSome_iff_exists, ← hevent, hd]
      rfl
    obtain ⟨d', hd', -, hiff⟩ := event_step h.base hc hstep hclip
    obtain rfl := Option.some.inj (hd.symm.trans hd')
    exact hiff.mpr ⟨h.event c hc, he.2⟩
  · intro p hp
    rw [hsaved] at hp
    exact (h.saved p hp).later (h.base.saved p hp) hmore

/-- **Step lemma.** -/
theorem sound_step (h : Sound s) {e : RecorderEvent T} {t : Recorder T} (hstep : Steps k s e t)
    (he : HandsOver k s e) : Sound t := by
  have hbase := base_step h.base hstep
  have hwhole := hstep
  cases hstep with
  | idle => exact h
  | pushed item hhand =>
      exact h.keep hwhole he rfl rfl rfl rfl rfl (List.prefix_append _ _)
  | delivered f hhand =>
      exact h.keep hwhole he rfl rfl rfl Option.isSome_map rfl (List.prefix_refl _)
  | failed => exact h.keep hwhole he rfl rfl rfl rfl rfl (List.prefix_refl _)
  | begun now hidle =>
      refine ⟨hbase, ?_, h.event, h.saved⟩
      intro c hc
      rw [← Option.some.inj hc]
      exact (begin_step h.base hidle now).mpr he.1
  | activated c hc =>
      refine ⟨hbase, ?_, ?_, h.saved⟩
      · intro d hd
        cases hd
      · intro d hd
        rw [← Option.some.inj hd]
        exact h.starting c hc
  | abandoned =>
      refine ⟨hbase, ?_, h.event, h.saved⟩
      intro c hc
      cases hc
  | stopped c hidle hc =>
      refine ⟨hbase, h.starting, ?_, ?_⟩
      · intro d hd
        cases hd
      · intro p hp
        rcases List.mem_append.mp hp with hold | hnew
        · exact h.saved p hold
        · rw [List.mem_singleton.mp hnew]
          exact (stop_step h.base hc hidle).mpr ⟨h.event c hc, he.2⟩

/-- **CLIPS ARE CONTINUOUS** in every run whose steps hand the items over, for every recorder and
    every order of the steps of its threads. -/
theorem clips_continuous (k : RecorderKind T) (es : List (RecorderEvent T))
    (hes : AllSteps (recorderStep k) (HandsOver k) (Recorder.initial k) es) :
    let s := run (recorderStep k) (Recorder.initial k) es
    ∀ p ∈ s.saved, Continuous s.captured p :=
  (run_guarded Sound (fun s e h he => sound_step h (recorderStep_steps k s e) he)
    (sound_initial k) hes).saved

/-! ## One clip is spoilt for ever -/

theorem starting_run (h : Base s) (hc : s.starting = some c) {es : List (RecorderEvent T)}
    (hes : ∀ e ∈ es, endsStart e = false) :
    (run (recorderStep k) s es).starting = some c ∧
      (TightClip (run (recorderStep k) s es) c ↔
        TightClip s c ∧ AllSteps (recorderStep k) (StartingOk k) s es) := by
  induction es generalizing s with
  | nil => exact ⟨hc, fun htight => ⟨htight, trivial⟩, fun hboth => hboth.1⟩
  | cons e es ih =>
      have hstep := recorderStep_steps k s e
      obtain ⟨hnext, hiff⟩ := starting_step h hc hstep (hes e (by simp))
      obtain ⟨hlast, hrest⟩ := ih (base_step h hstep) hnext fun d hd => hes d (by simp [hd])
      refine ⟨hlast, ?_⟩
      rw [run_cons, hrest, hiff, AllSteps, and_assoc]

theorem event_run (h : Base s) (hc : s.event = some c) {es : List (RecorderEvent T)}
    (hes : AllSteps (recorderStep k) (fun s e => endsClip s e = false) s es) :
    ∃ d, (run (recorderStep k) s es).event = some d ∧ d.first = c.first ∧
      (TightClip (run (recorderStep k) s es) d ↔
        TightClip s c ∧ AllSteps (recorderStep k) OpenOk s es) := by
  induction es generalizing s c with
  | nil => exact ⟨c, hc, rfl, fun htight => ⟨htight, trivial⟩, fun hboth => hboth.1⟩
  | cons e es ih =>
      have hstep := recorderStep_steps k s e
      obtain ⟨d, hd, hfirst, hiff⟩ := event_step h hc hstep hes.1
      obtain ⟨d', hd', hfirst', hrest⟩ := ih (base_step h hstep) hd hes.2
      refine ⟨d', hd', hfirst'.trans hfirst, ?_⟩
      rw [run_cons, hrest, hiff, AllSteps, and_assoc]

/-- `start_event_clip`, and what the capture thread does meanwhile. -/
def opening (now : ℚ) (es : List (RecorderEvent T)) : List (RecorderEvent T) :=
  .takeSnapshot now :: es ++ [.activateClip]

theorem opening_run (h : Base s) (hidle : s.starting = none) (now : ℚ)
    {es : List (RecorderEvent T)} (hes : ∀ e ∈ es, endsStart e = false) :
    (run (recorderStep k) s (opening now es)).event = some (beginClip k s now) ∧
      (TightClip (run (recorderStep k) s (opening now es)) (beginClip k s now) ↔
        AllSteps (recorderStep k) (StartingOk k) s (.takeSnapshot now :: es)) := by
  have hbegin : recorderStep k s (.takeSnapshot now) =
      { s with starting := some (beginClip k s now) } := by
    rw [recorderStep, takeSnapshot, hidle]
  have hbase := base_step h (recorderStep_steps k s (.takeSnapshot now))
  rw [hbegin] at hbase
  obtain ⟨hstarting, hiff⟩ := starting_run (k := k) hbase rfl hes
  rw [AllSteps, hbegin, ← begin_step h hidle, ← hiff, opening, run_snoc, run_cons, hbegin,
    recorderStep, activateClip, hstarting]
  exact ⟨rfl, Iff.rfl⟩

/-- **A clip is continuous exactly when** every step hands its items over, from its snapshot to
    its stop, whatever the run before the snapshot was. -/
theorem clip_continuous_iff (h : Base s) (hidle : s.starting = none) (now : ℚ)
    {es fs : List (RecorderEvent T)} (hes : ∀ e ∈ es, endsStart e = false)
    (hfs : AllSteps (recorderStep k) (fun s e => endsClip s e = false)
      (run (recorderStep k) s (opening now es)) fs)
    (hstop : (run (recorderStep k) s (opening now es ++ fs)).starting = none) :
    ∃ c, (run (recorderStep k) s (opening now es ++ fs)).event = some c ∧
      c.first = (beginClip k s now).first ∧
      (Continuous (run (recorderStep k) s (opening now es ++ fs)).captured
          (c, (run (recorderStep k) s (opening now es ++ fs)).captured.length) ↔
        AllSteps (recorderStep k) (StartingOk k) s (.takeSnapshot now :: es) ∧
        AllSteps (recorderStep k) OpenOk (run (recorderStep k) s (opening now es))
          (fs ++ [.stopEventClip])) := by
  obtain ⟨hevent, hstart⟩ := opening_run (k := k) h hidle now hes
  have hbase : Base (run (recorderStep k) s (opening now es)) := h.run _
  rw [← hstart]
  rw [run_append] at hstop ⊢
  generalize run (recorderStep k) s (opening now es) = t at hfs hstop hevent hbase ⊢
  obtain ⟨c, hc, hfirst, hopen⟩ := event_run hbase hevent hfs
  refine ⟨c, hc, hfirst, ?_⟩
  rw [stop_step (hbase.run fs) hc hstop, hopen, allSteps_append, AllSteps, AllSteps, and_true,
    and_assoc]

/-! ## Snapshots -/

/-- **A snapshot leaves nothing out** when no item that goes into the clip comes before one that
    does not. -/
theorem snapshot_ok (h : Base s) (now : ℚ)
    (horder : s.ring.buf.Pairwise fun f g =>
      k.preEvent now f.item = true → k.preEvent now g.item = true) (f : Captured T) :
    ¬ OwedTo s (beginClip k s now) f := by
  rintro ⟨hmem, hnot⟩
  obtain ⟨u, hu⟩ := h.ring
  unfold beginClip RingBuffer.snapshot at hmem hnot
  dsimp only at hmem hnot
  rcases hfiltered : s.ring.buf.filter (fun f => k.preEvent now f.item) with _ | ⟨g, rest⟩
  · rw [hfiltered] at hmem
    dsimp only at hmem
    rw [List.drop_length] at hmem
    cases hmem
  · have hhead : g ∈ s.ring.buf.filter fun f => k.preEvent now f.item := by
      rw [hfiltered]
      exact List.mem_cons_self
    have hg := List.mem_filter.mp hhead
    obtain ⟨v, w, hvw⟩ := List.append_of_mem hg.1
    have hat : s.captured[(u ++ v).length]? = some g := by
      rw [← hu, hvw, ← List.append_assoc]
      simp
    have hnumber := h.numbers _ g hat
    rw [hfiltered] at hmem
    dsimp only at hmem
    rw [hnumber, ← hu, hvw, ← List.append_assoc, List.drop_left] at hmem
    -- what comes after the oldest item goes into the clip, too
    have hchosen : k.preEvent now f.item = true := by
      rcases List.mem_cons.mp hmem with rfl | hlater
      · exact hg.2
      · rw [hvw] at horder
        exact (List.pairwise_cons.mp (List.pairwise_append.mp horder).2.1).1 f hlater hg.2
    refine hnot (List.mem_filter.mpr ⟨?_, hchosen⟩)
    rw [hvw]
    exact List.mem_append_right v hmem

/-- The microphone takes the whole snapshot. -/
theorem mic_snapshot_ok {C : Type} {s : Recorder C} (h : Base s) (now : ℚ) :
    StartingOk (micRecorder C) s (.takeSnapshot now) := by
  intro _ f _ howed
  exact absurd howed (snapshot_ok h now (List.pairwise_of_forall fun _ _ _ => rfl) f)

/-- A camera leaves out none but the oldest when time does not go backwards. -/
theorem camera_snapshot_ok {F : Type} {fps : Nat} {s : Recorder (ℚ × F)} (h : Base s) (now : ℚ)
    (horder : s.ring.buf.Pairwise fun f g => f.item.1 ≤ g.item.1) :
    StartingOk (cameraRecorder F fps) s (.takeSnapshot now) := by
  intro _ f _ howed
  refine absurd howed (snapshot_ok h now (horder.imp fun hle hchosen => ?_) f)
  exact decide_eq_true ((of_decide_eq_true hchosen).trans hle)

/-! ## Some runs -/

section Examples

variable [DecidableEq T]

instance (s : Recorder T) (c : Clip T) (f : Captured T) : Decidable (OwedTo s c f) :=
  inferInstanceAs (Decidable (Owed s.captured c.first c.frames f))

instance (captured : List (Captured T)) (p : Clip T × Nat) : Decidable (Continuous captured p) :=
  inferInstanceAs (Decidable (p.1.frames = (captured.take p.2).drop p.1.first))

instance (k : RecorderKind T) (s : Recorder T) : ∀ e, Decidable (StartingOk k s e)
  | .eventSection => inferInstanceAs (Decidable (∀ f ∈ s.hand, ∀ c ∈ s.starting, ¬ OwedTo s c f))
  | .captureError => inferInstanceAs (Decidable (∀ f ∈ s.hand, ∀ c ∈ s.starting, ¬ OwedTo s c f))
  | .takeSnapshot now => inferInstanceAs (Decidable (s.starting = none →
      ∀ f ∈ s.captured, OwedTo s (beginClip k s now) f → s.hand = some f))
  | .pushItem _ => inferInstanceAs (Decidable True)
  | .activateClip => inferInstanceAs (Decidable True)
  | .abandonStart => inferInstanceAs (Decidable True)
  | .stopEventClip => inferInstanceAs (Decidable True)

instance (s : Recorder T) : ∀ e, Decidable (OpenOk s e)
  | .eventSection => inferInstanceAs (Decidable (∀ f ∈ s.hand, ∀ c ∈ s.event, OwedTo s c f))
  | .captureError => inferInstanceAs (Decidable (∀ f ∈ s.hand, ∀ c ∈ s.event, ¬ OwedTo s c f))
  | .stopEventClip => inferInstanceAs (Decidable (s.starting = none →
      ∀ f ∈ s.hand, ∀ c ∈ s.event, ¬ OwedTo s c f))
  | .pushItem _ => inferInstanceAs (Decidable True)
  | .takeSnapshot _ => inferInstanceAs (Decidable True)
  | .activateClip => inferInstanceAs (Decidable True)
  | .abandonStart => inferInstanceAs (Decidable True)

instance (k : RecorderKind T) (s : Recorder T) (e : RecorderEvent T) :
    Decidable (HandsOver k s e) :=
  inferInstanceAs (Decidable (StartingOk k s e ∧ OpenOk s e))

end Examples

/-- A frame is pushed before the activation and passes the event section after it. -/
def straightRun : List (RecorderEvent (ℚ × String)) :=
  [.pushItem (0, "a"), .eventSection, .takeSnapshot 1, .pushItem (1, "b"), .activateClip,
    .eventSection, .stopEventClip]

theorem straight_run_continuous :
    let s := run (recorderStep (usbRecorder String)) (.initial (usbRecorder String)) straightRun
    ∀ p ∈ s.saved, Continuous s.captured p :=
  clips_continuous (usbRecorder String) straightRun (by decide +kernel)

/-- A chunk passes the event section between the snapshot and the activation. -/
def lateRun : List (RecorderEvent (List Nat)) :=
  [.pushItem [1], .eventSection, .takeSnapshot 0, .pushItem [2], .eventSection, .activateClip,
    .pushItem [3], .eventSection, .stopEventClip]

/-- A frame is in hand at the snapshot and at the activation. -/
def earlyRun : List (RecorderEvent (ℚ × String)) :=
  [.pushItem (0, "a"), .takeSnapshot 1, .activateClip, .eventSection, .stopEventClip]

/-- The numbers of the items in the saved clips. -/
def savedNumbers (s : Recorder T) : List (List Nat) :=
  s.saved.map fun p => p.1.frames.map Captured.number

/-- **A chunk is lost and a frame is doubled.** -/
theorem chunk_lost_frame_doubled :
    (let s := run (recorderStep (micRecorder (List Nat))) (.initial (micRecorder _)) lateRun
     savedNumbers s = [[0, 2]] ∧ ¬ ∀ p ∈ s.saved, Continuous s.captured p) ∧
    (let s := run (recorderStep (usbRecorder String)) (.initial (usbRecorder _)) earlyRun
     savedNumbers s = [[0, 0]] ∧ ¬ ∀ p ∈ s.saved, Continuous s.captured p) := by
  decide +kernel

end ClipContinuity
