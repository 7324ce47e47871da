import RemoteVehicle.MediaContinuous

/-!
# How long continuous recording goes back

What is on the disk is compared with an archive: the same recorder, in a world in which nothing can
be removed (`spared`).  Names are in the order of the openings (`Chronicle`), so a removal takes
the oldest files, and what is on the disk is a window of the archive (`Beside`).  In the archive
the files behind a frame can be counted, and each of them but those of new starts has taken a
minute (`Behind`).
-/

namespace Continuous

open Calendar MediaTrigger MediaContinuous Retention Runs

variable {F : Type} {k : SegmentKind} {utcOffset : Int} {o : Opening}

/-! ## Names -/

/-- **Names are in the order of the seconds.** -/
theorem segmentName_lt {t u : ℚ} {m n : List Char} (hlt : ⌊t⌋ < ⌊u⌋)
    (ht : segmentName utcOffset t = some m) (hu : segmentName utcOffset u = some n) : m < n := by
  obtain ⟨d, hd, rfl⟩ := Option.map_eq_some_iff.mp ht
  obtain ⟨e, he, rfl⟩ := Option.map_eq_some_iff.mp hu
  simp only [MediaHistory.localTime] at hd he
  split at hd
  · cases hd
  · split at he
    · cases he
    · have hseconds : (⌊t⌋ + utcOffset + epochDays * 86400).toNat <
          (⌊u⌋ + utcOffset + epochDays * 86400).toNat := by omega
      exact stamp_before (ofSeconds_inRange hd) (ofSeconds_inRange he)
        (ofSeconds_lt hseconds hd he)

theorem floor_lt {t u : ℚ} (h : t + 1 ≤ u) : ⌊t⌋ < ⌊u⌋ := by
  have hle : ⌊t⌋ + 1 ≤ ⌊u⌋ := by
    rw [← Int.floor_add_one]
    exact Int.floor_le_floor h
  omega

/-! ## Files -/

section Files

variable {files disk all : List (Segment F)}

theorem createFile_fresh {name : List Char} (h : ∀ f ∈ files, f.name < name) :
    createFile name files = files ++ [⟨name, []⟩] := by
  rw [createFile, List.filter_eq_self.mpr fun f hf => decide_eq_true (h f hf).ne]

theorem written_name (name : List Char) (x : F) (f : Segment F) :
    (if f.name = name then { f with frames := f.frames ++ [x] } else f).name = f.name := by
  split <;> rfl

theorem mem_writeFrame {name : List Char} {x : F} {f : Segment F}
    (hf : f ∈ writeFrame name x files) : ∃ g ∈ files, f.name = g.name := by
  obtain ⟨g, hg, rfl⟩ := List.mem_map.mp hf
  exact ⟨g, hg, written_name name x g⟩

/-- The files are older than the one that would be opened. -/
def Fresh (utcOffset : Int) (o : Opening) (files : List (Segment F)) : Prop :=
  ∀ name, segmentName utcOffset o.stampedAt = some name → ∀ f ∈ files, f.name < name

/-- The directory once the writer is made. -/
def made (o : Opening) (name : List Char) (files : List (Segment F)) : List (Segment F) :=
  if o.opened then createFile name files else files

/-- **What an opening comes to** does not depend on the files: nothing happens, or the file is made
    and an exception follows, or it is made, old files are removed and a writer is returned.  The
    exception is one of `glob`, or there is no file. -/
theorem open_cases (F : Type) (k : SegmentKind) (utcOffset : Int) (o : Opening) :
    (∀ unlinks (files : List (Segment F)),
      openContWriter k utcOffset { o with unlinks := unlinks } files = (files, none)) ∨
    ∃ name, segmentName utcOffset o.stampedAt = some name ∧
      ((o.raises .glob = false → o.opened = false) ∧ (∀ unlinks (files : List (Segment F)),
        openContWriter k utcOffset { o with unlinks := unlinks } files =
          (made o name files, none)) ∨
      ∀ unlinks (files : List (Segment F)),
        openContWriter k utcOffset { o with unlinks := unlinks } files =
          (purgeOldSegments unlinks (made o name files), some name)) := by
  rcases hname : segmentName utcOffset o.stampedAt with _ | name
  · refine Or.inl fun unlinks files => ?_
    rw [openContWriter, hname]
  · have hopen : ∀ unlinks (files : List (Segment F)),
        openContWriter k utcOffset { o with unlinks := unlinks } files =
          if o.raises .mkdir || o.raises .makeWriter then (files, none)
          else if k.checksOpened && !o.opened then (made o name files, none)
          else if o.raises .glob then (made o name files, none)
          else (purgeOldSegments unlinks (made o name files), some name) := by
      intro unlinks files
      rw [openContWriter, hname]
      rfl
    by_cases hmake : (o.raises .mkdir || o.raises .makeWriter) = true
    · refine Or.inl fun unlinks files => ?_
      rw [hopen, if_pos hmake]
    · refine Or.inr ⟨name, rfl, ?_⟩
      by_cases hcheck : (k.checksOpened && !o.opened) = true
      · refine Or.inl ⟨fun _ => ?_, fun unlinks files => ?_⟩
        · obtain ⟨-, hclosed⟩ := Bool.and_eq_true_iff.mp hcheck
          rw [Bool.not_eq_true'] at hclosed
          exact hclosed
        · rw [hopen, if_neg hmake, if_pos hcheck]
      · by_cases hglob : o.raises .glob = true
        · refine Or.inl ⟨fun hquiet => ?_, fun unlinks files => ?_⟩
          · rw [hglob] at hquiet
            cases hquiet
          · rw [hopen, if_neg hmake, if_neg hcheck, if_pos hglob]
        · refine Or.inr fun unlinks files => ?_
          rw [hopen, if_neg hmake, if_neg hcheck, if_neg hglob]

/-- The same opening, where nothing can be removed. -/
def spare (o : Opening) : Opening := { o with unlinks := fun _ => false }

theorem purge_spared (l : List (Segment F)) : purgeOldSegments (fun _ => false) l = l :=
  prune_none l

theorem made_fresh {name : List Char} (hfresh : Fresh utcOffset o files)
    (hname : segmentName utcOffset o.stampedAt = some name) :
    made o name files = files ∨ made o name files = files ++ [⟨name, []⟩] := by
  rw [made]
  split
  · exact Or.inr (createFile_fresh (hfresh name hname))
  · exact Or.inl rfl

/-- An opening in the archive adds one file or none. -/
theorem open_spared (k : SegmentKind) (hfresh : Fresh utcOffset o files) :
    ∃ now writer, openContWriter k utcOffset (spare o) files = (now, writer) ∧
      (∀ name, writer = some name → segmentName utcOffset o.stampedAt = some name) ∧
      (now = files ∨ ∃ name, segmentName utcOffset o.stampedAt = some name ∧
        now = files ++ [⟨name, []⟩]) := by
  rcases open_cases F k utcOffset o with hnone | ⟨name, hname, ⟨-, hraised⟩ | hdone⟩
  · exact ⟨files, none, hnone _ _, fun _ hcontra => (by cases hcontra), Or.inl rfl⟩
  · refine ⟨made o name files, none, hraised _ _, fun _ hcontra => (by cases hcontra), ?_⟩
    exact (made_fresh hfresh hname).imp_right fun h => ⟨name, hname, h⟩
  · refine ⟨made o name files, some name, ?_, fun n hn => ?_, ?_⟩
    · rw [spare, hdone, purge_spared]
    · obtain rfl := Option.some.inj hn
      exact hname
    · exact (made_fresh hfresh hname).imp_right fun h => ⟨name, hname, h⟩

/-- A file that is made on the disk and in the archive. -/
theorem made_window {name : List Char} (hw : Window continuousMaxSegments disk all)
    (hasc : Ascending Segment.name all) (hall : ∀ f ∈ all, f.name < name) :
    Window continuousMaxSegments (made o name disk) (made o name all) ∧
      Ascending Segment.name (made o name all) := by
  have hdisk : ∀ f ∈ disk, f.name < name := fun f hf => hall f (hw.sublist.subset hf)
  rw [made, made]
  split
  · rw [createFile_fresh hall, createFile_fresh hdisk]
    refine ⟨hw.snoc _, ascending_append.mpr ⟨hasc, List.pairwise_singleton _ _, ?_⟩⟩
    intro f hf g hg
    obtain rfl := List.mem_singleton.mp hg
    exact hall f hf
  · exact ⟨hw, hasc⟩

/-- **An opening on the disk and in the archive.** -/
theorem open_window (k : SegmentKind) (hw : Window continuousMaxSegments disk all)
    (hasc : Ascending Segment.name all) (hfresh : Fresh utcOffset o all) :
    (openContWriter k utcOffset o disk).2 = (openContWriter k utcOffset (spare o) all).2 ∧
      Window continuousMaxSegments (openContWriter k utcOffset o disk).1
        (openContWriter k utcOffset (spare o) all).1 := by
  rcases open_cases F k utcOffset o with hnone | ⟨name, hname, ⟨-, hraised⟩ | hdone⟩
  · rw [hnone o.unlinks, spare, hnone]
    exact ⟨rfl, hw⟩
  · rw [hraised o.unlinks, spare, hraised]
    exact ⟨rfl, (made_window hw hasc (hfresh name hname)).1⟩
  · obtain ⟨hmade, hmadeAsc⟩ := made_window (o := o) hw hasc (hfresh name hname)
    rw [hdone o.unlinks, spare, hdone, purge_spared]
    exact ⟨rfl, hmade.prune hmadeAsc⟩

end Files

/-! ## Frames -/

/-- The recorder after a frame has been written. -/
def wrote (name : List Char) (x : F) (now : ℚ) (s : Recording F) : Recording F :=
  { s with files := writeFrame name x s.files, clock := now }

/-- The same loop, whatever the files and the clock are. -/
structure Alike (s a : Recording F) : Prop where
  writer : a.writer = s.writer
  contStart : a.contStart = s.contStart
  looping : a.looping = s.looping

theorem alike_refl (s : Recording F) : Alike s s := ⟨rfl, rfl, rfl⟩

/-- **What a frame comes to** does not depend on the files: it is not read, or lost, or written,
    and then a new file may be due. -/
theorem capture_cases (k : SegmentKind) (utcOffset : Int) (x : F) (now : ℚ) (written : Bool)
    (s : Recording F) :
    (s.looping = false ∧
      ∀ a o, Alike s a → captureFrame k utcOffset x now written o a = a) ∨
    ((s.writer = none ∨ written = false) ∧
      ∀ a o, Alike s a → captureFrame k utcOffset x now written o a = { a with clock := now }) ∨
    ∃ name, s.writer = some name ∧
      ((now - s.contStart < continuousSegmentSecs ∧ ∀ a o, Alike s a →
        captureFrame k utcOffset x now written o a = wrote name x now a) ∨
      (continuousSegmentSecs ≤ now - s.contStart ∧ ∀ a o, Alike s a →
        captureFrame k utcOffset x now written o a =
          reopen k utcOffset o (wrote name x now a))) := by
  cases hloop : s.looping with
  | false =>
      refine Or.inl ⟨rfl, fun a o h => ?_⟩
      rw [captureFrame, h.looping, hloop]
      exact if_neg Bool.false_ne_true
  | true =>
      rcases hwriter : s.writer with _ | name
      · refine Or.inr (Or.inl ⟨Or.inl rfl, fun a o h => ?_⟩)
        rw [captureFrame, if_pos (h.looping.trans hloop), h.writer.trans hwriter]
      · cases written with
        | false =>
            refine Or.inr (Or.inl ⟨Or.inr rfl, fun a o h => ?_⟩)
            rw [captureFrame, if_pos (h.looping.trans hloop), h.writer.trans hwriter]
            exact if_neg Bool.false_ne_true
        | true =>
            have hpass : ∀ a o, Alike s a → captureFrame k utcOffset x now true o a =
                if continuousSegmentSecs ≤ now - s.contStart then
                  reopen k utcOffset o (wrote name x now a)
                else wrote name x now a := by
              intro a o h
              rw [captureFrame, if_pos (h.looping.trans hloop), wrote, h.writer.trans hwriter,
                ← h.contStart]
              rfl
            refine Or.inr (Or.inr ⟨name, rfl, ?_⟩)
            by_cases hdue : continuousSegmentSecs ≤ now - s.contStart
            · refine Or.inr ⟨hdue, fun a o h => ?_⟩
              rw [hpass a o h, if_pos hdue]
            · refine Or.inl ⟨not_le.mp hdue, fun a o h => ?_⟩
              rw [hpass a o h, if_neg hdue]

/-! ## The archive -/

/-- The event, in a world in which nothing can be removed. -/
def spared : RecordingEvent F → RecordingEvent F
  | .boot o => .boot (spare o)
  | .frame x now written o => .frame x now written (spare o)
  | .leave => .leave

/-- The names of the files are in order and come from earlier seconds; a writer belongs to the
    newest of them, or to a later one that is missing. -/
structure Chronicle (utcOffset : Int) (a : Recording F) : Prop where
  ascending : Ascending Segment.name a.files
  dated : ∀ f ∈ a.files, ∃ t ≤ a.clock, segmentName utcOffset t = some f.name
  current : ∀ name, a.writer = some name → ∀ f ∈ a.files,
    f.name ≤ name ∧ ∃ t ≤ a.contStart, segmentName utcOffset t = some f.name

section Archive

variable {a s : Recording F}

theorem chronicle_initial (clock : ℚ) :
    Chronicle utcOffset (Recording.initial clock : Recording F) where
  ascending := List.Pairwise.nil
  dated := fun f hf => by cases hf
  current := fun name hname => by cases hname

theorem fresh_of_dated {files : List (Segment F)} {bound : ℚ}
    (hdated : ∀ f ∈ files, ∃ t ≤ bound, segmentName utcOffset t = some f.name)
    (hlater : ⌊bound⌋ < ⌊o.stampedAt⌋) : Fresh utcOffset o files := by
  intro name hname f hf
  obtain ⟨t, hle, ht⟩ := hdated f hf
  exact segmentName_lt ((Int.floor_le_floor hle).trans_lt hlater) ht hname

/-- An opening keeps the names in order. -/
theorem chronicle_reopen (hasc : Ascending Segment.name a.files)
    (hdated : ∀ f ∈ a.files, ∃ t ≤ o.endedAt, segmentName utcOffset t = some f.name)
    (hfresh : Fresh utcOffset o a.files) (hstamp : o.stampedAt ≤ o.endedAt) :
    Chronicle utcOffset (reopen k utcOffset (spare o) a) := by
  obtain ⟨files, writer, hopen, hwriter, hfiles⟩ := open_spared k hfresh
  have hnewer : ∀ f ∈ files, (f ∈ a.files) ∨ segmentName utcOffset o.stampedAt = some f.name := by
    intro f hf
    rcases hfiles with rfl | ⟨name, hname, rfl⟩
    · exact Or.inl hf
    · rcases List.mem_append.mp hf with hold | hnew
      · exact Or.inl hold
      · obtain rfl := List.mem_singleton.mp hnew
        exact Or.inr hname
  have hafter : ∀ f ∈ files, ∃ t ≤ o.endedAt, segmentName utcOffset t = some f.name := by
    intro f hf
    rcases hnewer f hf with hold | hnew
    · exact hdated f hold
    · exact ⟨o.stampedAt, hstamp, hnew⟩
  have hascAfter : Ascending Segment.name files := by
    rcases hfiles with rfl | ⟨name, hname, rfl⟩
    · exact hasc
    · refine ascending_append.mpr ⟨hasc, List.pairwise_singleton _ _, ?_⟩
      intro f hf g hg
      obtain rfl := List.mem_singleton.mp hg
      exact hfresh name hname f hf
  rw [reopen, hopen]
  cases writer with
  | none => exact ⟨hascAfter, hafter, fun name hname => by cases hname⟩
  | some name =>
      refine ⟨hascAfter, hafter, fun n hn f hf => ?_⟩
      obtain rfl := Option.some.inj hn
      refine ⟨?_, hafter f hf⟩
      rcases hnewer f hf with hold | hnew
      · exact (hfresh name (hwriter name rfl) f hold).le
      · rw [hwriter name rfl] at hnew
        exact (Option.some.inj hnew).ge

theorem chronicle_wrote (h : Chronicle utcOffset a) {now : ℚ} (hnow : a.clock ≤ now)
    (name : List Char) (x : F) : Chronicle utcOffset (wrote name x now a) where
  ascending := h.ascending.map (written_name name x)
  dated := by
    intro f hf
    obtain ⟨g, hg, heq⟩ := mem_writeFrame hf
    obtain ⟨t, hle, ht⟩ := h.dated g hg
    exact ⟨t, hle.trans hnow, by rw [heq]; exact ht⟩
  current := by
    intro n hn f hf
    obtain ⟨g, hg, heq⟩ := mem_writeFrame hf
    rw [heq]
    exact h.current n hn g hg

/-- A frame that makes a new file due comes a minute after the last opening. -/
theorem fresh_due (h : Chronicle utcOffset a) {name : List Char} {now : ℚ}
    (hwriter : a.writer = some name) (hdue : continuousSegmentSecs ≤ now - a.contStart)
    (hstamp : now ≤ o.stampedAt) : Fresh utcOffset o a.files := by
  refine fresh_of_dated (fun f hf => (h.current name hwriter f hf).2) (floor_lt ?_)
  rw [continuousSegmentSecs] at hdue
  linarith

/-- **Every step keeps the archive in order.** -/
theorem chronicle_step (h : Chronicle utcOffset a) (e : RecordingEvent F) (he : Onward a e) :
    Chronicle utcOffset (recordStep k utcOffset a (spared e)) := by
  cases e with
  | boot o =>
      obtain ⟨hlater, hle, hstamp⟩ := he
      refine chronicle_reopen h.ascending (fun f hf => ?_) (fresh_of_dated h.dated hlater) hstamp
      obtain ⟨t, ht, hname⟩ := h.dated f hf
      exact ⟨t, ht.trans hle, hname⟩
  | leave => exact ⟨h.ascending, h.dated, h.current⟩
  | frame x now written o =>
      obtain ⟨hnow, hstamp, hend⟩ := he
      have hwait : Chronicle utcOffset { a with clock := now } :=
        ⟨h.ascending, fun f hf => (h.dated f hf).imp fun t ht => ⟨ht.1.trans hnow, ht.2⟩, h.current⟩
      show Chronicle utcOffset (captureFrame k utcOffset x now written (spare o) a)
      rcases capture_cases k utcOffset x now written a with
        ⟨-, hsame⟩ | ⟨-, hlost⟩ | ⟨name, hwriter, ⟨-, hearly⟩ | ⟨hdue, hopen⟩⟩
      · rw [hsame a _ (alike_refl a)]
        exact h
      · rw [hlost a _ (alike_refl a)]
        exact hwait
      · rw [hearly a _ (alike_refl a)]
        exact chronicle_wrote h hnow name x
      · rw [hopen a _ (alike_refl a)]
        have hwrote := chronicle_wrote h hnow name x
        refine chronicle_reopen hwrote.ascending (fun f hf => ?_)
          (fresh_due hwrote hwriter hdue hstamp) hend
        obtain ⟨t, ht, hname⟩ := hwrote.dated f hf
        exact ⟨t, ht.trans (hstamp.trans hend), hname⟩

end Archive

/-! ## The disk beside the archive -/

/-- The same loop; on the disk is a window of the archive. -/
structure Beside (s a : Recording F) : Prop extends Alike s a where
  clock : a.clock = s.clock
  window : Window continuousMaxSegments s.files a.files

section Disk

variable {a s : Recording F}

theorem beside_initial (clock : ℚ) :
    Beside (Recording.initial clock : Recording F) (Recording.initial clock) :=
  ⟨alike_refl _, rfl, window_nil⟩

theorem onward_iff (h : Beside s a) (e : RecordingEvent F) : Onward a e ↔ Onward s e := by
  cases e with
  | boot o => simp only [Onward, h.clock]
  | frame x now written o => simp only [Onward, h.clock]
  | leave => exact Iff.rfl

theorem beside_reopen (h : Beside s a) (hasc : Ascending Segment.name a.files)
    (hfresh : Fresh utcOffset o a.files) :
    Beside (reopen k utcOffset o s) (reopen k utcOffset (spare o) a) := by
  obtain ⟨hwriter, hfiles⟩ := open_window k h.window hasc hfresh
  rcases hs : openContWriter k utcOffset o s.files with ⟨files, writer⟩
  rcases ha : openContWriter k utcOffset (spare o) a.files with ⟨all, writer'⟩
  rw [hs, ha] at hwriter hfiles
  obtain rfl : writer = writer' := hwriter
  rw [reopen, reopen, hs, ha]
  cases writer with
  | none => exact ⟨⟨rfl, h.contStart, h.looping⟩, rfl, hfiles⟩
  | some name => exact ⟨⟨rfl, rfl, h.looping⟩, rfl, hfiles⟩

theorem beside_step (hc : Chronicle utcOffset a) (h : Beside s a) (e : RecordingEvent F)
    (he : Onward s e) :
    Beside (recordStep k utcOffset s e) (recordStep k utcOffset a (spared e)) := by
  have ha := (onward_iff h e).mpr he
  cases e with
  | boot o =>
      exact beside_reopen ⟨⟨h.writer, rfl, rfl⟩, h.clock, h.window⟩ hc.ascending
        (fresh_of_dated hc.dated ha.1)
  | leave => exact ⟨⟨h.writer, h.contStart, rfl⟩, h.clock, h.window⟩
  | frame x now written o =>
      obtain ⟨hnow, hstamp, -⟩ := ha
      show Beside (captureFrame k utcOffset x now written o s)
        (captureFrame k utcOffset x now written (spare o) a)
      have hwrote : ∀ name, Beside (wrote name x now s) (wrote name x now a) := fun name =>
        ⟨⟨h.writer, h.contStart, h.looping⟩, rfl, h.window.map _⟩
      rcases capture_cases k utcOffset x now written s with
        ⟨-, hsame⟩ | ⟨-, hlost⟩ | ⟨name, hwriter, ⟨-, hearly⟩ | ⟨hdue, hopen⟩⟩
      · rw [hsame s _ (alike_refl s), hsame a _ h.toAlike]
        exact h
      · rw [hlost s _ (alike_refl s), hlost a _ h.toAlike]
        exact ⟨⟨h.writer, h.contStart, h.looping⟩, rfl, h.window⟩
      · rw [hearly s _ (alike_refl s), hearly a _ h.toAlike]
        exact hwrote name
      · rw [hopen s _ (alike_refl s), hopen a _ h.toAlike]
        have hchron := chronicle_wrote hc hnow name x
        refine beside_reopen (hwrote name) hchron.ascending
          (fresh_due hchron (h.writer.trans hwriter) ?_ hstamp)
        show continuousSegmentSecs ≤ now - a.contStart
        rw [h.contStart]
        exact hdue

/-- Everything that is to be removed is. -/
def Clears : RecordingEvent F → Prop
  | .boot o | .frame _ _ _ o => o.raises .glob = false ∧ ∀ name, o.unlinks name = true
  | .leave => True

/-- On the disk is nothing but the newest files. -/
def Exact (s a : Recording F) : Prop :=
  s.files = a.files.drop (a.files.length - continuousMaxSegments)

theorem exact_reopen (h : Beside s a) (hexact : Exact s a)
    (hasc : Ascending Segment.name a.files) (hfresh : Fresh utcOffset o a.files)
    (hquiet : o.raises .glob = false) (hall : ∀ name, o.unlinks name = true) :
    Exact (reopen k utcOffset o s) (reopen k utcOffset (spare o) a) := by
  rcases open_cases F k utcOffset o with hnone | ⟨name, hname, ⟨hclosed, hraised⟩ | hdone⟩
  · rw [reopen, reopen, hnone o.unlinks, spare, hnone]
    exact hexact
  · have hsame : ∀ files : List (Segment F), made o name files = files := by
      intro files
      rw [made, hclosed hquiet]
      exact if_neg Bool.false_ne_true
    rw [reopen, reopen, hraised o.unlinks, spare, hraised, hsame, hsame]
    exact hexact
  · obtain ⟨hmade, hmadeAsc⟩ := made_window (o := o) h.window hasc (hfresh name hname)
    rw [reopen, reopen, hdone o.unlinks, spare, hdone, purge_spared]
    exact hmade.prune_all hmadeAsc hall

theorem exact_step (hc : Chronicle utcOffset a) (h : Beside s a) (hexact : Exact s a)
    (e : RecordingEvent F) (he : Onward s e) (hclears : Clears e) :
    Exact (recordStep k utcOffset s e) (recordStep k utcOffset a (spared e)) := by
  have ha := (onward_iff h e).mpr he
  cases e with
  | boot o =>
      exact exact_reopen ⟨⟨h.writer, rfl, rfl⟩, h.clock, h.window⟩ hexact hc.ascending
        (fresh_of_dated hc.dated ha.1) hclears.1 hclears.2
  | leave => exact hexact
  | frame x now written o =>
      obtain ⟨hnow, hstamp, -⟩ := ha
      show Exact (captureFrame k utcOffset x now written o s)
        (captureFrame k utcOffset x now written (spare o) a)
      have hwrote : ∀ name, Exact (wrote name x now s) (wrote name x now a) := by
        intro name
        show writeFrame name x s.files =
          (writeFrame name x a.files).drop ((writeFrame name x a.files).length - _)
        rw [hexact, writeFrame, writeFrame, List.length_map, List.map_drop]
      rcases capture_cases k utcOffset x now written s with
        ⟨-, hsame⟩ | ⟨-, hlost⟩ | ⟨name, hwriter, ⟨-, hearly⟩ | ⟨hdue, hopen⟩⟩
      · rw [hsame s _ (alike_refl s), hsame a _ h.toAlike]
        exact hexact
      · rw [hlost s _ (alike_refl s), hlost a _ h.toAlike]
        exact hexact
      · rw [hearly s _ (alike_refl s), hearly a _ h.toAlike]
        exact hwrote name
      · rw [hopen s _ (alike_refl s), hopen a _ h.toAlike]
        have hchron := chronicle_wrote hc hnow name x
        have hbeside : Beside (wrote name x now s) (wrote name x now a) :=
          ⟨⟨h.writer, h.contStart, h.looping⟩, rfl, h.window.map _⟩
        refine exact_reopen hbeside (hwrote name) hchron.ascending
          (fresh_due hchron (h.writer.trans hwriter) ?_ hstamp) hclears.1 hclears.2
        show continuousSegmentSecs ≤ now - a.contStart
        rw [h.contStart]
        exact hdue

end Disk

/-! ## Runs -/

section Run

variable {es : List (RecordingEvent F)} {clock : ℚ}

theorem archived_step {s a : Recording F} (e : RecordingEvent F)
    (h : Beside s a ∧ Chronicle utcOffset a) (he : Onward s e) :
    Beside (recordStep k utcOffset s e) (run (recordStep k utcOffset) a [spared e]) ∧
      Chronicle utcOffset (run (recordStep k utcOffset) a [spared e]) :=
  ⟨beside_step h.2 h.1 e he, chronicle_step h.2 e ((onward_iff h.1 e).mpr he)⟩

theorem archived_run {s a : Recording F} (h : Beside s a ∧ Chronicle utcOffset a)
    (hes : AllSteps (recordStep k utcOffset) Onward s es) :
    Beside (run (recordStep k utcOffset) s es) (run (recordStep k utcOffset) a (es.map spared)) ∧
      Chronicle utcOffset (run (recordStep k utcOffset) a (es.map spared)) := by
  have hrun := run_simulation (fun _ e => [spared e])
    (fun s a => Beside s a ∧ Chronicle utcOffset a) (fun _ _ e => archived_step e) h hes
  rw [run_withSpec_fst, run_withSpec_snd, ← List.map_eq_flatMap] at hrun
  exact hrun

theorem exact_run {s a : Recording F} (h : Beside s a ∧ Chronicle utcOffset a) (hexact : Exact s a)
    (hes : AllSteps (recordStep k utcOffset) Onward s es) (hclears : ∀ e ∈ es, Clears e) :
    Exact (run (recordStep k utcOffset) s es) (run (recordStep k utcOffset) a (es.map spared)) := by
  have hstep : ∀ (s a : Recording F) (e : RecordingEvent F),
      (Exact s a ∧ Beside s a ∧ Chronicle utcOffset a) → (Onward s e ∧ Clears e) →
      Exact (recordStep k utcOffset s e) (run (recordStep k utcOffset) a [spared e]) ∧
        Beside (recordStep k utcOffset s e) (run (recordStep k utcOffset) a [spared e]) ∧
          Chronicle utcOffset (run (recordStep k utcOffset) a [spared e]) :=
    fun s a e hr he => ⟨exact_step hr.2.2 hr.2.1 hr.1 e he.1 he.2, archived_step e hr.2 he.1⟩
  have hrun := run_simulation (fun _ e => [spared e])
    (fun s a => Exact s a ∧ Beside s a ∧ Chronicle utcOffset a) hstep ⟨hexact, h⟩
    (allSteps_and_mem hes hclears)
  rw [run_withSpec_fst, run_withSpec_snd, ← List.map_eq_flatMap] at hrun
  exact hrun.1

/-- **THE NEWEST FILES ARE KEPT**, in every run of a camera's recorder, over any number of starts
    and whatever raises, is lost or cannot be removed: the names are in the order of the openings,
    the newest ten files are on the disk with all their frames, and besides them only files that
    were there before; where every removal succeeds, nothing else is. -/
theorem newest_kept (k : SegmentKind) (utcOffset : Int) (clock : ℚ)
    (es : List (RecordingEvent F))
    (hes : AllSteps (recordStep k utcOffset) Onward (Recording.initial clock) es) :
    let disk := (recordingRun k utcOffset clock es).files
    let all := (recordingRun k utcOffset clock (es.map spared)).files
    Ascending Segment.name all ∧ all.drop (all.length - 10) <:+ disk ∧ disk.Sublist all ∧
      ((∀ e ∈ es, Clears e) → disk = all.drop (all.length - 10)) := by
  have hstart : Beside (Recording.initial clock : Recording F) (Recording.initial clock) ∧
      Chronicle utcOffset (Recording.initial clock : Recording F) :=
    ⟨beside_initial clock, chronicle_initial clock⟩
  obtain ⟨hbeside, hchron⟩ := archived_run hstart hes
  exact ⟨hchron.ascending, hbeside.window.newest, hbeside.window.sublist,
    exact_run hstart List.drop_nil.symm hes⟩

/-- An opening in which nothing goes wrong. -/
def quietOpening (t : ℚ) : Opening where
  stampedAt := t
  endedAt := t
  raises := fun _ => false
  opened := true
  unlinks := fun _ => true

/-- A frame every minute. -/
def minuteFrames (n : Nat) : List (RecordingEvent Nat) :=
  (List.range n).map fun i =>
    .frame (i + 1) (1769904060 + 60 * i) true (quietOpening (1769904060 + 60 * i))

/-- The first frame comes right after the start. -/
def steadyEvents (n : Nat) : List (RecordingEvent Nat) :=
  [.boot (quietOpening 1769904000)] ++
    .frame 0 1769904000 true (quietOpening 1769904000) :: minuteFrames n

theorem steady_clears (n : Nat) : ∀ e ∈ steadyEvents n, Clears e := by
  have hquiet : ∀ t, (quietOpening t).raises .glob = false ∧
      ∀ name, (quietOpening t).unlinks name = true := fun t => ⟨rfl, fun _ => rfl⟩
  intro e he
  rcases List.mem_append.mp he with hboot | hframe
  · obtain rfl := List.mem_singleton.mp hboot
    exact hquiet _
  · rcases List.mem_cons.mp hframe with rfl | hlater
    · exact hquiet _
    · obtain ⟨i, -, rfl⟩ := List.mem_map.mp hlater
      exact hquiet _

/-- A frame at which nothing goes wrong sets the clock, whether or not it begins a file. -/
theorem minute_clock (k : SegmentKind) (utcOffset : Int) {s : Recording Nat}
    (hloop : s.looping = true) (x : Nat) (t : ℚ) :
    (recordStep k utcOffset s (.frame x t true (quietOpening t))).clock = t ∧
      (recordStep k utcOffset s (.frame x t true (quietOpening t))).looping = true := by
  show (captureFrame k utcOffset x t true (quietOpening t) s).clock = t ∧
    (captureFrame k utcOffset x t true (quietOpening t) s).looping = true
  rcases capture_cases k utcOffset x t true s with
    ⟨hstill, -⟩ | ⟨-, hlost⟩ | ⟨name, -, ⟨-, hearly⟩ | ⟨-, hopen⟩⟩
  · rw [hloop] at hstill
    cases hstill
  · rw [hlost s _ (alike_refl s)]
    exact ⟨rfl, hloop⟩
  · rw [hearly s _ (alike_refl s)]
    exact ⟨rfl, hloop⟩
  · rw [hopen s _ (alike_refl s), reopen]
    split
    · exact ⟨rfl, hloop⟩
    · exact ⟨rfl, hloop⟩

/-- **Minutes pass.** -/
theorem minutes_run (k : SegmentKind) (utcOffset : Int) {s : Recording Nat}
    (hloop : s.looping = true) (hclock : s.clock = 1769904000) (n : Nat) :
    AllSteps (recordStep k utcOffset) Onward s (minuteFrames n) ∧
      (run (recordStep k utcOffset) s (minuteFrames n)).looping = true ∧
      (run (recordStep k utcOffset) s (minuteFrames n)).clock = 1769904000 + 60 * n := by
  induction n with
  | zero =>
      refine ⟨trivial, hloop, ?_⟩
      rw [Nat.cast_zero, mul_zero, add_zero]
      exact hclock
  | succ n ih =>
      obtain ⟨hes, hloop', hclock'⟩ := ih
      have hnext : minuteFrames (n + 1) = minuteFrames n ++
          [.frame (n + 1) (1769904060 + 60 * n) true (quietOpening (1769904060 + 60 * n))] := by
        rw [minuteFrames, List.range_succ, List.map_append]
        rfl
      obtain ⟨hlast, hlooping⟩ := minute_clock k utcOffset hloop' (n + 1) (1769904060 + 60 * n)
      rw [hnext, allSteps_append, run_snoc]
      refine ⟨⟨hes, ⟨?_, le_refl _, le_refl _⟩, trivial⟩, hlooping, ?_⟩
      · rw [hclock']
        linarith
      · rw [hlast]
        push_cast
        ring

theorem steady_run (k : SegmentKind) (utcOffset : Int) (n : Nat) :
    AllSteps (recordStep k utcOffset) Onward (Recording.initial 0) (steadyEvents n) ∧
      (recordingRun k utcOffset 0 (steadyEvents n)).looping = true ∧
      (recordingRun k utcOffset 0 (steadyEvents n)).clock = 1769904000 + 60 * n := by
  let started : Recording Nat :=
    recordStep k utcOffset (Recording.initial 0) (.boot (quietOpening 1769904000))
  have hstarted : started.looping = true ∧ started.clock = 1769904000 := by
    show (reopen k utcOffset _ _).looping = true ∧ (reopen k utcOffset _ _).clock = 1769904000
    rw [reopen]
    split
    · exact ⟨rfl, rfl⟩
    · exact ⟨rfl, rfl⟩
  obtain ⟨hlast, hlooping⟩ := minute_clock k utcOffset hstarted.1 0 1769904000
  obtain ⟨hes, hrest⟩ := minutes_run k utcOffset hlooping hlast n
  refine ⟨⟨by decide +kernel, ⟨?_, le_refl _, le_refl _⟩, hes⟩, hrest⟩
  exact hstarted.2.le

/-- After ten minutes eleven files have been opened, and the first one has been removed. -/
theorem newest_kept_steady :
    (recordingRun usbSegments 32400 0 ((steadyEvents 10).map spared)).files.length = 11 ∧
      (recordingRun usbSegments 32400 0 (steadyEvents 10)).files =
        (recordingRun usbSegments 32400 0 ((steadyEvents 10).map spared)).files.drop 1 := by
  obtain ⟨-, -, -, hexact⟩ := newest_kept usbSegments 32400 0 (steadyEvents 10)
    (steady_run usbSegments 32400 10).1
  have hall :
      (recordingRun usbSegments 32400 0 ((steadyEvents 10).map spared)).files.length = 11 := by
    decide +kernel
  have hdisk := hexact (steady_clears 10)
  rw [hall] at hdisk
  exact ⟨hall, hdisk⟩

end Run

/-! ## Counting the files behind a frame -/

/-- A start of the program. -/
def startsOf : RecordingEvent F → Nat
  | .boot _ => 1
  | _ => 0

/-- The frame of the time `t` is in a file with at most `m` others behind it, and each of them but
    the first and those of `b` starts has taken a minute. -/
structure Behind (x : F) (t : ℚ) (b m : Nat) (a : Recording F) : Prop where
  inFile : ∃ i g, a.files[i]? = some g ∧ x ∈ g.frames ∧ a.files.length ≤ i + 1 + m
  clock : t + 60 * ((m : ℚ) - 1 - b) ≤ a.clock
  writer : ∀ name, a.writer = some name → t + 60 * ((m : ℚ) - 1 - b) ≤ a.contStart

section Count

variable {a : Recording F} {x : F} {t : ℚ} {b m : Nat}

theorem behind_reopen {c : Nat} (hfresh : Fresh utcOffset o a.files)
    (hfile : ∃ i g, a.files[i]? = some g ∧ x ∈ g.frames ∧ a.files.length ≤ i + 1 + m)
    (hbound : t + 60 * ((m : ℚ) - c) ≤ o.endedAt) :
    Behind x t c (m + 1) (reopen k utcOffset (spare o) a) := by
  obtain ⟨i, g, hi, hx, hlen⟩ := hfile
  have hnext : t + 60 * (((m + 1 : Nat) : ℚ) - 1 - c) ≤ o.endedAt := by
    push_cast
    linarith
  obtain ⟨files, writer, hopen, -, hfiles⟩ := open_spared k hfresh
  have hafter : ∃ i g, files[i]? = some g ∧ x ∈ g.frames ∧ files.length ≤ i + 1 + (m + 1) := by
    rcases hfiles with rfl | ⟨name, -, rfl⟩
    · exact ⟨i, g, hi, hx, by omega⟩
    · refine ⟨i, g, ?_, hx, ?_⟩
      · rw [List.getElem?_append_left (List.getElem?_eq_some_iff.mp hi).1, hi]
      · rw [List.length_append, List.length_singleton]
        omega
  rw [reopen, hopen]
  cases writer with
  | none => exact ⟨hafter, hnext, fun name hcontra => by cases hcontra⟩
  | some name => exact ⟨hafter, hnext, fun _ _ => hnext⟩

theorem behind_wrote (h : Behind x t b m a) {now : ℚ} (hnow : a.clock ≤ now) (name : List Char)
    (y : F) : Behind x t b m (wrote name y now a) := by
  obtain ⟨i, g, hi, hx, hlen⟩ := h.inFile
  have hget : (writeFrame name y a.files)[i]? =
      some (if g.name = name then { g with frames := g.frames ++ [y] } else g) := by
    rw [writeFrame, List.getElem?_map, hi]
    rfl
  refine ⟨⟨i, _, hget, ?_, ?_⟩, h.clock.trans hnow, h.writer⟩
  · split
    · exact List.mem_append_left _ hx
    · exact hx
  · show (writeFrame name y a.files).length ≤ _
    rw [writeFrame, List.length_map]
    exact hlen

/-- **Step lemma.** -/
theorem behind_step (hc : Chronicle utcOffset a) (h : Behind x t b m a) (e : RecordingEvent F)
    (he : Onward a e) :
    ∃ n, Behind x t (b + startsOf e) n (recordStep k utcOffset a (spared e)) := by
  cases e with
  | boot o =>
      obtain ⟨hlater, hle, -⟩ := he
      refine ⟨m + 1, behind_reopen (fresh_of_dated hc.dated hlater) h.inFile ?_⟩
      have hclock := h.clock
      show t + 60 * ((m : ℚ) - ((b + 1 : Nat) : ℚ)) ≤ o.endedAt
      push_cast
      linarith
  | leave => exact ⟨m, h.inFile, h.clock, h.writer⟩
  | frame y now written o =>
      obtain ⟨hnow, hstamp, hend⟩ := he
      show ∃ n, Behind x t b n (captureFrame k utcOffset y now written (spare o) a)
      rcases capture_cases k utcOffset y now written a with
        ⟨-, hsame⟩ | ⟨-, hlost⟩ | ⟨name, hwriter, ⟨-, hearly⟩ | ⟨hdue, hopen⟩⟩
      · rw [hsame a _ (alike_refl a)]
        exact ⟨m, h⟩
      · rw [hlost a _ (alike_refl a)]
        exact ⟨m, h.inFile, h.clock.trans hnow, h.writer⟩
      · rw [hearly a _ (alike_refl a)]
        exact ⟨m, behind_wrote h hnow name y⟩
      · rw [hopen a _ (alike_refl a)]
        have hchron := chronicle_wrote hc hnow name y
        refine ⟨m + 1, behind_reopen (fresh_due hchron hwriter hdue hstamp)
          (behind_wrote h hnow name y).inFile ?_⟩
        -- the file that is closed has taken a minute
        have hstart := h.writer name hwriter
        rw [continuousSegmentSecs] at hdue
        linarith

/-- The file of the writer is the last one. -/
theorem last_of_current (hc : Chronicle utcOffset a) {name : List Char}
    (hname : a.writer = some name) {i : Nat} {g : Segment F} (hi : a.files[i]? = some g)
    (hg : g.name = name) :
    a.files.length = i + 1 := by
  obtain ⟨hlt, hget⟩ := List.getElem?_eq_some_iff.mp hi
  by_contra hlen
  have hnext : i + 1 < a.files.length := by omega
  have horder := List.pairwise_iff_getElem.mp hc.ascending i (i + 1)
    (by rw [List.length_map]; exact hlt) (by rw [List.length_map]; exact hnext) (Nat.lt_succ_self i)
  rw [List.getElem_map, List.getElem_map, hget, hg] at horder
  exact absurd (hc.current name hname _ (List.getElem_mem hnext)).1 (not_le.mpr horder)

/-- A frame that is written has no file behind it. -/
theorem behind_start (hc : Chronicle utcOffset a) (hloop : a.looping = true) {name : List Char}
    (hname : a.writer = some name) (hfile : ∃ f ∈ a.files, f.name = name) {now : ℚ}
    (he : Onward a (.frame x now true o)) :
    ∃ m, Behind x now 0 m (recordStep k utcOffset a (spared (.frame x now true o))) := by
  obtain ⟨hnow, hstamp, hend⟩ := he
  obtain ⟨g, hg, hgname⟩ := hfile
  obtain ⟨i, hi⟩ := List.mem_iff_getElem?.mp hg
  have hlen := last_of_current hc hname hi hgname
  have hwrote : ∃ i g, (wrote name x now a).files[i]? = some g ∧ x ∈ g.frames ∧
      (wrote name x now a).files.length ≤ i + 1 + 0 := by
    refine ⟨i, { g with frames := g.frames ++ [x] }, ?_, ?_, ?_⟩
    · show (writeFrame name x a.files)[i]? = _
      rw [writeFrame, List.getElem?_map, hi, Option.map_some, if_pos hgname]
    · exact List.mem_append_right _ (List.mem_singleton_self x)
    · show (writeFrame name x a.files).length ≤ _
      rw [writeFrame, List.length_map]
      omega
  show ∃ m, Behind x now 0 m (captureFrame k utcOffset x now true (spare o) a)
  rcases capture_cases k utcOffset x now true a with
    ⟨hstill, -⟩ | ⟨hnone | hfalse, -⟩ | ⟨n, hn, ⟨hsoon, hearly⟩ | ⟨hdue, hopen⟩⟩
  · rw [hloop] at hstill
    cases hstill
  · rw [hname] at hnone
    cases hnone
  · cases hfalse
  · rw [hname] at hn
    obtain rfl := Option.some.inj hn
    rw [hearly a _ (alike_refl a)]
    rw [continuousSegmentSecs] at hsoon
    refine ⟨0, hwrote, ?_, fun _ _ => ?_⟩
    · show now + 60 * (((0 : Nat) : ℚ) - 1 - ((0 : Nat) : ℚ)) ≤ now
      norm_num
    · show now + 60 * (((0 : Nat) : ℚ) - 1 - ((0 : Nat) : ℚ)) ≤ a.contStart
      norm_num
      linarith
  · rw [hname] at hn
    obtain rfl := Option.some.inj hn
    rw [hopen a _ (alike_refl a)]
    refine ⟨0 + 1, behind_reopen
      (fresh_due (chronicle_wrote hc hnow name x) hname hdue hstamp) hwrote ?_⟩
    norm_num
    linarith

theorem behind_run (es : List (RecordingEvent F)) {s : Recording F}
    (h : Beside s a ∧ Chronicle utcOffset a) (hx : Behind x t b m a)
    (hes : AllSteps (recordStep k utcOffset) Onward s es) :
    ∃ n, Behind x t (b + (es.map startsOf).sum) n
      (run (recordStep k utcOffset) a (es.map spared)) := by
  induction es generalizing s a b m with
  | nil => exact ⟨m, hx⟩
  | cons e es ih =>
      obtain ⟨n, hn⟩ := behind_step (k := k) h.2 hx e ((onward_iff h.1 e).mpr hes.1)
      have hrest := ih (archived_step e h hes.1) hn hes.2
      rw [List.map_cons, List.map_cons, List.sum_cons, ← Nat.add_assoc]
      exact hrest

end Count

/-- **HOW LONG A FRAME STAYS.**  A frame that is written is on the disk for nine minutes, less one
    minute for each new start of the program, in every run of a camera's recorder and whatever
    raises, is lost or cannot be removed. -/
theorem footage_kept (k : SegmentKind) (utcOffset : Int) (clock : ℚ)
    (before after : List (RecordingEvent F)) (x : F) (now : ℚ) (o : Opening) (name : List Char)
    (hes : AllSteps (recordStep k utcOffset) Onward (Recording.initial clock)
      (before ++ .frame x now true o :: after))
    (hloop : (recordingRun k utcOffset clock before).looping = true)
    (hname : (recordingRun k utcOffset clock before).writer = some name)
    (hfile : ∃ f ∈ (recordingRun k utcOffset clock before).files, f.name = name)
    (hrecent : (recordingRun k utcOffset clock (before ++ .frame x now true o :: after)).clock <
      now + 60 * (9 - ((after.map startsOf).sum : ℚ))) :
    ∃ f ∈ (recordingRun k utcOffset clock (before ++ .frame x now true o :: after)).files,
      x ∈ f.frames := by
  have hstart : Beside (Recording.initial clock : Recording F) (Recording.initial clock) ∧
      Chronicle utcOffset (Recording.initial clock : Recording F) :=
    ⟨beside_initial clock, chronicle_initial clock⟩
  obtain ⟨hbefore, hframe, hafter⟩ := allSteps_append.mp hes
  have hthere := archived_run hstart hbefore
  obtain ⟨f, hf, hfname⟩ := hfile
  obtain ⟨m, hm⟩ := behind_start hthere.2 (hthere.1.looping.trans hloop)
    (hthere.1.writer.trans hname) ⟨f, hthere.1.window.sublist.subset hf, hfname⟩
    ((onward_iff hthere.1 _).mpr hframe)
  have hnext := archived_step (k := k) (.frame x now true o) hthere hframe
  obtain ⟨n, hn⟩ := behind_run after hnext hm hafter
  obtain ⟨hlast, -⟩ := archived_run hnext hafter
  have hrun : recordingRun k utcOffset clock (before ++ .frame x now true o :: after) =
      run (recordStep k utcOffset) (recordStep k utcOffset
        (run (recordStep k utcOffset) (Recording.initial clock) before) (.frame x now true o))
        after := run_append ..
  rw [hrun] at hrecent ⊢
  obtain ⟨i, g, hi, hx, hlen⟩ := hn.inFile
  have hclock := hn.clock
  rw [hlast.clock, Nat.zero_add] at hclock
  have hfew : n < 10 := by
    have hless : (n : ℚ) < 10 := by linarith
    exact_mod_cast hless
  refine ⟨g, hlast.window.newest.subset (mem_newest hi (hlen.trans ?_)), hx⟩
  rw [continuousMaxSegments]
  omega

/-- The file that is begun after three minutes. -/
def fourthName : List Char := stamp ⟨2026, 2, 1, 9, 3, 0⟩ ++ ['.', 'a', 'v', 'i']

/-- The frame of the fourth minute is there eight minutes later, when thirteen files have been
    opened. -/
theorem footage_kept_steady :
    ∃ f ∈ (recordingRun usbSegments 32400 0 (steadyEvents 12)).files, 4 ∈ f.frames := by
  obtain ⟨hes, -, hclock⟩ := steady_run usbSegments 32400 12
  have hclock : (recordingRun usbSegments 32400 0 (steadyEvents 12)).clock <
      1769904060 + 60 * ((3 : Nat) : ℚ) + 60 * (9 - ((0 : Nat) : ℚ)) := by
    rw [hclock]
    norm_num
  exact footage_kept usbSegments 32400 0 (steadyEvents 3) ((minuteFrames 12).drop 4) 4
    (1769904060 + 60 * ((3 : Nat) : ℚ)) (quietOpening (1769904060 + 60 * ((3 : Nat) : ℚ)))
    fourthName hes (steady_run usbSegments 32400 3).2.1 (by decide +kernel) (by decide +kernel)
    hclock

end Continuous
