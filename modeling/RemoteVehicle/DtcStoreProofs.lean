import RemoteVehicle.Episodes
import RemoteVehicle.MediaUds
import RemoteVehicle.Runs

/-!
# The trouble code store of MEDIA records the episodes of each fault

`set_active` and `clear_active` are reports on a fault: it is there, or it is not.  What the
store keeps of them is one row for each code.

1. **Reports.**  `reports code ops` is what was reported on a code since the last
   `clear_all`; `Episodes` says which episodes that makes.

2. **Rows.**  `Recorded` says what a row holds of the reports on its code: the row of a
   fault that is there (`Active`) or of one that has gone (`Stored`).

3. **The store.**  `consistent_step`: an operation keeps one row for every code with an
   episode, and each of them is recorded.
-/

namespace DtcStore

open Runs Episodes KeyedTable MediaUds

/-! ## Reports -/

/-- What an operation reports on a code. -/
def reportOn (code : DtcCode) : StoreOp → Option (Report ℚ)
  | .setActive now c => if c = code then some ⟨true, now⟩ else none
  | .clearActive now c => if c = code then some ⟨false, now⟩ else none
  | .clearAll => none

/-- The operations since the last `clear_all`. -/
def sinceClearAll (ops : List StoreOp) : List StoreOp :=
  (ops.reverse.takeWhile fun op => op != .clearAll).reverse

/-- The reports on a code since the last `clear_all`. -/
def reports (code : DtcCode) (ops : List StoreOp) : List (Report ℚ) :=
  (sinceClearAll ops).filterMap (reportOn code)

/-- The time of an operation that reads the clock. -/
def clockOf : StoreOp → Option ℚ
  | .setActive now _ => some now
  | .clearActive now _ => some now
  | .clearAll => none

/-- The clock is positive and never goes back. -/
structure Clocked (ops : List StoreOp) : Prop where
  positive : ∀ t ∈ ops.filterMap clockOf, 0 < t
  ordered : (ops.filterMap clockOf).Pairwise (· ≤ ·)

variable {code c : DtcCode} {ops : List StoreOp} {now : ℚ}

@[simp] theorem reports_setActive :
    reports code (ops ++ [.setActive now c]) =
      reports code ops ++ if c = code then [⟨true, now⟩] else [] := by
  by_cases h : c = code <;> simp [reports, sinceClearAll, reportOn, h]

@[simp] theorem reports_clearActive :
    reports code (ops ++ [.clearActive now c]) =
      reports code ops ++ if c = code then [⟨false, now⟩] else [] := by
  by_cases h : c = code <;> simp [reports, sinceClearAll, reportOn, h]

@[simp] theorem reports_clearAll : reports code (ops ++ [.clearAll]) = [] := by
  simp [reports, sinceClearAll]

/-- The clock up to an operation, and its own time. -/
theorem clocked_snoc {op : StoreOp} (h : Clocked (ops ++ [op])) :
    Clocked ops ∧ ∀ now, clockOf op = some now →
      0 < now ∧ ∀ t ∈ ops.filterMap clockOf, t ≤ now := by
  obtain ⟨hpos, hord⟩ := h
  rw [List.filterMap_append] at hpos hord
  obtain ⟨hord, -, hlast⟩ := List.pairwise_append.mp hord
  refine ⟨⟨fun t ht => hpos t (List.mem_append_left _ ht), hord⟩, ?_⟩
  intro now hnow
  have hmem : now ∈ [op].filterMap clockOf := by simp [hnow]
  exact ⟨hpos now (List.mem_append_right _ hmem), fun t ht => hlast t ht now hmem⟩

/-! ## Rows -/

/-- The row of a fault that is there. -/
structure Active (rs : List (Report ℚ)) (row : DtcRow) : Prop where
  ongoing : ongoing rs = true
  statusByte : row.statusByte = 0x09
  episode : ∃ start, (onsets rs).getLast? = some start ∧ row.faultStartTime = some start
  recoveredTime : row.recoveredTime = none
  durationSec : row.durationSec = none

/-- The row of a fault that has gone. -/
structure Stored (rs : List (Report ℚ)) (row : DtcRow) : Prop where
  ended : ongoing rs = false
  statusByte : row.statusByte = 0x08
  faultStartTime : row.faultStartTime = none
  episode : ∃ start stop, (onsets rs).getLast? = some start ∧ start ≤ stop ∧
    row.recoveredTime = some stop ∧ row.durationSec = some (stop - start)

/-- What a row holds of the reports on its code; `seen` are the times of the clock so far. -/
structure Recorded (seen : List ℚ) (rs : List (Report ℚ)) (row : DtcRow) : Prop where
  episodes : Active rs row ∨ Stored rs row
  occurrenceCount : row.occurrenceCount = (onsets rs).length
  onsetsSeen : ∀ t ∈ onsets rs, t ∈ seen
  occurrences : row.firstOccurrence ≤ row.lastOccurrence
  lastSeen : row.lastOccurrence ∈ seen

section Rows

variable {seen : List ℚ} {rs : List (Report ℚ)} {row : DtcRow}

theorem onsets_mem_append {q : Report ℚ} {now : ℚ}
    (hnew : onsets (rs ++ [q]) = onsets rs ++ [now] ∨ onsets (rs ++ [q]) = onsets rs)
    (h : ∀ t ∈ onsets rs, t ∈ seen) : ∀ t ∈ onsets (rs ++ [q]), t ∈ seen ++ [now] := by
  intro t ht
  rcases hnew with hnew | hnew <;> rw [hnew] at ht
  · rcases List.mem_append.mp ht with ht | ht
    · exact List.mem_append_left _ (h t ht)
    · exact List.mem_append_right _ ht
  · exact List.mem_append_left _ (h t ht)

/-- What happens to the other codes does not matter. -/
theorem Recorded.later (h : Recorded seen rs row) (more : List ℚ) :
    Recorded (seen ++ more) rs row where
  episodes := h.episodes
  occurrenceCount := h.occurrenceCount
  onsetsSeen t ht := List.mem_append_left _ (h.onsetsSeen t ht)
  occurrences := h.occurrences
  lastSeen := List.mem_append_left _ h.lastSeen

/-- The first occurrence of a fault. -/
theorem recorded_first (hnone : onsets rs = []) (hended : ongoing rs = false) (code : DtcCode)
    (now : ℚ) :
    Recorded (seen ++ [now]) (rs ++ [⟨true, now⟩])
      { dtcCode := code
        statusByte := DTCStatusBit.testFailed ||| DTCStatusBit.confirmed
        firstOccurrence := now
        lastOccurrence := now
        occurrenceCount := 1
        faultStartTime := some now
        recoveredTime := none
        durationSec := none } := by
  have honsets : onsets (rs ++ [⟨true, now⟩]) = [now] := by
    rw [onsets_begin hended, hnone, List.nil_append]
  refine ⟨.inl ⟨ongoing_snoc _ _, rfl, ⟨now, ?_, rfl⟩, rfl, rfl⟩, ?_, ?_, le_refl _, ?_⟩
  · rw [honsets]
    rfl
  · rw [honsets]
    rfl
  · rw [honsets]
    exact fun t ht => List.mem_append_right _ ht
  · exact List.mem_append_right _ (List.mem_singleton_self now)

/-- A fault comes back. -/
theorem recorded_back (h : Recorded seen rs row) (hstored : Stored rs row)
    (hnow : ∀ t ∈ seen, t ≤ now) :
    Recorded (seen ++ [now]) (rs ++ [⟨true, now⟩])
      { row with
        statusByte := row.statusByte ||| (DTCStatusBit.testFailed ||| DTCStatusBit.confirmed)
        lastOccurrence := now
        occurrenceCount := row.occurrenceCount + 1
        faultStartTime := some now
        recoveredTime := none
        durationSec := none } := by
  have honsets := onsets_begin hstored.ended now
  refine ⟨.inl ⟨ongoing_snoc _ _, ?_, ⟨now, ?_, rfl⟩, rfl, rfl⟩, ?_, ?_, ?_, ?_⟩
  · rw [hstored.statusByte]
    rfl
  · rw [honsets, List.getLast?_concat]
  · rw [honsets, List.length_append, ← h.occurrenceCount]
    rfl
  · exact onsets_mem_append (.inl honsets) h.onsetsSeen
  · exact le_trans h.occurrences (hnow _ h.lastSeen)
  · exact List.mem_append_right _ (List.mem_singleton_self now)

/-- A fault is still there. -/
theorem recorded_still (h : Recorded seen rs row) (hactive : Active rs row)
    (hnow : ∀ t ∈ seen, t ≤ now) :
    Recorded (seen ++ [now]) (rs ++ [⟨true, now⟩]) { row with lastOccurrence := now } := by
  have honsets := onsets_goOn hactive.ongoing now
  obtain ⟨-, hstatus, ⟨start, hlast, hstart⟩, hrecovered, hduration⟩ := hactive
  refine ⟨.inl ⟨ongoing_snoc _ _, hstatus, ⟨start, ?_, hstart⟩, hrecovered, hduration⟩,
    ?_, ?_, ?_, ?_⟩
  · rw [honsets]
    exact hlast
  · rw [honsets]
    exact h.occurrenceCount
  · exact onsets_mem_append (.inr honsets) h.onsetsSeen
  · exact le_trans h.occurrences (hnow _ h.lastSeen)
  · exact List.mem_append_right _ (List.mem_singleton_self now)

/-- A fault goes. -/
theorem recorded_gone (h : Recorded seen rs row) (hactive : Active rs row)
    (hpos : ∀ t ∈ seen, 0 < t) (hnow : ∀ t ∈ seen, t ≤ now) :
    Recorded (seen ++ [now]) (rs ++ [⟨false, now⟩])
      { row with
        statusByte := row.statusByte &&& ~~~DTCStatusBit.testFailed
        recoveredTime := some now
        durationSec := some (now - startOr now row.faultStartTime)
        faultStartTime := none } := by
  have honsets := onsets_end rs now
  obtain ⟨-, hstatus, ⟨start, hlast, hstart⟩, -, -⟩ := hactive
  have hseen : start ∈ seen := h.onsetsSeen start (List.mem_of_getLast? hlast)
  -- the clock is positive, so the start is not taken for a missing one
  have hor : startOr now row.faultStartTime = start := by
    rw [hstart]
    exact if_neg (ne_of_gt (hpos start hseen))
  refine ⟨.inr ⟨ongoing_snoc _ _, ?_, rfl, start, now, ?_, hnow start hseen, rfl, ?_⟩,
    ?_, ?_, h.occurrences, ?_⟩
  · rw [hstatus]
    rfl
  · rw [honsets]
    exact hlast
  · rw [hor]
  · rw [honsets]
    exact h.occurrenceCount
  · exact onsets_mem_append (.inr honsets) h.onsetsSeen
  · exact List.mem_append_left _ h.lastSeen

/-- A fault is reported gone again. -/
theorem recorded_goneAgain (h : Recorded seen rs row) (hstored : Stored rs row) (now : ℚ) :
    Recorded (seen ++ [now]) (rs ++ [⟨false, now⟩]) row := by
  have honsets := onsets_end rs now
  obtain ⟨-, hstatus, hstart, start, stop, hlast, hle, hrecovered, hduration⟩ := hstored
  refine ⟨.inr ⟨ongoing_snoc _ _, hstatus, hstart, start, stop, ?_, hle, hrecovered, hduration⟩,
    ?_, ?_, h.occurrences, ?_⟩
  · rw [honsets]
    exact hlast
  · rw [honsets]
    exact h.occurrenceCount
  · exact onsets_mem_append (.inr honsets) h.onsetsSeen
  · exact List.mem_append_left _ h.lastSeen

/-- The bit that the operations look at. -/
theorem testFailed_active (h : Active rs row) :
    row.statusByte &&& DTCStatusBit.testFailed ≠ 0 := by
  rw [h.statusByte]
  decide

theorem testFailed_stored (h : Stored rs row) :
    row.statusByte &&& DTCStatusBit.testFailed = 0 := by
  rw [h.statusByte]
  rfl

end Rows

/-! ## The store -/

/-- The times that the clock has shown. -/
def times (ops : List StoreOp) : List ℚ := ops.filterMap clockOf

/-- What the store holds of the operations so far. -/
structure Consistent (ops : List StoreOp) (dtcs : List DtcRow) : Prop where
  keyed : Keyed DtcRow.dtcCode dtcs
  rows : ∀ row ∈ dtcs, Recorded (times ops) (reports row.dtcCode ops) row
  absent : ∀ code, (∀ row ∈ dtcs, row.dtcCode ≠ code) →
    onsets (reports code ops) = [] ∧ ongoing (reports code ops) = false

/-- The operation `op` reports `q` on `code`. -/
structure Reporting (ops : List StoreOp) (op : StoreOp) (code : DtcCode) (q : Report ℚ) :
    Prop where
  reports : ∀ c, reports c (ops ++ [op]) = reports c ops ++ if code = c then [q] else []
  times : times (ops ++ [op]) = times ops ++ [q.time]

theorem reporting_setActive (ops : List StoreOp) (now : ℚ) (code : DtcCode) :
    Reporting ops (.setActive now code) code ⟨true, now⟩ :=
  ⟨fun _ => reports_setActive, by simp [times, clockOf]⟩

theorem reporting_clearActive (ops : List StoreOp) (now : ℚ) (code : DtcCode) :
    Reporting ops (.clearActive now code) code ⟨false, now⟩ :=
  ⟨fun _ => reports_clearActive, by simp [times, clockOf]⟩

section Store

variable {op : StoreOp} {q : Report ℚ} {dtcs : List DtcRow}

theorem Reporting.same (h : Reporting ops op code q) :
    DtcStore.reports code (ops ++ [op]) = DtcStore.reports code ops ++ [q] := by
  rw [h.reports, if_pos rfl]

theorem Reporting.other (h : Reporting ops op code q) (hne : code ≠ c) :
    DtcStore.reports c (ops ++ [op]) = DtcStore.reports c ops := by
  rw [h.reports, if_neg hne, List.append_nil]

/-- A row of another code. -/
theorem Consistent.otherRow (h : Consistent ops dtcs) (hop : Reporting ops op code q)
    {row : DtcRow} (hrow : row ∈ dtcs) (hne : row.dtcCode ≠ code) :
    Recorded (times (ops ++ [op])) (reports row.dtcCode (ops ++ [op])) row := by
  rw [hop.other hne.symm, hop.times]
  exact (h.rows row hrow).later _

/-- A new row. -/
theorem consistent_insert (h : Consistent ops dtcs) (hop : Reporting ops op code q)
    {row : DtcRow} (hcode : row.dtcCode = code) (hnew : ∀ r ∈ dtcs, r.dtcCode ≠ code)
    (hrow : Recorded (times ops ++ [q.time]) (reports code ops ++ [q]) row) :
    Consistent (ops ++ [op]) (insert DtcRow.dtcCode row dtcs) := by
  refine ⟨h.keyed.insert fun r hr => hcode ▸ hnew r hr, ?_, ?_⟩
  · intro r hr
    rcases mem_insert.mp hr with rfl | hr
    · rw [hcode, hop.same, hop.times]
      exact hrow
    · exact h.otherRow hop hr (hnew r hr)
  · intro c habs
    have hne : code ≠ c := hcode ▸ habs row (mem_insert.mpr (.inl rfl))
    rw [hop.other hne]
    exact h.absent c fun r hr => habs r (mem_insert.mpr (.inr hr))

/-- A changed row; `f` changes nothing where an operation leaves the row as it is. -/
theorem consistent_update (h : Consistent ops dtcs) (hop : Reporting ops op code q)
    {f : DtcRow → DtcRow} (hf : ∀ r, r.dtcCode = code → (f r).dtcCode = code)
    (hrow : ∀ r ∈ dtcs, r.dtcCode = code →
      Recorded (times ops ++ [q.time]) (reports code ops ++ [q]) (f r))
    (hthere : q.holds = false ∨ ∃ r ∈ dtcs, r.dtcCode = code) :
    Consistent (ops ++ [op]) (update DtcRow.dtcCode code f dtcs) := by
  refine ⟨h.keyed.update hf, ?_, ?_⟩
  · intro r hr
    rcases mem_update.mp hr with ⟨p, hp, hcode, rfl⟩ | ⟨hr, hne⟩
    · rw [hf p hcode, hop.same, hop.times]
      exact hrow p hp hcode
    · exact h.otherRow hop hr hne
  · intro c habs
    have hnone := key_update hf habs
    have hold := h.absent c hnone
    by_cases hc : code = c
    · subst hc
      rcases hthere with hgone | ⟨r, hr, hcode⟩
      · obtain ⟨holds, now⟩ := q
        cases hgone
        rw [hop.same, onsets_end, ongoing_snoc]
        exact ⟨hold.1, rfl⟩
      · exact absurd hcode (hnone r hr)
    · rw [hop.other hc]
      exact hold

/-- The rows with the code of a selected one. -/
theorem Consistent.selected (h : Consistent ops dtcs) {row : DtcRow}
    (hselect : select DtcRow.dtcCode code dtcs = some row) :
    Recorded (times ops) (reports code ops) row ∧
      ∀ r ∈ dtcs, r.dtcCode = code → r = row := by
  obtain ⟨hmem, hcode⟩ := mem_of_select hselect
  have hrow := h.rows row hmem
  rw [hcode] at hrow
  exact ⟨hrow, fun r hr hr' => h.keyed.unique hr hmem (hr'.trans hcode.symm)⟩

theorem consistent_setActive (h : Consistent ops dtcs) (hnow : ∀ t ∈ times ops, t ≤ now) :
    Consistent (ops ++ [.setActive now code]) (setActive now code dtcs) := by
  have hop := reporting_setActive ops now code
  rw [setActive]
  cases hselect : select DtcRow.dtcCode code dtcs with
  | none =>
      have hnew := select_eq_none.mp hselect
      obtain ⟨honsets, hended⟩ := h.absent code hnew
      exact consistent_insert h hop rfl hnew (recorded_first honsets hended code now)
  | some row =>
      dsimp only
      obtain ⟨hrow, hunique⟩ := h.selected hselect
      have hthere : ∃ r ∈ dtcs, r.dtcCode = code := ⟨row, mem_of_select hselect⟩
      rcases hrow.episodes with hactive | hstored
      · rw [if_neg (testFailed_active hactive)]
        refine consistent_update h hop (fun _ hr => hr) ?_ (.inr hthere)
        intro r hr hcode
        rw [hunique r hr hcode]
        exact recorded_still hrow hactive hnow
      · rw [if_pos (testFailed_stored hstored)]
        refine consistent_update h hop (fun _ hr => hr) ?_ (.inr hthere)
        intro r hr hcode
        rw [hunique r hr hcode]
        exact recorded_back hrow hstored hnow

theorem consistent_clearActive (h : Consistent ops dtcs) (hpos : ∀ t ∈ times ops, 0 < t)
    (hnow : ∀ t ∈ times ops, t ≤ now) :
    Consistent (ops ++ [.clearActive now code]) (clearActive now code dtcs) := by
  have hop := reporting_clearActive ops now code
  rw [clearActive]
  cases hselect : select DtcRow.dtcCode code dtcs with
  | none =>
      have hnew := select_eq_none.mp hselect
      have hid : update DtcRow.dtcCode code id dtcs = dtcs := update_id code dtcs
      rw [← hid]
      refine consistent_update h hop (fun _ hr => hr) ?_ (.inl rfl)
      intro r hr hcode
      exact absurd hcode (hnew r hr)
  | some row =>
      dsimp only
      obtain ⟨hrow, hunique⟩ := h.selected hselect
      rcases hrow.episodes with hactive | hstored
      · rw [if_pos (testFailed_active hactive)]
        refine consistent_update h hop (fun _ hr => hr) ?_ (.inl rfl)
        intro r hr hcode
        rw [hunique r hr hcode]
        exact recorded_gone hrow hactive hpos hnow
      · have hid : update DtcRow.dtcCode code id dtcs = dtcs := update_id code dtcs
        rw [if_neg (not_not.mpr (testFailed_stored hstored)), ← hid]
        refine consistent_update h hop (fun _ hr => hr) ?_ (.inl rfl)
        intro r hr hcode
        rw [hunique r hr hcode]
        exact recorded_goneAgain hrow hstored now

/-- A clear of all rows. -/
theorem consistent_clearAll (dtcs : List DtcRow) :
    Consistent (ops ++ [.clearAll]) (clearAll dtcs) := by
  refine ⟨keyed_nil, fun row hrow => absurd hrow List.not_mem_nil, ?_⟩
  intro code _
  rw [reports_clearAll]
  exact ⟨rfl, rfl⟩

/-- **Step lemma.** -/
theorem consistent_step (h : Consistent ops dtcs) (op : StoreOp) (hclock : Clocked (ops ++ [op])) :
    Consistent (ops ++ [op]) (storeStep dtcs op) := by
  obtain ⟨hbefore, hlast⟩ := clocked_snoc hclock
  cases op with
  | setActive now code => exact consistent_setActive h (hlast now rfl).2
  | clearActive now code =>
      exact consistent_clearActive h hbefore.positive (hlast now rfl).2
  | clearAll => exact consistent_clearAll dtcs

/-- **Run lemma.** -/
theorem consistent_run (hclock : Clocked ops) : Consistent ops (run storeStep [] ops) := by
  induction ops using List.reverseRecOn with
  | nil => exact ⟨keyed_nil, fun row hrow => absurd hrow List.not_mem_nil, fun _ _ => ⟨rfl, rfl⟩⟩
  | append_singleton ops op ih =>
      rw [run_snoc]
      exact consistent_step (ih (clocked_snoc hclock).1) op hclock

end Store

/-! ## Main result -/

/-- The status of a row says that its fault is there. -/
def DtcActive (row : DtcRow) : Prop := row.statusByte &&& DTCStatusBit.testFailed ≠ 0

/-- The columns of a row, against the episodes that were reported on its code. -/
structure RowInvariant (rs : List (Report ℚ)) (row : DtcRow) : Prop where
  status : row.statusByte = 0x08 ∨ row.statusByte = 0x09
  active : DtcActive row ↔ ongoing rs = true
  occurrenceCount : row.occurrenceCount = (onsets rs).length
  faultStart_iff : row.faultStartTime.isSome ↔ DtcActive row
  faultStart : ∀ start, row.faultStartTime = some start → (onsets rs).getLast? = some start
  recovered_iff : row.recoveredTime.isSome ↔ ¬ DtcActive row
  duration_iff : row.durationSec.isSome ↔ ¬ DtcActive row
  duration : ∀ duration, row.durationSec = some duration →
    ∃ start recovered, (onsets rs).getLast? = some start ∧ row.recoveredTime = some recovered ∧
      duration = recovered - start ∧ 0 ≤ duration
  occurrences : row.firstOccurrence ≤ row.lastOccurrence

theorem rowInvariant_of_recorded {seen : List ℚ} {rs : List (Report ℚ)} {row : DtcRow}
    (h : Recorded seen rs row) : RowInvariant rs row := by
  -- the last episode goes on or is over, and each field follows from that
  rcases h.episodes with hactive | hstored
  · have hbit : DtcActive row := testFailed_active hactive
    obtain ⟨hongoing, hstatus, ⟨start, hlast, hstart⟩, hrecovered, hduration⟩ := hactive
    refine ⟨.inr hstatus, iff_of_true hbit hongoing, h.occurrenceCount, ?_, ?_, ?_, ?_, ?_,
      h.occurrences⟩
    · exact iff_of_true (by simp [hstart]) hbit
    · intro s hs
      exact hlast.trans (hstart.symm.trans hs)
    · exact iff_of_false (by simp [hrecovered]) (not_not.mpr hbit)
    · exact iff_of_false (by simp [hduration]) (not_not.mpr hbit)
    · intro d hd
      rw [hduration] at hd
      cases hd
  · have hbit : ¬ DtcActive row := not_not.mpr (testFailed_stored hstored)
    obtain ⟨hended, hstatus, hstart, start, stop, hlast, hle, hrecovered, hduration⟩ := hstored
    refine ⟨.inl hstatus, iff_of_false hbit (by simp [hended]), h.occurrenceCount, ?_, ?_, ?_,
      ?_, ?_, h.occurrences⟩
    · exact iff_of_false (by simp [hstart]) hbit
    · intro s hs
      rw [hstart] at hs
      cases hs
    · exact iff_of_true (by simp [hrecovered]) hbit
    · exact iff_of_true (by simp [hduration]) hbit
    · intro d hd
      have hd' : stop - start = d := Option.some.inj (hduration.symm.trans hd)
      exact ⟨start, stop, hlast, hrecovered, hd'.symm, hd' ▸ sub_nonneg.mpr hle⟩

/-- **The rows of the store agree with what was reported**, whatever the operations on a
    store that was empty, as long as the clock does not go back. -/
theorem dtcStore_rows (ops : List StoreOp) (hclock : Clocked ops) :
    ∀ row ∈ run storeStep [] ops, RowInvariant (reports row.dtcCode ops) row :=
  fun row hrow => rowInvariant_of_recorded ((consistent_run hclock).rows row hrow)

/-- A fault that comes, goes and comes back. -/
theorem dtcStore_rows_back :
    let ops : List StoreOp := [.setActive 1 0xC30000, .clearActive 3 0xC30000,
      .clearActive 4 0xC30200, .setActive 4 0xC30000]
    Clocked ops ∧ ∀ row ∈ run storeStep [] ops, RowInvariant (reports row.dtcCode ops) row := by
  have hclock : Clocked [.setActive 1 0xC30000, .clearActive 3 0xC30000,
      .clearActive 4 0xC30200, .setActive 4 0xC30000] := ⟨by decide, by decide⟩
  exact ⟨hclock, dtcStore_rows _ hclock⟩

end DtcStore
