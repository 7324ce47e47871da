import RemoteVehicle.EventCycleProofs
import RemoteVehicle.MediaHistory

/-!
# What `GetAccidentList` answers, and what the accident page shows

Rows are written by handlers, one after the other, so the order of the table is that of the
events: `Chronicle` is the invariant, over any number of starts of the program.  A query that
sorts by time then only turns the table round (`newestRows_eq`).

From there on it is a matter of following names: the URL of an entry leads through the routes of
the streaming server to a clip in the directory of its own event.
-/

namespace AccidentList

open Calendar EventCycle MediaHistory MediaTrigger PcBackend Raising Runs

/-! ## What a handler writes -/

section Writes

variable {cfg : Config} {inp : HandlerInputs}

/-- Neither the table nor the subscribers notice anything. -/
def Silent (s t : Blackbox) : Prop := t.rows = s.rows ∧ t.notified = s.notified

theorem Silent.refl (s : Blackbox) : Silent s s := ⟨rfl, rfl⟩

/-- Nothing is written, the row is, or the row is and the subscribers are told. -/
def Recorded (row : EventRow) (s t : Blackbox) : Prop :=
  Silent s t ∨ (t.rows = s.rows ++ [row] ∧
    (t.notified = s.notified ∨ t.notified = s.notified ++ [row.eventId]))

/-- The entries of an event begin with its row and its notice, and only jobs follow. -/
theorem recorded_of_added {triggeredAt : ℚ} {eventId : String}
    {starts : Option ℚ × Option ℚ × Option ℚ} {done : List Entry} {s t : Blackbox}
    (hfront : done <+: entriesOf cfg inp triggeredAt eventId starts) (h : Added done s t) :
    Recorded (rowOf cfg triggeredAt eventId) s t := by
  rcases List.prefix_cons_iff.mp hfront with rfl | ⟨rest, rfl, hrest⟩
  · exact Or.inl ⟨h.rows.trans (List.append_nil _), h.notified.trans (List.append_nil _)⟩
  rcases List.prefix_cons_iff.mp hrest with rfl | ⟨jobs, rfl, hjobs⟩
  · exact Or.inr ⟨h.rows, Or.inl (h.notified.trans (List.append_nil _))⟩
  have hnone : ∀ e ∈ jobs, e.row? = none ∧ e.notice? = none := by
    intro e he
    have hjob := hjobs.subset he
    simp only [List.mem_cons, List.not_mem_nil, or_false] at hjob
    rcases hjob with rfl | rfl <;> exact ⟨rfl, rfl⟩
  have hrows : jobs.filterMap Entry.row? = [] :=
    List.filterMap_eq_nil_iff.mpr fun e he => (hnone e he).1
  have hnotices : jobs.filterMap Entry.notice? = [] :=
    List.filterMap_eq_nil_iff.mpr fun e he => (hnone e he).2
  refine Or.inr ⟨h.rows.trans ?_, Or.inr (h.notified.trans ?_)⟩
  · show s.rows ++ rowOf cfg triggeredAt eventId :: jobs.filterMap Entry.row? = _
    rw [hrows]
  · show s.notified ++ eventId :: jobs.filterMap Entry.notice? = _
    rw [hnotices]
    rfl

/-- **What a handler writes.** -/
theorem recorded_tryEvent (info : TriggerInfo) (triggeredAt : ℚ) (eventId : String) (endedAt : ℚ)
    (s : Blackbox) :
    Recorded (rowOf cfg triggeredAt eventId) s
      (runOn (tryEvent cfg inp info triggeredAt eventId endedAt) s).2 := by
  have hadds : Enters Added (entriesOf cfg inp triggeredAt eventId _) _ :=
    adds_recordEvent info triggeredAt eventId
  obtain ⟨done, hadded, hfront, -⟩ := hadds s
  have hbody := recorded_of_added hfront hadded
  rw [runOn_tryEvent]
  exact hbody

/-- **Only the end of a handler writes.** -/
theorem systemStep_recorded (cfg : Config) (s : EventSystem) (e : SystemEvent) :
    Silent s.box (systemStep cfg s e).box ∨
      ∃ i now inp h triggeredAt eventId, e = .finish i now inp ∧ s.handlers[i]? = some h ∧
        h.phase = .recording triggeredAt eventId ∧
        Recorded (rowOf cfg triggeredAt eventId) s.box (systemStep cfg s e).box := by
  cases e with
  | trigger now info => exact Or.inl ⟨rfl, rfl⟩
  | begin i now inp =>
      refine Or.inl ?_
      rw [systemStep]
      rcases s.handlers[i]? with _ | h
      · exact Silent.refl _
      · dsimp only
        rcases h.phase with _ | ⟨t, id⟩ | _ | ⟨t, id, ended⟩
        · rcases openEvent_cases cfg inp now s.box with ⟨-, c, hrun⟩ | ⟨-, id, -, hrun⟩
          · rw [hrun]
            exact Silent.refl _
          · rw [hrun]
            exact Silent.refl _
        · exact Silent.refl _
        · exact Silent.refl _
        · exact Silent.refl _
  | finish i now inp =>
      rw [systemStep]
      rcases hi : s.handlers[i]? with _ | h
      · exact Or.inl (Silent.refl _)
      · dsimp only
        rcases hphase : h.phase with _ | ⟨t, id⟩ | _ | ⟨t, id, ended⟩
        · exact Or.inl (Silent.refl _)
        · exact Or.inr ⟨i, now, inp, h, t, id, rfl, hi, hphase, recorded_tryEvent _ _ _ _ _⟩
        · exact Or.inl (Silent.refl _)
        · exact Or.inl (Silent.refl _)

end Writes

/-! ## The order of the table -/

section Chronicle

variable {cfg : Config} {start : ℚ} {s t : EventSystem}

/-- All rows are from before a time. -/
def Before (rows : List EventRow) (time : ℚ) : Prop := ∀ r ∈ rows, r.triggeredAt < time

/-- A row is named after its time, lies in its own directory, and is from after the start. -/
def Filed (cfg : Config) (start : ℚ) (r : EventRow) : Prop :=
  eventIdOf cfg.utcOffset r.triggeredAt = some r.eventId ∧
    r.eventDir = eventBase cfg.eventsDir r.eventId ∧ start ≤ r.triggeredAt

/-- What a handler that is still to write knows about the table. -/
def Pending (cfg : Config) (start clock : ℚ) (rows : List EventRow) (h : Handler) : Prop :=
  match h.phase with
  | .spawned => Before rows clock
  | .recording triggeredAt eventId =>
      Before rows triggeredAt ∧ eventIdOf cfg.utcOffset triggeredAt = some eventId ∧
        start ≤ triggeredAt ∧ triggeredAt ≤ clock
  | _ => True

/-- The table is in the order of time, and so are those who are still to write. -/
structure Chronicle (cfg : Config) (start : ℚ) (s : EventSystem) : Prop where
  serial : Serial s
  started : start ≤ s.clock
  ordered : s.box.rows.Pairwise fun a b => a.triggeredAt < b.triggeredAt
  filed : ∀ r ∈ s.box.rows, Filed cfg start r
  past : ∀ r ∈ s.box.rows, r.triggeredAt ≤ s.clock
  idle : s.box.trigger.inEvent = false →
    ∀ r ∈ s.box.rows, r.triggeredAt < s.clock ∨ r.triggeredAt ≤ s.box.trigger.lastEventEnd
  pending : ∀ (i : Nat) (h : Handler), s.handlers[i]? = some h →
    Pending cfg start s.clock s.box.rows h

theorem chronicle_initial (cfg : Config) (clock : ℚ) :
    Chronicle cfg clock (EventSystem.initial clock) where
  serial := serial_initial clock
  started := le_refl clock
  ordered := .nil
  filed := fun _ hr => absurd hr List.not_mem_nil
  past := fun _ hr => absurd hr List.not_mem_nil
  idle := fun _ _ hr => absurd hr List.not_mem_nil
  pending := fun _ _ hi => by cases hi

theorem Before.later {rows : List EventRow} {time now : ℚ} (h : Before rows time)
    (hle : time ≤ now) : Before rows now :=
  fun r hr => (h r hr).trans_le hle

theorem Pending.later {clock now : ℚ} {rows : List EventRow} {h : Handler}
    (hp : Pending cfg start clock rows h) (hle : clock ≤ now) :
    Pending cfg start now rows h := by
  rw [Pending] at hp ⊢
  split at hp
  · exact hp.later hle
  · exact ⟨hp.1, hp.2.1, hp.2.2.1, hp.2.2.2.trans hle⟩
  · trivial

/-- A handler that has ended writes no more. -/
theorem pending_ended {clock : ℚ} {rows : List EventRow} {h : Handler} (hended : Ended h) :
    Pending cfg start clock rows h := by
  obtain ⟨e, he⟩ := hended
  rw [Handler.endedAt] at he
  rw [Pending]
  rcases hphase : h.phase with _ | ⟨t, id⟩ | _ | ⟨t, id, ended⟩ <;> rw [hphase] at he
  · cases he
  · cases he
  · cases he
  · trivial

/-- When time passes and the table stays, so does the order. -/
theorem Chronicle.wait (h : Chronicle cfg start s) {now : ℚ} (hle : s.clock ≤ now) :
    Chronicle cfg start { s with clock := now } where
  serial := ⟨h.serial.order, h.serial.idle⟩
  started := h.started.trans hle
  ordered := h.ordered
  filed := h.filed
  past := fun r hr => (h.past r hr).trans hle
  idle := fun hidle r hr => (h.idle hidle r hr).imp (fun hlt => hlt.trans_le hle) id
  pending := fun i a hi => (h.pending i a hi).later hle

/-- An accepted trigger comes after all rows. -/
theorem Chronicle.accept (h : Chronicle cfg start s) {now : ℚ} (hle : s.clock ≤ now)
    (info : TriggerInfo) (hidle : s.box.trigger.inEvent = false)
    (hlate : s.box.trigger.lastEventEnd + 30 ≤ now)
    (hserial : Serial (accepted s now info)) : Chronicle cfg start (accepted s now info) where
  serial := hserial
  started := h.started.trans hle
  ordered := h.ordered
  filed := h.filed
  past := fun r hr => (h.past r hr).trans hle
  idle := fun hcontra => by cases hcontra
  pending := by
    intro i a hi
    rcases snoc_getElem? hi with hold | ⟨-, rfl⟩
    · exact pending_ended (h.serial.idle hidle i a hold)
    · intro r hr
      rcases h.idle hidle r hr with hlt | hend
      · exact hlt.trans_le hle
      · show r.triggeredAt < now
        linarith

/-- A handler goes on without writing. -/
theorem Chronicle.enter (h : Chronicle cfg start s) {now : ℚ} (hle : s.clock ≤ now) {i : Nat}
    {a : Handler} {phase : HandlerPhase} (hi : s.handlers[i]? = some a) (hopen : ¬ Ended a)
    (hserial : Serial (s.enter s.box now i a phase))
    (hown : Pending cfg start now s.box.rows { a with phase := phase }) :
    Chronicle cfg start (s.enter s.box now i a phase) where
  serial := hserial
  started := h.started.trans hle
  ordered := h.ordered
  filed := h.filed
  past := fun r hr => (h.past r hr).trans hle
  idle := fun hidle => absurd (h.serial.busy hi hopen) (Bool.eq_false_iff.mp hidle)
  pending := by
    intro j b hj
    rw [enter_getElem? hi] at hj
    by_cases hij : i = j
    · rw [if_pos hij] at hj
      obtain rfl := Option.some.inj hj
      exact hown
    · rw [if_neg hij] at hj
      exact (h.pending j b hj).later hle

/-- The others have ended when a handler ends. -/
theorem Chronicle.others (h : Chronicle cfg start s) {i j : Nat} {a b : Handler}
    (hi : s.handlers[i]? = some a) (hopen : ¬ Ended a) (hij : i ≠ j)
    (hj : s.handlers[j]? = some b) : Ended b := by
  have hle := h.serial.last hi hopen hj
  exact h.serial.order j i b (by omega) hj (by rw [hi]; rfl)

/-- **A handler ends**: its row comes after all others. -/
theorem Chronicle.finish (h : Chronicle cfg start s) {now : ℚ} (hle : s.clock ≤ now) {i : Nat}
    {a : Handler} {triggeredAt : ℚ} {eventId : String} {box : Blackbox}
    (hi : s.handlers[i]? = some a) (hphase : a.phase = .recording triggeredAt eventId)
    (hbox : box.trigger = ⟨false, now⟩) (hrows : box.rows = s.box.rows ∨
      box.rows = s.box.rows ++ [rowOf cfg triggeredAt eventId])
    (hserial : Serial (s.enter box now i a (.ended triggeredAt eventId now))) :
    Chronicle cfg start (s.enter box now i a (.ended triggeredAt eventId now)) := by
  have hopen := not_ended_of_live (live_recording hphase)
  have hown := h.pending i a hi
  rw [Pending, hphase] at hown
  obtain ⟨hbefore, hid, hstart, hclock⟩ := hown
  have hmem : ∀ r ∈ box.rows, r ∈ s.box.rows ∨ r = rowOf cfg triggeredAt eventId := by
    intro r hr
    rcases hrows with hsame | hnew
    · exact Or.inl (hsame ▸ hr)
    · rw [hnew, List.mem_append, List.mem_singleton] at hr
      exact hr
  have hnow : ∀ r ∈ box.rows, r.triggeredAt ≤ now := by
    intro r hr
    rcases hmem r hr with hold | rfl
    · exact (h.past r hold).trans hle
    · exact hclock.trans hle
  refine ⟨hserial, h.started.trans hle, ?_, ?_, hnow, ?_, ?_⟩
  · rcases hrows with hsame | hnew
    · show box.rows.Pairwise _
      rw [hsame]
      exact h.ordered
    · show box.rows.Pairwise _
      rw [hnew, List.pairwise_append]
      refine ⟨h.ordered, List.pairwise_singleton _ _, fun r hr q hq => ?_⟩
      obtain rfl := List.mem_singleton.mp hq
      exact hbefore r hr
  · intro r hr
    rcases hmem r hr with hold | rfl
    · exact h.filed r hold
    · exact ⟨hid, rfl, hstart⟩
  · intro _ r hr
    have hend : (s.enter box now i a (.ended triggeredAt eventId now)).box.trigger.lastEventEnd =
        now := congrArg EventTrigger.lastEventEnd hbox
    rw [hend]
    exact Or.inr (hnow r hr)
  · intro j b hj
    rw [enter_getElem? hi] at hj
    by_cases hij : i = j
    · rw [if_pos hij] at hj
      obtain rfl := Option.some.inj hj
      exact pending_ended ⟨now, rfl⟩
    · rw [if_neg hij] at hj
      exact pending_ended (h.others hi hopen hij hj)

/-- The step of a handler that has not been told about. -/
theorem rows_of_recorded {row : EventRow} {box box' : Blackbox} (h : Recorded row box box') :
    box'.rows = box.rows ∨ box'.rows = box.rows ++ [row] := by
  rcases h with hsilent | ⟨hrows, -⟩
  · exact Or.inl hsilent.1
  · exact Or.inr hrows

/-- **Step lemma** for the running program. -/
theorem chronicle_system (h : Chronicle cfg start s) {e : SystemEvent} (hle : s.clock ≤ e.now) :
    Chronicle cfg start (systemStep cfg s e) := by
  have hsteps := systemStep_steps cfg s e
  have hserial := serial_step h.serial hsteps
  have hwrites := systemStep_recorded cfg s e
  generalize systemStep cfg s e = u at hsteps hserial hwrites
  cases hsteps with
  | idle => exact h
  | refused now info => exact h.wait hle
  | accepted now info hidle hlate => exact h.accept hle info hidle hlate hserial
  | opened i now inp a id hi hphase hid =>
      have hown := h.pending i a hi
      rw [Pending, hphase] at hown
      refine h.enter hle hi (not_ended_of_live (live_spawned hphase)) hserial ?_
      exact ⟨hown.later hle, hid, h.started.trans hle, le_refl now⟩
  | died i now inp a hi hphase =>
      exact h.enter hle hi (not_ended_of_live (live_spawned hphase)) hserial trivial
  | ended i now inp a triggeredAt id box hi hphase hbox =>
      refine h.finish hle hi hphase hbox ?_ hserial
      rcases hwrites with hsilent | ⟨j, later, inp', b, t', id', he, hj, hphase', hrecorded⟩
      · exact Or.inl hsilent.1
      · injection he with hij
        rw [← hij, hi] at hj
        obtain rfl := Option.some.inj hj
        rw [hphase] at hphase'
        injection hphase' with ht hname
        rw [← ht, ← hname] at hrecorded
        exact rows_of_recorded hrecorded

/-- A new start comes after all rows. -/
theorem chronicle_boot (h : Chronicle cfg start s) {now : ℚ} (hlt : s.clock < now) :
    Chronicle cfg start (boot now s) where
  serial := by
    constructor
    · intro i j a _ hi
      cases hi
    · intro _ i a hi
      cases hi
  started := h.started.trans hlt.le
  ordered := h.ordered
  filed := h.filed
  past := fun r hr => (h.past r hr).trans hlt.le
  idle := fun _ r hr => Or.inl ((h.past r hr).trans_lt hlt)
  pending := fun _ _ hi => by cases hi

/-- **Run lemma.** -/
theorem chronicle_run (cfg : Config) (clock : ℚ) {es : List HistoryEvent}
    (hes : AllSteps (historyStep cfg) Onward (EventSystem.initial clock) es) :
    Chronicle cfg clock (historyRun cfg clock es) := by
  refine run_guarded (Chronicle cfg clock) ?_ (chronicle_initial cfg clock) hes
  rintro s (now | e) h honward
  · exact chronicle_boot h honward
  · exact chronicle_system h honward

end Chronicle

/-! ## Queries -/

section Queries

variable {rows : List EventRow}

theorem dbRows_length (rows : List EventRow) : (dbRows rows).length = rows.length :=
  List.length_mapIdx

theorem dbRows_getElem? (rows : List EventRow) (i : Nat) :
    (dbRows rows)[i]? =
      (rows[i]?).map fun r => ⟨i + 1, r.eventId, r.triggeredAt, r.eventDir⟩ :=
  List.getElem?_mapIdx

/-- **Sorting turns the table round** when it is in the order of time. -/
theorem newestRows_eq (h : rows.Pairwise fun a b => a.triggeredAt < b.triggeredAt) (limit : Nat) :
    newestRows limit rows = (dbRows rows).reverse.take limit := by
  let newer : DbRow → DbRow → Prop := fun a b => b.triggeredAt ≤ a.triggeredAt
  have hdb : (dbRows rows).Pairwise fun a b => a.triggeredAt < b.triggeredAt := by
    rw [List.pairwise_iff_getElem] at h ⊢
    intro i j hi hj hij
    have hi' : i < rows.length := by rwa [dbRows_length] at hi
    have hj' : j < rows.length := by rwa [dbRows_length] at hj
    simp only [dbRows, List.getElem_mapIdx]
    exact h i j hi' hj' hij
  have hreverse : (dbRows rows).reverse.Pairwise newer := by
    rw [List.pairwise_reverse]
    exact hdb.imp fun hlt => hlt.le
  have htotal : Std.Total newer := ⟨fun a b => le_total b.triggeredAt a.triggeredAt⟩
  have htrans : IsTrans DbRow newer := ⟨fun a b c hab hbc => hbc.trans hab⟩
  have hsorted : ((dbRows rows).insertionSort newer).Pairwise newer :=
    List.pairwise_insertionSort newer _
  have hperm : ((dbRows rows).insertionSort newer).Perm (dbRows rows).reverse :=
    (List.perm_insertionSort newer _).trans (List.reverse_perm _).symm
  have heq : (dbRows rows).insertionSort newer = (dbRows rows).reverse := by
    refine hperm.eq_of_pairwise ?_ hsorted hreverse
    -- two rows of the same time are one row
    intro a b ha hb hab hba
    have ha := (List.mem_insertionSort newer).mp ha
    have hb := List.mem_reverse.mp hb
    by_contra hne
    have hsymm : Std.Symm fun a b : DbRow => a.triggeredAt ≠ b.triggeredAt :=
      ⟨fun _ _ h => h.symm⟩
    have htimes := (hdb.imp fun hlt => hlt.ne).forall ha hb hne
    exact htimes (le_antisymm hba hab)
  exact congrArg (List.take limit) heq

/-- The rows of a query, newest first. -/
theorem newestRows_getElem? (h : rows.Pairwise fun a b => a.triggeredAt < b.triggeredAt)
    {limit k : Nat} {row : DbRow} (hk : (newestRows limit rows)[k]? = some row) :
    k < limit ∧ k < rows.length ∧ ∃ r, rows[rows.length - 1 - k]? = some r ∧
      row = ⟨rows.length - k, r.eventId, r.triggeredAt, r.eventDir⟩ := by
  rw [newestRows_eq h, List.getElem?_take] at hk
  split at hk
  · rename_i hlimit
    have hlt := (List.getElem?_eq_some_iff.mp hk).1
    rw [List.length_reverse, dbRows_length] at hlt
    rw [List.getElem?_reverse (by rwa [dbRows_length]), dbRows_length, dbRows_getElem?] at hk
    obtain ⟨r, hr, rfl⟩ := Option.map_eq_some_iff.mp hk
    refine ⟨hlimit, hlt, r, hr, ?_⟩
    have hid : rows.length - 1 - k + 1 = rows.length - k := by omega
    rw [hid]
  · cases hk

theorem newestRows_length (h : rows.Pairwise fun a b => a.triggeredAt < b.triggeredAt)
    (limit : Nat) : (newestRows limit rows).length = min limit rows.length := by
  rw [newestRows_eq h, List.length_take, List.length_reverse, dbRows_length]

/-- A call that succeeds on every entry succeeds on the list. -/
theorem mapM_of_isSome {α β : Type} {f : α → Option β} {l : List α}
    (h : ∀ a ∈ l, (f a).isSome = true) :
    ∃ bs, l.mapM f = some bs ∧ List.Forall₂ (fun a b => f a = some b) l bs := by
  induction l with
  | nil => exact ⟨[], rfl, .nil⟩
  | cons a l ih =>
      obtain ⟨b, hb⟩ := Option.isSome_iff_exists.mp (h a List.mem_cons_self)
      obtain ⟨bs, hbs, hall⟩ := ih fun x hx => h x (List.mem_cons_of_mem a hx)
      refine ⟨b :: bs, ?_, .cons hb hall⟩
      rw [List.mapM_cons, hb, hbs]
      rfl

end Queries

/-! ## The answer -/

section Answer

variable {cfg : Config} {start : ℚ} {s : EventSystem} {loads : List UInt8 → Option Json}
  {inputData : List UInt8}

/-- The local time of an event is a date: it is at most a second behind the identifier. -/
theorem localTime_isSome {utcOffset : Int} {t : ℚ} {id : String} (hpos : 0 ≤ t)
    (hzone : -86400 < utcOffset) (hid : eventIdOf utcOffset t = some id) :
    (localTime utcOffset t).isSome = true := by
  obtain ⟨d, hd, -⟩ := Option.map_eq_some_iff.mp hid
  obtain ⟨-, -, hsecond⟩ := fromTimestamp_inv hd
  have hfloor : 0 ≤ ⌊t⌋ := Int.floor_nonneg.mpr hpos
  have hround : ⌊t⌋ ≤ roundHalfEven (t * 1000000) / 1000000 := by
    obtain ⟨hlow, -⟩ := roundHalfEven_near (t * 1000000)
    have hle := Int.floor_le t
    have hwhole : (⌊t⌋ : ℚ) * 1000000 - 1 < roundHalfEven (t * 1000000) := by linarith
    have hwhole : ⌊t⌋ * 1000000 - 1 < roundHalfEven (t * 1000000) := by exact_mod_cast hwhole
    omega
  have hepoch : epochDays = 719162 := rfl
  rw [localTime, if_neg (by omega)]
  refine ofSeconds_isSome_of_le ?_ (Option.isSome_iff_exists.mpr ⟨d, hsecond⟩)
  omega

/-- The request names the own vehicle. -/
def Asks (loads : List UInt8 → Option Json) (inputData : List UInt8) : Prop :=
  ∃ vehicleId, requestedId loads inputData = some vehicleId ∧ vehicleId.isNone = false ∧
    isVehicleId vehicleId = true

/-- The request cannot be read, or names no vehicle. -/
def Unreadable (loads : List UInt8 → Option Json) (inputData : List UInt8) : Prop :=
  ∀ vehicleId, requestedId loads inputData = some vehicleId → vehicleId.isNone = true

/-- The `k`-th entry is about the `k`-th event from the end, with its number and its time. -/
def Describes (cfg : Config) (rows : List EventRow) (k : Nat) (a : Accident) : Prop :=
  ∃ r d, rows[rows.length - 1 - k]? = some r ∧ localTime cfg.utcOffset r.triggeredAt = some d ∧
    a = ⟨rows.length - k, timeText d, 1, videoUrl r.eventId⟩

/-- The newest fifty events. -/
def Newest (cfg : Config) (rows : List EventRow) (accidents : List Accident) : Prop :=
  accidents.length = min 50 rows.length ∧
    ∀ (k : Nat) (a : Accident), accidents[k]? = some a → Describes cfg rows k a

/-- **The list** of a table in the order of time. -/
theorem accidentList_eq (h : Chronicle cfg start s) (hstart : 0 ≤ start)
    (hzone : -86400 < cfg.utcOffset) (hne : s.box.rows ≠ []) :
    ∃ accidents, accidentList cfg.utcOffset (newestRows 50 s.box.rows) = ⟨.ok, accidents⟩ ∧
      Newest cfg s.box.rows accidents := by
  have hpos : 0 < s.box.rows.length := List.length_pos_iff.mpr hne
  have hlength := newestRows_length h.ordered 50
  have hsome : ∀ row ∈ newestRows 50 s.box.rows, (accidentOf cfg.utcOffset row).isSome = true := by
    intro row hrow
    obtain ⟨k, hk⟩ := List.mem_iff_getElem?.mp hrow
    obtain ⟨-, -, r, hr, rfl⟩ := newestRows_getElem? h.ordered hk
    obtain ⟨hid, -, hafter⟩ := h.filed r (List.mem_of_getElem? hr)
    rw [accidentOf, Option.isSome_map]
    exact localTime_isSome (hstart.trans hafter) hzone hid
  obtain ⟨accidents, hmap, hall⟩ := mapM_of_isSome hsome
  refine ⟨accidents, ?_, ?_, ?_⟩
  · have hsomething : newestRows 50 s.box.rows ≠ [] := by
      rw [← List.length_pos_iff, hlength]
      omega
    rw [accidentList, if_neg hsomething, hmap]
  · rw [← hall.length_eq, hlength]
  · intro k a hk
    have hlt : k < (newestRows 50 s.box.rows).length := by
      rw [hall.length_eq]
      exact (List.getElem?_eq_some_iff.mp hk).1
    have hrow := List.getElem?_eq_getElem hlt
    obtain ⟨-, -, r, hr, heq⟩ := newestRows_getElem? h.ordered hrow
    have hentry := hall.get hlt (List.getElem?_eq_some_iff.mp hk).1
    rw [List.get_eq_getElem, List.get_eq_getElem, (List.getElem?_eq_some_iff.mp hk).2, heq,
      accidentOf] at hentry
    obtain ⟨d, hd, rfl⟩ := Option.map_eq_some_iff.mp hentry
    exact ⟨r, d, hr, hd, rfl⟩

/-- What a request gets. -/
theorem getRecordList_cases (utcOffset : Int) (queryRaises : Bool) (rows : List EventRow) :
    (Unreadable loads inputData ∧
      getRecordList loads utcOffset queryRaises rows inputData = ⟨.internalError, []⟩) ∨
    (¬ Unreadable loads inputData ∧ ¬ Asks loads inputData ∧
      getRecordList loads utcOffset queryRaises rows inputData = ⟨.empty, []⟩) ∨
    (¬ Unreadable loads inputData ∧ Asks loads inputData ∧
      getRecordList loads utcOffset queryRaises rows inputData =
        queriedList utcOffset (getEvents queryRaises 50 rows)) := by
  rw [getRecordList]
  rcases hid : requestedId loads inputData with _ | vehicleId
  · refine Or.inl ⟨fun v hv => ?_, rfl⟩
    rw [hid] at hv
    cases hv
  · have hown : ∀ v, requestedId loads inputData = some v → vehicleId = v := by
      intro v hv
      rw [hid] at hv
      exact Option.some.inj hv
    dsimp only
    cases hnone : vehicleId.isNone with
    | true => exact Or.inl ⟨fun v hv => hown v hv ▸ hnone, rfl⟩
    | false =>
        have hread : ¬ Unreadable loads inputData := by
          intro h
          rw [h vehicleId hid] at hnone
          cases hnone
        cases hself : isVehicleId vehicleId with
        | true => exact Or.inr (Or.inr ⟨hread, ⟨vehicleId, hid, hnone, hself⟩, rfl⟩)
        | false =>
            refine Or.inr (Or.inl ⟨hread, ?_, rfl⟩)
            rintro ⟨v, hv, -, hyes⟩
            rw [← hown v hv, hself] at hyes
            cases hyes

/-- **THE ACCIDENT LIST**, in every run of the blackbox from an empty table, over any number of
    starts of its program: a request that names the own vehicle gets the newest fifty events, the
    newest first, each with its number, its time and its URL; a request for another vehicle gets
    an empty list; an error is what cannot be read gets, and whoever asks when the query raises. -/
theorem accident_list (cfg : Config) (loads : List UInt8 → Option Json) (clock : ℚ)
    (es : List HistoryEvent) (queryRaises : Bool) (inputData : List UInt8) (hclock : 0 ≤ clock)
    (hzone : -86400 < cfg.utcOffset)
    (hes : AllSteps (historyStep cfg) Onward (EventSystem.initial clock) es) :
    let rows := (historyRun cfg clock es).box.rows
    let answer := getRecordList loads cfg.utcOffset queryRaises rows inputData
    (rows.Pairwise fun a b => a.triggeredAt < b.triggeredAt) ∧
      (answer.result = .internalError ↔
        Unreadable loads inputData ∨ (Asks loads inputData ∧ queryRaises = true)) ∧
      (answer.result = .ok ↔ Asks loads inputData ∧ queryRaises = false ∧ rows ≠ []) ∧
      (answer.result ≠ .ok → answer.accidents = []) ∧
      (answer.result = .ok → Newest cfg rows answer.accidents) := by
  intro rows answer
  have h := chronicle_run cfg clock hes
  have hasks : Asks loads inputData → ¬ Unreadable loads inputData := by
    rintro ⟨v, hv, hnone, -⟩ hunreadable
    rw [hunreadable v hv] at hnone
    cases hnone
  refine ⟨h.ordered, ?_⟩
  rcases @getRecordList_cases loads inputData cfg.utcOffset queryRaises rows with
    ⟨hread, hcase⟩ | ⟨hread, hself, hcase⟩ | ⟨hread, hself, hcase⟩
  · have hanswer : answer = ⟨.internalError, []⟩ := hcase
    rw [hanswer]
    exact ⟨iff_of_true rfl (Or.inl hread),
      iff_of_false (by decide) fun hyes => hasks hyes.1 hread, fun _ => rfl,
      fun hcontra => absurd hcontra (by decide)⟩
  · have hanswer : answer = ⟨.empty, []⟩ := hcase
    rw [hanswer]
    exact ⟨iff_of_false (by decide) (not_or.mpr ⟨hread, fun hyes => hself hyes.1⟩),
      iff_of_false (by decide) fun hyes => hself hyes.1, fun _ => rfl,
      fun hcontra => absurd hcontra (by decide)⟩
  · cases queryRaises with
    | true =>
        have hanswer : answer = ⟨.internalError, []⟩ := hcase
        rw [hanswer]
        exact ⟨iff_of_true rfl (Or.inr ⟨hself, rfl⟩),
          iff_of_false (by decide) fun hyes => Bool.noConfusion hyes.2.1, fun _ => rfl,
          fun hcontra => absurd hcontra (by decide)⟩
    | false =>
        have hquiet : ¬ (Unreadable loads inputData ∨ (Asks loads inputData ∧ false = true)) :=
          not_or.mpr ⟨hread, fun hyes => Bool.noConfusion hyes.2⟩
        by_cases hrows : rows = []
        · have hanswer : answer = ⟨.empty, []⟩ := by
            have hnothing : newestRows 50 rows = [] := by
              rw [hrows]
              rfl
            show getRecordList loads cfg.utcOffset false rows inputData = _
            rw [hcase]
            exact if_pos hnothing
          rw [hanswer]
          exact ⟨iff_of_false (by decide) hquiet,
            iff_of_false (by decide) fun hyes => hyes.2.2 hrows, fun _ => rfl,
            fun hcontra => absurd hcontra (by decide)⟩
        · obtain ⟨accidents, hlist, hnewest⟩ := accidentList_eq h hclock hzone hrows
          have hanswer : answer = ⟨.ok, accidents⟩ := hcase.trans hlist
          rw [hanswer]
          exact ⟨iff_of_false (fun hcontra => by cases hcontra) hquiet,
            iff_of_true rfl ⟨hself, rfl, hrows⟩, fun hcontra => absurd rfl hcontra,
            fun _ => hnewest⟩

/-- Two events, with a new start of the program between them. -/
def restartedHistory : List HistoryEvent :=
  [.system (.trigger 1769904000 ⟨"manual", none, none⟩),
    .system (.begin 0 1769904001 raisesNothing), .system (.finish 0 1769904016 raisesNothing),
    .boot 1769904017,
    .system (.trigger 1769904018 ⟨"manual", none, none⟩),
    .system (.begin 0 1769904019 raisesNothing), .system (.finish 0 1769904034 raisesNothing)]

/-- A request for the own vehicle, whatever its bytes are. -/
def ownRequest : List UInt8 → Option Json := fun _ => some (.obj [("vehicle_id", .num 1)])

/-- The second event comes first. -/
theorem accident_list_restarted :
    (getRecordList ownRequest 32400 false (historyRun allRecorders 0 restartedHistory).box.rows
      [0x7B]).accidents.length = 2 := by
  obtain ⟨-, -, hok, -, hnewest⟩ := accident_list allRecorders ownRequest 0 restartedHistory false
    [0x7B] (by decide) (by decide) (by decide +kernel)
  have hasks : Asks ownRequest [0x7B] := ⟨.num 1, rfl, rfl, rfl⟩
  have hlength : (historyRun allRecorders 0 restartedHistory).box.rows.length = 2 := by
    decide +kernel
  have hrows : (historyRun allRecorders 0 restartedHistory).box.rows ≠ [] := by
    rw [← List.length_pos_iff, hlength]
    decide
  have hcount := (hnewest (hok.mpr ⟨hasks, rfl, hrows⟩)).1
  rw [hlength] at hcount
  exact hcount

end Answer

end AccidentList
