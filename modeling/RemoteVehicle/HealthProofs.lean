import RemoteVehicle.DtcReportProofs
import RemoteVehicle.MediaHealth

/-!
# Trouble codes and status agree with the checks

The monitor writes down what it finds twice: in the status, which data identifiers read, and in
the store, which the trouble code report reads.  Requests come in between, and one of them, the
clear of all codes, changes the store only.

`Verdicts` is what the checks have said: it follows the run beside the monitor (`judge`).

1. **The store.**  A code is active exactly when the last report on it since the last clear was
   of a fault (`active_setActive`, `active_clearActive`).

2. **The status.**  A check is *current* when its status is what was reported last and nothing
   was cleared since.  Then both readings agree.

3. **A round.**  After seven reports in a row without a clear or an exception, every check is
   current but the one that is being made.
-/

namespace Health

open BigEndian DtcReport DtcStore KeyedTable MediaHealth MediaUds Runs

/-! ## Active codes -/

section Active

variable {code c : DtcCode} {now : ℚ} {dtcs : List DtcRow}

/-- The store has the code, with the bit of a fault that is there. -/
def Active (code : DtcCode) (dtcs : List DtcRow) : Prop :=
  ∃ row ∈ dtcs, row.dtcCode = code ∧ DtcActive row

instance (code : DtcCode) (dtcs : List DtcRow) : Decidable (Active code dtcs) :=
  inferInstanceAs (Decidable (∃ row ∈ dtcs, row.dtcCode = code ∧ ¬ _ = _))

theorem set_bit : ∀ b : UInt8,
    (b ||| (DTCStatusBit.testFailed ||| DTCStatusBit.confirmed)) &&&
      DTCStatusBit.testFailed ≠ 0 := by
  rintro ⟨b⟩
  revert b
  decide +kernel

theorem cleared_bit : ∀ b : UInt8,
    b &&& ~~~DTCStatusBit.testFailed &&& DTCStatusBit.testFailed = 0 := by
  rintro ⟨b⟩
  revert b
  decide +kernel

/-- An update of the rows of one code does not touch the others. -/
theorem active_update_other {f : DtcRow → DtcRow} (hf : ∀ r, r.dtcCode = c → (f r).dtcCode = c)
    (hne : code ≠ c) : Active code (update DtcRow.dtcCode c f dtcs) ↔ Active code dtcs := by
  constructor
  · rintro ⟨row, hrow, hcode, hbit⟩
    rcases mem_update.mp hrow with ⟨q, -, hq, rfl⟩ | ⟨hold, -⟩
    · exact absurd (hcode.symm.trans (hf q hq)) hne
    · exact ⟨row, hold, hcode, hbit⟩
  · rintro ⟨row, hrow, hcode, hbit⟩
    refine ⟨row, mem_update.mpr (.inr ⟨hrow, fun h => hne (hcode.symm.trans h)⟩), hcode, hbit⟩

/-- **A fault is reported.** -/
theorem active_setActive (now : ℚ) (c : DtcCode) (dtcs : List DtcRow) :
    Active code (setActive now c dtcs) ↔ code = c ∨ Active code dtcs := by
  rw [setActive]
  rcases hselect : select DtcRow.dtcCode c dtcs with _ | row
  · constructor
    · rintro ⟨r, hr, hcode, hbit⟩
      rcases mem_insert.mp hr with rfl | hold
      · exact Or.inl hcode.symm
      · exact Or.inr ⟨r, hold, hcode, hbit⟩
    · rintro (rfl | ⟨r, hr, hcode, hbit⟩)
      · exact ⟨_, mem_insert.mpr (.inl rfl), rfl, set_bit 0⟩
      · exact ⟨r, mem_insert.mpr (.inr hr), hcode, hbit⟩
  · obtain ⟨hmem, hkey⟩ := mem_of_select hselect
    dsimp only
    by_cases hsame : code = c
    · subst hsame
      refine iff_of_true ?_ (Or.inl rfl)
      split
      · exact ⟨_, mem_update.mpr (.inl ⟨row, hmem, hkey, rfl⟩), hkey, set_bit _⟩
      · rename_i hbit
        exact ⟨_, mem_update.mpr (.inl ⟨row, hmem, hkey, rfl⟩), hkey, hbit⟩
    · rw [or_iff_right hsame]
      split
      · exact active_update_other (fun _ hr => hr) hsame
      · exact active_update_other (fun _ hr => hr) hsame

/-- **A fault is reported gone.** -/
theorem active_clearActive (h : Keyed DtcRow.dtcCode dtcs) (now : ℚ) (c : DtcCode) :
    Active code (clearActive now c dtcs) ↔ code ≠ c ∧ Active code dtcs := by
  rw [clearActive]
  rcases hselect : select DtcRow.dtcCode c dtcs with _ | row
  · have hnone := select_eq_none.mp hselect
    refine ⟨?_, fun hactive => hactive.2⟩
    rintro ⟨r, hr, rfl, hbit⟩
    exact ⟨hnone r hr, r, hr, rfl, hbit⟩
  · obtain ⟨hmem, hkey⟩ := mem_of_select hselect
    dsimp only
    split
    · by_cases hsame : code = c
      · subst hsame
        refine iff_of_false ?_ fun hcontra => hcontra.1 rfl
        rintro ⟨r, hr, hcode, hbit⟩
        rcases mem_update.mp hr with ⟨q, -, -, rfl⟩ | ⟨-, hne⟩
        · exact hbit (cleared_bit q.statusByte)
        · exact hne hcode
      · rw [and_iff_right hsame]
        exact active_update_other (fun _ hr => hr) hsame
    · rename_i hbit
      have hstored : row.statusByte &&& DTCStatusBit.testFailed = 0 := not_not.mp hbit
      refine ⟨?_, fun hactive => hactive.2⟩
      rintro ⟨r, hr, rfl, hfault⟩
      refine ⟨?_, r, hr, rfl, hfault⟩
      rintro rfl
      -- the row with the code is the one that was selected, and it is not active
      rw [h.unique hr hmem hkey.symm] at hfault
      exact hfault hstored

theorem keyed_setActive (h : Keyed DtcRow.dtcCode dtcs) (now : ℚ) (c : DtcCode) :
    Keyed DtcRow.dtcCode (setActive now c dtcs) := by
  rw [setActive]
  rcases hselect : select DtcRow.dtcCode c dtcs with _ | row
  · exact h.insert (select_eq_none.mp hselect)
  · dsimp only
    split
    · exact h.update fun _ hr => hr
    · exact h.update fun _ hr => hr

theorem keyed_clearActive (h : Keyed DtcRow.dtcCode dtcs) (now : ℚ) (c : DtcCode) :
    Keyed DtcRow.dtcCode (clearActive now c dtcs) := by
  rw [clearActive]
  split
  · exact h
  · split
    · exact h.update fun _ hr => hr
    · exact h

end Active

/-! ## Verdicts -/

/-- What the checks have said so far; `streak` counts the reports since the last clear or
    exception. -/
structure Verdicts where
  faulty : Check → Bool
  current : Check → Bool
  streak : Nat

/-- The codes that were stored before; nothing has been looked at. -/
def Verdicts.initial (dtcs : List DtcRow) : Verdicts where
  faulty := fun c => decide (Active (dtcCode c) dtcs)
  current := fun _ => false
  streak := 0

/-- The request clears all codes. -/
def Clears (udsData : List UInt8) : Prop :=
  udsData.head? = some 0x14 ∧ 4 ≤ udsData.length ∧ value ((udsData.drop 1).take 3) = 0xFFFFFF

instance (udsData : List UInt8) : Decidable (Clears udsData) :=
  inferInstanceAs (Decidable (_ ∧ _ ∧ _))

/-- What a step says. -/
def judge (h : Health) (v : Verdicts) : HealthEvent → Verdicts
  | .probe _ =>
      match h.phase with
      | .ready c => { v with current := Function.update v.current c false }
      | .found _ _ => v
  | .report _ raises =>
      match h.phase with
      | .ready _ => v
      | .found c ok =>
          if raises then { v with streak := 0 }
          else
            { faulty := Function.update v.faulty c !ok
              current := Function.update v.current c true
              streak := v.streak + 1 }
  | .request udsData => if Clears udsData then ⟨fun _ => false, fun _ => false, 0⟩ else v

/-- The monitor and what it has said. -/
def judgedStep (p : Health × Verdicts) (e : HealthEvent) : Health × Verdicts :=
  (healthStep p.1 e, judge p.1 p.2 e)

/-- Both after some steps, from the codes of an earlier run on. -/
def judgedRun (dtcs : List DtcRow) (es : List HealthEvent) : Health × Verdicts :=
  run judgedStep (Health.initial dtcs, Verdicts.initial dtcs) es

/-- What the status says about a check. -/
def statusOk (s : SystemStatus) : Check → Bool
  | .eth0 => s.eth0
  | .usb1Camera => s.usb1
  | .usbCamera => s.usb
  | .mic => s.mic
  | .flask => s.flask
  | .someip => s.someip
  | .storage => decide (s.storageUsedPct ≤ storageWarnPct)

/-- The check that comes next, or that is being made. -/
def Phase.check : Phase → Check
  | .ready c => c
  | .found c _ => c

def index : Check → Nat
  | .eth0 => 0
  | .usb1Camera => 1
  | .usbCamera => 2
  | .mic => 3
  | .flask => 4
  | .someip => 5
  | .storage => 6

/-- How many checks have been made since this one, when `next` is next. -/
def distance (next c : Check) : Nat := (index next + 6 - index c) % 7

theorem distance_next {c next : Check} (h : c ≠ next) :
    distance next.next c = distance next c + 1 := by
  cases c <;> cases next <;> first | rfl | exact absurd rfl h

theorem distance_lt (next c : Check) : distance next c < 7 := Nat.mod_lt _ (by decide)

theorem dtcCode_inj {c d : Check} (h : dtcCode c = dtcCode d) : c = d := by
  revert h
  cases c <;> cases d <;> decide

theorem statusOk_update (p : Probes) (s : SystemStatus) (c : Check) :
    statusOk (c.update p s) c = c.ok p := by
  cases c <;> rfl

theorem statusOk_update_other {c d : Check} (h : c ≠ d) (p : Probes) (s : SystemStatus) :
    statusOk (c.update p s) d = statusOk s d := by
  cases c <;> cases d <;> first | rfl | exact absurd rfl h

/-! ## Agreement -/

section Agreement

variable {h : Health} {v : Verdicts}

/-- Store, status and verdicts belong together. -/
structure Agrees (h : Health) (v : Verdicts) : Prop where
  keyed : Keyed DtcRow.dtcCode h.dtcs
  store : ∀ c, Active (dtcCode c) h.dtcs ↔ v.faulty c = true
  found : ∀ c ok, h.phase = .found c ok → statusOk h.status c = ok
  current : ∀ c, v.current c = true → v.faulty c = !statusOk h.status c
  round : ∀ c, distance (Phase.check h.phase) c < v.streak →
    (∀ ok, h.phase ≠ .found c ok) → v.current c = true

theorem agrees_initial {dtcs : List DtcRow} (hkeyed : Keyed DtcRow.dtcCode dtcs) :
    Agrees (Health.initial dtcs) (Verdicts.initial dtcs) where
  keyed := hkeyed
  store := fun c => (decide_eq_true_iff (p := Active (dtcCode c) dtcs)).symm
  found := fun c ok hphase => by cases hphase
  current := fun c hcurrent => by cases hcurrent
  round := fun c hlt => absurd hlt (Nat.not_lt_zero _)

/-- The first half of a check. -/
theorem Agrees.probe (ha : Agrees h v) {c : Check} (hphase : h.phase = .ready c) (p : Probes) :
    Agrees { h with status := c.update p h.status, phase := .found c (c.ok p) }
      { v with current := Function.update v.current c false } where
  keyed := ha.keyed
  store := ha.store
  found := by
    intro d ok hfound
    injection hfound with hd hok
    subst hd hok
    exact statusOk_update p h.status c
  current := by
    intro d hcurrent
    dsimp only at hcurrent ⊢
    by_cases hd : d = c
    · subst hd
      rw [Function.update_self] at hcurrent
      cases hcurrent
    · rw [Function.update_of_ne hd] at hcurrent
      rw [statusOk_update_other (Ne.symm hd)]
      exact ha.current d hcurrent
  round := by
    intro d hlt hnot
    have hd : d ≠ c := fun heq => hnot (c.ok p) (by rw [heq])
    dsimp only
    rw [Function.update_of_ne hd]
    have hcheck : Phase.check h.phase = c := by rw [hphase]; rfl
    refine ha.round d (by rw [hcheck]; exact hlt) fun ok hcontra => ?_
    rw [hphase] at hcontra
    cases hcontra

/-- The second half, when it does not raise. -/
theorem Agrees.report (ha : Agrees h v) {c : Check} {ok : Bool} (hphase : h.phase = .found c ok)
    (now : ℚ) :
    Agrees { h with dtcs := setOrClear now ok (dtcCode c) h.dtcs, phase := .ready c.next }
      { faulty := Function.update v.faulty c !ok
        current := Function.update v.current c true
        streak := v.streak + 1 } where
  keyed := by
    show Keyed DtcRow.dtcCode (setOrClear now ok (dtcCode c) h.dtcs)
    rw [setOrClear]
    split
    · exact keyed_clearActive ha.keyed now (dtcCode c)
    · exact keyed_setActive ha.keyed now (dtcCode c)
  store := by
    intro d
    show Active (dtcCode d) (setOrClear now ok (dtcCode c) h.dtcs) ↔ _
    dsimp only
    by_cases hd : d = c
    · subst hd
      rw [Function.update_self, setOrClear]
      cases ok with
      | true =>
          rw [if_pos rfl, active_clearActive ha.keyed]
          exact iff_of_false (fun hcontra => hcontra.1 rfl) (by decide)
      | false =>
          rw [if_neg Bool.false_ne_true, active_setActive]
          exact iff_of_true (Or.inl rfl) rfl
    · have hcode : dtcCode d ≠ dtcCode c := fun heq => hd (dtcCode_inj heq)
      rw [Function.update_of_ne hd, ← ha.store d, setOrClear]
      cases ok with
      | true =>
          rw [if_pos rfl, active_clearActive ha.keyed]
          exact and_iff_right hcode
      | false =>
          rw [if_neg Bool.false_ne_true, active_setActive]
          exact or_iff_right hcode
  found := fun d ok' hfound => by cases hfound
  current := by
    intro d hcurrent
    dsimp only at hcurrent ⊢
    by_cases hd : d = c
    · subst hd
      rw [Function.update_self, ha.found d ok hphase]
    · rw [Function.update_of_ne hd] at hcurrent ⊢
      exact ha.current d hcurrent
  round := by
    intro d hlt _
    dsimp only
    by_cases hd : d = c
    · rw [hd, Function.update_self]
    · rw [Function.update_of_ne hd]
      have hcheck : Phase.check h.phase = c := by rw [hphase]; rfl
      have hstep : distance c.next d = distance c d + 1 := distance_next hd
      have hlt : distance c.next d < v.streak + 1 := hlt
      refine ha.round d (by rw [hcheck]; omega) fun ok' hcontra => ?_
      rw [hphase] at hcontra
      injection hcontra with hcontra
      exact hd hcontra.symm

/-- What a request does to the store. -/
theorem handle_dtcs (udsData : List UInt8) (status : SystemStatus) (dtcs : List DtcRow) :
    (handle udsData status dtcs).2 = if Clears udsData then [] else dtcs := by
  rcases udsData with _ | ⟨sid, rest⟩
  · exact (if_neg fun hclears => by cases hclears.1).symm
  · by_cases hsid : sid = 0x14
    · subst hsid
      have hclear : (handle (0x14 :: rest) status dtcs).2 = (clearDtc (0x14 :: rest) dtcs).2 := rfl
      rw [hclear, clearDtc]
      split
      · rename_i hshort
        exact (if_neg fun hclears => absurd hclears.2.1 (Nat.not_le.mpr hshort)).symm
      · rename_i hlong
        split
        · rename_i hgroup
          exact (if_neg fun hclears => hgroup hclears.2.2).symm
        · rename_i hgroup
          exact (if_pos ⟨rfl, Nat.not_lt.mp hlong, not_not.mp hgroup⟩).symm
    · have hno : ¬ Clears (sid :: rest) := fun hclears => hsid (Option.some.inj hclears.1)
      rw [if_neg hno, handle]
      split_ifs <;> rfl

/-- **Step lemma.** -/
theorem agrees_step {p : Health × Verdicts} (ha : Agrees p.1 p.2) (e : HealthEvent) :
    Agrees (judgedStep p e).1 (judgedStep p e).2 := by
  obtain ⟨h, v⟩ := p
  cases e with
  | probe q =>
      rw [judgedStep, healthStep, judge]
      rcases hphase : h.phase with c | ⟨c, ok⟩
      · exact ha.probe hphase q
      · exact ha
  | report now raises =>
      rw [judgedStep, healthStep, judge]
      rcases hphase : h.phase with c | ⟨c, ok⟩
      · exact ha
      · cases raises with
        | true =>
            refine ⟨ha.keyed, ha.store, fun d ok' hfound => ?_, ha.current,
              fun d hlt => absurd hlt (Nat.not_lt_zero _)⟩
            cases hfound
        | false => exact ha.report hphase now
  | request udsData =>
      have hdtcs := handle_dtcs udsData h.status h.dtcs
      rw [judgedStep, healthStep, judge]
      by_cases hclears : Clears udsData
      · rw [if_pos hclears] at hdtcs ⊢
        refine ⟨?_, fun c => ?_, ha.found, fun c hcurrent => ?_,
          fun c hlt => absurd hlt (Nat.not_lt_zero _)⟩
        · show Keyed DtcRow.dtcCode (handle udsData h.status h.dtcs).2
          rw [hdtcs]
          exact keyed_nil
        · show Active (dtcCode c) (handle udsData h.status h.dtcs).2 ↔ _
          rw [hdtcs]
          refine iff_of_false ?_ Bool.false_ne_true
          rintro ⟨row, hrow, -⟩
          cases hrow
        · cases hcurrent
      · rw [if_neg hclears] at hdtcs ⊢
        refine ⟨?_, fun c => ?_, ha.found, ha.current, ha.round⟩
        · show Keyed DtcRow.dtcCode (handle udsData h.status h.dtcs).2
          rw [hdtcs]
          exact ha.keyed
        · show Active (dtcCode c) (handle udsData h.status h.dtcs).2 ↔ _
          rw [hdtcs]
          exact ha.store c

/-- **Run lemma.** -/
theorem agrees_run {dtcs : List DtcRow} (hkeyed : Keyed DtcRow.dtcCode dtcs)
    (es : List HealthEvent) : Agrees (judgedRun dtcs es).1 (judgedRun dtcs es).2 :=
  run_invariant (fun p : Health × Verdicts => Agrees p.1 p.2) (fun _ e ha => agrees_step ha e)
    (agrees_initial hkeyed) es

/-! ## What a tester reads -/

/-- The report of active codes names a code. -/
def Reports (code : DtcCode) (resp : List UInt8) : Prop :=
  ∃ status, (code.val, status) ∈ parseDtc resp

theorem reports_iff (code : DtcCode) (status : SystemStatus) (dtcs : List DtcRow) :
    Reports code (handle [0x19, 0x02, 0x01] status dtcs).1 ↔ Active code dtcs := by
  have hresp : (handle [0x19, 0x02, 0x01] status dtcs).1 =
      0x59 :: 0x02 :: 0xFF :: (query 0x01 dtcs).flatMap dtcRecord := rdtc_eq 0x19 0x01 [] dtcs
  have hparse : parseDtc (handle [0x19, 0x02, 0x01] status dtcs).1 =
      (query 0x01 dtcs).map view := by
    rw [hresp]
    exact parseRecords_flatMap (query 0x01 dtcs)
  have hmem : ∀ row, row ∈ query 0x01 dtcs ↔ row ∈ dtcs ∧ DtcActive row := by
    intro row
    rw [(query_perm 0x01 dtcs).mem_iff, List.mem_filter, decide_eq_true_iff]
    rfl
  rw [Reports, hparse]
  constructor
  · rintro ⟨byte, hrecord⟩
    obtain ⟨row, hrow, heq⟩ := List.mem_map.mp hrecord
    obtain ⟨hold, hbit⟩ := (hmem row).mp hrow
    exact ⟨row, hold, Fin.ext (congrArg Prod.fst heq), hbit⟩
  · rintro ⟨row, hrow, rfl, hbit⟩
    exact ⟨row.statusByte, List.mem_map.mpr ⟨row, (hmem row).mpr ⟨hrow, hbit⟩, rfl⟩⟩

/-- The response with the status of a check. -/
def flagResponse (c : Check) (ok : Bool) : List UInt8 :=
  0x62 :: (digits 2 (dataIdentifier c) ++ [if ok then 1 else 0])

theorem handle_identifier (c : Check) (hc : c ≠ .storage) (status : SystemStatus)
    (dtcs : List DtcRow) :
    (handle (0x22 :: digits 2 (dataIdentifier c)) status dtcs).1 =
      flagResponse c (statusOk status c) := by
  cases c with
  | storage => exact absurd rfl hc
  | _ => rfl

/-- **BOTH READINGS OF A FAULT AGREE**, in every run of the monitor and the UDS server, from
    whatever codes were stored before.  The report of active codes names the code of a check
    exactly when the last report of that check since the last clear was of a fault.  Where a
    check is current, the data identifier says the same, and the disk is fuller than ninety per
    cent exactly when its code is active.  After seven reports in a row without a clear or an
    exception, every check but the one that is being made is current. -/
theorem diagnosis_agrees (dtcs : List DtcRow) (es : List HealthEvent)
    (hkeyed : Keyed DtcRow.dtcCode dtcs) :
    let h := (judgedRun dtcs es).1
    let v := (judgedRun dtcs es).2
    ∀ c,
      (Reports (dtcCode c) (handle [0x19, 0x02, 0x01] h.status h.dtcs).1 ↔ v.faulty c = true) ∧
      (v.current c = true → c ≠ .storage →
        (handle (0x22 :: digits 2 (dataIdentifier c)) h.status h.dtcs).1 =
          flagResponse c (!v.faulty c)) ∧
      (v.current .storage = true →
        (v.faulty .storage = true ↔ storageWarnPct < h.status.storageUsedPct)) ∧
      (7 ≤ v.streak → (∀ ok, h.phase ≠ .found c ok) → v.current c = true) := by
  intro h v c
  have ha := agrees_run hkeyed es
  refine ⟨(reports_iff (dtcCode c) h.status h.dtcs).trans (ha.store c), ?_, ?_, ?_⟩
  · intro hcurrent hc
    have hfaulty : v.faulty c = !statusOk h.status c := ha.current c hcurrent
    rw [handle_identifier c hc, hfaulty, Bool.not_not]
  · intro hcurrent
    have hfaulty : v.faulty .storage = !decide (h.status.storageUsedPct ≤ storageWarnPct) :=
      ha.current .storage hcurrent
    rw [hfaulty, Bool.not_eq_true', decide_eq_false_iff_not, not_le]
  · intro hstreak hnot
    exact ha.round c (lt_of_lt_of_le (distance_lt _ c) hstreak) hnot

/-- The rear camera fails, its code is cleared, and comes back with the next report. -/
def clearedRun : List HealthEvent :=
  let p : Probes := ⟨some ['u', 'p', '\n'], ⟨some (some true), true, true⟩, ⟨none, false, false⟩,
    [(true, true)], some true, some [], some (9, 10)⟩
  [.probe p, .report 1 false, .probe p, .report 2 false, .probe p, .report 3 false,
    .request [0x14, 0xFF, 0xFF, 0xFF], .probe p, .report 4 false, .probe p, .report 5 false,
    .probe p, .report 6 false, .probe p, .report 7 false, .probe p, .report 8 false,
    .probe p, .report 9 false, .probe p, .report 10 false]

/-- After the clear a whole round has passed. -/
theorem diagnosis_agrees_cleared :
    (judgedRun [] clearedRun).2.streak = 7 ∧
      Reports (dtcCode .usbCamera) (handle [0x19, 0x02, 0x01] (judgedRun [] clearedRun).1.status
        (judgedRun [] clearedRun).1.dtcs).1 := by
  obtain ⟨hreports, -, -, -⟩ := diagnosis_agrees [] clearedRun keyed_nil .usbCamera
  exact ⟨by decide +kernel, hreports.mpr (by decide +kernel)⟩

end Agreement

end Health
