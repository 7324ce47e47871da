import RemoteVehicle.FullScanProofs
import RemoteVehicle.PcPreDrive

/-!
# What READY means on the pre-drive page

The page shows READY or CHECK when a diagnosis has ended.  `notedRun` notes beside the page which
scan has arrived last and how the tests of the last diagnosis were answered, and `Noted` says that
the page is what they make of it: the cards are those of the last scan that arrived, also when a
later one did not, and the rows of the tests are those of the last diagnosis.

So READY counts the codes of MAIN and MEDIA only, `Codeless` cards have none; and a diagnosis whose
scan has failed runs no test and passes.
-/

namespace PreDrive

open Runs Dialogue PcDiagnostics PcFullScan PcPreDrive MainState MainDcm VehicleServers
open FullScanTruth

/-! ## What has come of the diagnoses -/

/-- The last scan that has arrived, whether the fetch of the last diagnosis' scan has failed, and
    the replies to its tests. -/
structure Notes where
  scan : Option FullScan
  scanFailed : Bool
  replies : List TestReply

/-- What an event adds. -/
def note (p : Page) (n : Notes) : PageEvent → Notes
  | .run => if p.running then n else { n with scanFailed := false, replies := [] }
  | .scanReply reply =>
      match p.await with
      | .scan =>
          match reply with
          | .failed => { n with scanFailed := true }
          | .data scan => { n with scan := some scan }
      | _ => n
  | .testReply reply =>
      match p.await with
      | .test _ _ => { n with replies := n.replies ++ [reply] }
      | _ => n

def notedStep (q : Page × Notes) (e : PageEvent) : Page × Notes :=
  (pageStep q.1 e, note q.1 q.2 e)

def notedRun (es : List PageEvent) : Page × Notes :=
  run notedStep (Page.initial, ⟨none, false, []⟩) es

/-! ## The rows of the tests -/

def idleRow (test : FunctionTest) : TestResult := ⟨test, "대기", .idle⟩

def runningRow (test : FunctionTest) : TestResult := ⟨test, "실행 중", .running⟩

def outcomeRow (test : FunctionTest) (reply : TestReply) : TestResult where
  test := test
  status := if resultOk reply then "성공" else "실패"
  tone := if resultOk reply then .success else .fail

/-- The rows of the tests that are done. -/
def outcomes (done : List FunctionTest) (replies : List TestReply) : List TestResult :=
  List.zipWith outcomeRow done replies

/-- The identifier of a test is its own. -/
theorem functionTests_nodup : (functionTests.map (·.id)).Nodup := by decide

section Rows

variable {done rest : List FunctionTest} {test : FunctionTest} {replies : List TestReply}

theorem mem_outcomes {r : TestResult} (h : r ∈ outcomes done replies) : r.test ∈ done := by
  induction done generalizing replies with
  | nil => cases h
  | cons t done ih =>
      cases replies with
      | nil => cases h
      | cons reply replies =>
          rcases List.mem_cons.mp h with rfl | h
          · exact List.mem_cons_self
          · exact List.mem_cons_of_mem t (ih h)

/-- The rows of other tests stay as they are. -/
theorem updateTest_other {id : String} {rows : List TestResult} (h : ∀ r ∈ rows, r.test.id ≠ id)
    (status : String) (tone : TestTone) : updateTest id status tone rows = rows := by
  have hsame : ∀ r ∈ rows,
      (if r.test.id = id then { r with status := status, tone := tone } else r) = r :=
    fun r hr => if_neg (h r hr)
  rw [updateTest, List.map_congr_left hsame, List.map_id']

/-- **An update** changes the row of its test. -/
theorem updateTest_split (hsplit : functionTests = done ++ test :: rest) (status : String)
    (tone : TestTone) (row : TestResult) (hrow : row.test = test) :
    updateTest test.id status tone (outcomes done replies ++ row :: rest.map idleRow) =
      outcomes done replies ++ ⟨test, status, tone⟩ :: rest.map idleRow := by
  have hnodup := functionTests_nodup
  rw [hsplit, List.map_append, List.map_cons, List.nodup_append] at hnodup
  obtain ⟨-, hlast, hapart⟩ := hnodup
  have hdone : ∀ r ∈ outcomes done replies, r.test.id ≠ test.id := fun r hr =>
    hapart r.test.id (List.mem_map.mpr ⟨r.test, mem_outcomes hr, rfl⟩) test.id List.mem_cons_self
  have hrest : ∀ r ∈ rest.map idleRow, r.test.id ≠ test.id := by
    intro r hr
    obtain ⟨t, ht, rfl⟩ := List.mem_map.mp hr
    intro hsame
    exact (List.nodup_cons.mp hlast).1 (hsame ▸ List.mem_map.mpr ⟨t, ht, rfl⟩)
  have happend : ∀ A B, updateTest test.id status tone (A ++ row :: B) =
      updateTest test.id status tone A ++ ⟨test, status, tone⟩ ::
        updateTest test.id status tone B := by
    intro A B
    rw [updateTest, List.map_append, List.map_cons, if_pos (congrArg FunctionTest.id hrow), hrow]
    rfl
  rw [happend, updateTest_other hdone, updateTest_other hrest]

/-- No row of a test that is done is of a failure exactly if all replies are positive. -/
theorem countP_outcomes (hlen : done.length = replies.length) :
    (outcomes done replies).countP (·.tone == .fail) = 0 ↔ ∀ r ∈ replies, resultOk r = true := by
  induction done generalizing replies with
  | nil =>
      obtain rfl := List.length_eq_zero_iff.mp hlen.symm
      exact ⟨fun _ r hr => absurd hr List.not_mem_nil, fun _ => rfl⟩
  | cons t done ih =>
      cases replies with
      | nil => cases hlen
      | cons reply replies =>
          have htail := ih (Nat.succ.inj hlen)
          rw [outcomes, List.zipWith_cons_cons, List.countP_cons, List.forall_mem_cons, ← htail,
            Nat.add_eq_zero_iff, and_comm]
          refine and_congr_left fun _ => ?_
          cases hreply : resultOk reply <;> simp [outcomeRow, hreply]

/-! ## The page is what the notes make of it -/

/-- The rows where the diagnosis waits. -/
def RowsNoted (replies : List TestReply) (rows : List TestResult) : Await → Prop
  | .idle => ∃ done rest, functionTests = done ++ rest ∧ done.length = replies.length ∧
      rows = outcomes done replies ++ rest.map idleRow
  | .scan => replies = [] ∧ rows = functionTests.map idleRow
  | .test test rest => ∃ done, functionTests = done ++ test :: rest ∧
      done.length = replies.length ∧ rows = outcomes done replies ++ runningRow test ::
        rest.map idleRow

/-- The loop goes on with the rows of the tests that are done. -/
theorem rowsNoted_nextTest (p : Page) (done : List FunctionTest)
    (hsplit : functionTests = done ++ rest)
    (hlen : done.length = replies.length)
    (hrows : p.testResults = outcomes done replies ++ rest.map idleRow) :
    RowsNoted replies (nextTest p rest).testResults (nextTest p rest).await := by
  cases rest with
  | nil => exact ⟨done, [], hsplit, hlen, hrows⟩
  | cons test rest =>
      refine ⟨done, hsplit, hlen, ?_⟩
      show updateTest test.id "실행 중" .running p.testResults = _
      rw [hrows]
      exact updateTest_split hsplit _ _ (idleRow test) rfl

end Rows

/-- The tests of a diagnosis that has ended: all were answered, or none since its scan failed. -/
def Concluded (n : Notes) : Prop :=
  (n.scanFailed = false ∧ n.replies.length = 5) ∨ (n.scanFailed = true ∧ n.replies = [])

/-- What holds of the page and the notes. -/
structure Noted (p : Page) (n : Notes) : Prop where
  ecus : p.ecus = n.scan.elim initialEcus buildEcusFromScan
  running : p.running = true ↔ p.await ≠ .idle
  completed : p.completed = true → p.await = .idle ∧ Concluded n
  pending : p.await ≠ .idle → n.scanFailed = false
  rows : RowsNoted n.replies p.testResults p.await

theorem noted_initial : Noted Page.initial ⟨none, false, []⟩ :=
  ⟨rfl, by decide, fun h => absurd h Bool.false_ne_true, fun h => absurd rfl h, [], functionTests,
    rfl, rfl, rfl⟩

/-- What `nextTest` does to the other fields; it ends the diagnosis when no test is left. -/
theorem nextTest_fields (p : Page) (rest : List FunctionTest) (hp : p.running = true)
    (hcompleted : p.completed = false) :
    (nextTest p rest).ecus = p.ecus ∧
      ((nextTest p rest).running = true ↔ (nextTest p rest).await ≠ .idle) ∧
      ((nextTest p rest).completed = true → (nextTest p rest).await = .idle ∧ rest = []) := by
  cases rest with
  | nil =>
      exact ⟨rfl, ⟨fun h => absurd h Bool.false_ne_true, fun h => absurd rfl h⟩,
        fun _ => ⟨rfl, rfl⟩⟩
  | cons test rest =>
      refine ⟨rfl, ⟨fun _ h => Await.noConfusion h, fun _ => hp⟩, fun h => ?_⟩
      exact absurd (hcompleted ▸ h) Bool.false_ne_true

/-- **Step lemma.** -/
theorem noted_step {p : Page} {n : Notes} (h : Noted p n) (e : PageEvent) :
    Noted (pageStep p e) (note p n e) := by
  have hnot : p.await ≠ .idle → p.running = true ∧ p.completed = false := fun hne =>
    ⟨h.running.mpr hne, Bool.eq_false_of_not_eq_true fun hc => hne (h.completed hc).1⟩
  cases e with
  | run =>
      rw [pageStep, note]
      split
      · exact h
      · refine ⟨h.ecus, ⟨fun _ hidle => Await.noConfusion hidle, fun _ => rfl⟩,
          fun hc => absurd hc Bool.false_ne_true, fun _ => rfl, rfl, rfl⟩
  | scanReply reply =>
      rcases hawait : p.await with _ | _ | ⟨test, rest⟩ <;> simp only [pageStep, note, hawait]
      · exact h
      · obtain ⟨hrunning, hcompleted⟩ := hnot (by rw [hawait]; exact Await.noConfusion)
        have hfresh := h.pending (by rw [hawait]; exact Await.noConfusion)
        have hrows := h.rows
        rw [hawait] at hrows
        obtain ⟨hreplies, hrows⟩ := hrows
        cases reply with
        | failed =>
            refine ⟨h.ecus, ⟨fun hr => absurd hr Bool.false_ne_true, fun hne => absurd rfl hne⟩,
              fun _ => ⟨rfl, Or.inr ⟨rfl, hreplies⟩⟩, fun hne => absurd rfl hne, [],
              functionTests, rfl, ?_, ?_⟩
            · rw [hreplies]
              rfl
            · rw [hreplies]
              exact hrows
        | data scan =>
            obtain ⟨hecus, hrun, hdone⟩ := nextTest_fields
              { p with ecus := buildEcusFromScan scan } functionTests hrunning hcompleted
            refine ⟨hecus, hrun, fun hc => absurd (hdone hc).2 (List.cons_ne_nil _ _),
              fun _ => hfresh, ?_⟩
            refine rowsNoted_nextTest _ [] rfl ?_ ?_
            · rw [hreplies]
              rfl
            · exact hrows
      · exact h
  | testReply reply =>
      rcases hawait : p.await with _ | _ | ⟨test, rest⟩ <;> simp only [pageStep, note, hawait]
      · exact h
      · exact h
      · obtain ⟨hrunning, hcompleted⟩ := hnot (by rw [hawait]; exact Await.noConfusion)
        have hrows := h.rows
        rw [hawait] at hrows
        obtain ⟨done, hsplit, hlen, hrows⟩ := hrows
        obtain ⟨hecus, hrun, hdone⟩ := nextTest_fields
          { p with
            testResults := updateTest test.id (if resultOk reply then "성공" else "실패")
              (if resultOk reply then .success else .fail) p.testResults } rest hrunning hcompleted
        refine ⟨hecus.trans h.ecus, hrun, fun hc => ?_,
          fun _ => h.pending (by rw [hawait]; exact Await.noConfusion), ?_⟩
        · -- the reply to the last test ends the diagnosis
          obtain ⟨hidle, rfl⟩ := hdone hc
          refine ⟨hidle, Or.inl ⟨h.pending (by rw [hawait]; exact Await.noConfusion), ?_⟩⟩
          have hfive := congrArg List.length hsplit
          rw [List.length_append, hlen] at hfive
          rw [List.length_append]
          exact hfive.symm
        refine rowsNoted_nextTest _ (done ++ [test]) ?_ ?_ ?_
        · rw [hsplit, List.append_assoc]
          rfl
        · rw [List.length_append, List.length_append, hlen]
          rfl
        · have hzip : outcomes (done ++ [test]) (n.replies ++ [reply]) =
              outcomes done n.replies ++ [outcomeRow test reply] := List.zipWith_append hlen
          show updateTest test.id _ _ p.testResults = _
          rw [hrows, hzip, List.append_assoc]
          exact updateTest_split hsplit _ _ (runningRow test) rfl

/-- **Run lemma.** -/
theorem noted_run (es : List PageEvent) : Noted (notedRun es).1 (notedRun es).2 :=
  run_invariant (fun q : Page × Notes => Noted q.1 q.2) (fun _ e h => noted_step h e)
    noted_initial es

/-! ## Codes on the cards -/

theorem buildMainCard_dtcs (r : Except Raised SectionResult) :
    (buildMainCard r).dtcs = shown r := by
  cases r <;> rfl

theorem buildMediaCard_dtcs (r : Except Raised SectionResult) :
    (buildMediaCard r).dtcs = shown r := by
  cases r <;> rfl

/-- The card of an ECU behind MAIN has no codes and is offline. -/
structure CodelessCard (card : Card) : Prop where
  dtcs : card.dtcs = []
  state : card.state = .offline

section Cards

variable {W : Type} [Preorder W] {state : W → Vehicle} {fails : Node → Prop}

/-- **Whatever the backend has found**, the card of an ECU behind MAIN has no codes. -/
theorem routed_codeless {w w' : W} {scan : FullScan} (h : ScanTruth state fails w w' scan)
    (wanted : EcuEntry → Bool) (fallback : Card) :
    CodelessCard (buildRoutedEcuCard ((routedEcus scan.mainEcus).find? wanted) fallback) := by
  have hentries : ∀ entry ∈ routedEcus scan.mainEcus,
      entry.state = .offline ∧ entry.dtcs.items = [] := by
    have hecus := h.ecus
    rcases hscan : scan.mainEcus with e | r
    · exact fun entry hentry => absurd hentry List.not_mem_nil
    · rw [hscan] at hecus
      exact codeless_entries hecus
  rcases hfind : (routedEcus scan.mainEcus).find? wanted with _ | entry
  · exact ⟨rfl, rfl⟩
  · obtain ⟨hstate, hitems⟩ := hentries entry (List.mem_of_find?_eq_some hfind)
    exact ⟨hitems, congrArg ecuState hstate⟩

/-- No active code on the cards of a scan: those of MAIN and MEDIA decide. -/
theorem cards_inactive {w w' : W} {scan : FullScan} (h : ScanTruth state fails w w' scan) :
    (∀ card ∈ buildEcusFromScan scan, ∀ item ∈ card.dtcs, item.active = false) ↔
      (∀ item ∈ shown scan.media, item.active = false) ∧
        ∀ item ∈ shown scan.mainRouting, item.active = false := by
  have hact := routed_codeless h (fun ecu => ecu.id == "act") initialAct
  have hbody := routed_codeless h (fun ecu => ecu.id == "body") initialBody
  simp only [buildEcusFromScan, List.forall_mem_cons, List.not_mem_nil, IsEmpty.forall_iff,
    implies_true, and_true, buildMainCard_dtcs, buildMediaCard_dtcs, hact.dtcs, hbody.dtcs,
    true_and]
  exact and_comm

end Cards

/-- Nothing active is counted exactly if no code on a card is active. -/
theorem activeDtcCount_eq_zero (p : Page) :
    activeDtcCount p = 0 ↔ ∀ card ∈ p.ecus, ∀ item ∈ card.dtcs, item.active = false := by
  rw [activeDtcCount, List.countP_eq_zero]
  simp only [List.mem_flatMap, Bool.not_eq_true]
  constructor
  · intro h card hcard item hitem
    exact h item ⟨card, hcard, hitem⟩
  · rintro h item ⟨card, hcard, hitem⟩
    exact h card hcard item hitem

/-- A row of MEDIA's store is listed if it is active. -/
theorem media_inactive {dtcs : List MediaUds.DtcRow}
    (h : ∀ item ∈ mediaCodes dtcs, item.active = false) :
    ∀ row ∈ dtcs, ¬ DtcStore.DtcActive row := by
  intro row hrow hactive
  have hbits : row.statusByte &&& 0xFF ≠ 0 := by
    intro hzero
    have hall : row.statusByte &&& 0xFF = row.statusByte := UInt8.and_neg_one
    rw [hall] at hzero
    exact hactive (by rw [hzero]; rfl)
  have hlisted : row ∈ MediaUds.query 0xFF dtcs :=
    (DtcReport.query_perm 0xFF dtcs).mem_iff.mpr (List.mem_filter.mpr ⟨hrow, decide_eq_true hbits⟩)
  have hitem := h _ (List.mem_map.mpr ⟨row, hlisted, rfl⟩)
  exact hactive (not_not.mp (of_decide_eq_false hitem))

/-- None of MAIN's codes is of a loss that is going on. -/
def NoLoss (d : Dcm) : Prop := ∀ c ∈ [d.act, d.body, d.pc], c.status &&& dtcStatusTestFailed = 0

theorem main_inactive {d : Dcm} (h : ∀ item ∈ mainCodes d, item.active = false) : NoLoss d := by
  have hcode : ∀ code status, (code, status) ∈ [(0xC40000, d.act.status), (0xC40100, d.body.status),
      (0xC40200, d.pc.status)] → status &&& dtcStatusTestFailed = 0 := by
    intro code status hmem
    by_cases hzero : status = 0
    · rw [hzero]
      rfl
    · have hlisted : shownCode code status ∈ mainCodes d :=
        List.mem_map.mpr ⟨(code, status), List.mem_filter.mpr ⟨hmem, decide_eq_true hzero⟩, rfl⟩
      exact not_not.mp (of_decide_eq_false (h _ hlisted))
  intro c hc
  simp only [List.mem_cons, List.not_mem_nil, or_false] at hc
  rcases hc with rfl | rfl | rfl
  · exact hcode 0xC40000 _ (by simp)
  · exact hcode 0xC40100 _ (by simp)
  · exact hcode 0xC40200 _ (by simp)

/-! ## Main result -/

/-- READY is shown when a diagnosis has ended and nothing is counted. -/
theorem ready_iff (p : Page) : diagnosisSummary p = .ready ↔
    p.running = false ∧ p.completed = true ∧ failedTestCount p = 0 ∧ activeDtcCount p = 0 := by
  rw [diagnosisSummary]
  split_ifs with hrunning hcompleted hcheck
  · exact iff_of_false (fun h => nomatch h) fun h => absurd (hrunning.symm.trans h.1) (by decide)
  · refine iff_of_false (fun h => nomatch h) fun h => ?_
    omega
  · refine iff_of_true rfl ⟨Bool.eq_false_of_not_eq_true hrunning, hcompleted, ?_, ?_⟩ <;> omega
  · exact iff_of_false (fun h => nomatch h) fun h => hcompleted h.2.1

section Ready

variable {W : Type} [Preorder W] {state : W → Vehicle} {fails : Node → Prop}

/-- The scan is one that the backend has made. -/
def Made (clients : Clients W) (scan : FullScan) : Prop :=
  ∃ w w', runFullScan clients w = (.ok scan, w')

theorem Made.truth {clients : Clients W} (hlinked : ∀ n, Linked state fails n (client clients n))
    {scan : FullScan} (h : Made clients scan) :
    ∃ w w', runFullScan clients w = (.ok scan, w') ∧ ScanTruth state fails w w' scan := by
  obtain ⟨w, w', hrun⟩ := h
  exact ⟨w, w', hrun, ((runFullScan_ends hlinked w).ended hrun).2⟩

/-- The scan that is noted is the one that has just arrived, or the one before. -/
theorem note_scan (p : Page) (n : Notes) (e : PageEvent) :
    (note p n e).scan = n.scan ∨
      ∃ scan, e = .scanReply (.data scan) ∧ (note p n e).scan = some scan := by
  cases e with
  | run =>
      rw [note]
      split <;> exact Or.inl rfl
  | scanReply reply =>
      rw [note.eq_def]
      rcases p.await with _ | _ | ⟨test, rest⟩
      · exact Or.inl rfl
      · cases reply with
        | failed => exact Or.inl rfl
        | data scan => exact Or.inr ⟨scan, rfl, rfl⟩
      · exact Or.inl rfl
  | testReply reply =>
      rw [note.eq_def]
      rcases p.await with _ | _ | ⟨test, rest⟩ <;> exact Or.inl rfl

theorem scan_mem (es : List PageEvent) {scan : FullScan}
    (h : (notedRun es).2.scan = some scan) : .scanReply (.data scan) ∈ es := by
  induction es using List.reverseRecOn with
  | nil => cases h
  | append_singleton es e ih =>
      rw [notedRun, run_snoc] at h
      rcases note_scan (notedRun es).1 (notedRun es).2 e with hsame | ⟨scan', rfl, hnew⟩
      · exact List.mem_append_left _ (ih (hsame.symm.trans h))
      · obtain rfl : scan' = scan := Option.some.inj (hnew.symm.trans h)
        exact List.mem_append_right _ List.mem_cons_self

/-- Where no diagnosis is under way, no test has failed exactly if all replies are positive. -/
theorem Noted.idle {p : Page} {n : Notes} (h : Noted p n) (hidle : p.await = .idle) :
    failedTestCount p = 0 ↔ ∀ r ∈ n.replies, resultOk r = true := by
  have hrows := h.rows
  rw [hidle] at hrows
  obtain ⟨done, rest, -, hlen, hrows⟩ := hrows
  have hrest : (rest.map idleRow).countP (·.tone == .fail) = 0 := by
    rw [List.countP_eq_zero]
    intro r hr
    obtain ⟨t, -, rfl⟩ := List.mem_map.mp hr
    exact Bool.false_ne_true
  rw [failedTestCount, hrows, List.countP_append, hrest, Nat.add_zero]
  exact countP_outcomes hlen

/-- No code counts as active exactly if the last scan shows none of MAIN and MEDIA. -/
theorem Noted.active {p : Page} {n : Notes} (h : Noted p n)
    (htruth : ∀ scan, n.scan = some scan → ∃ w w', ScanTruth state fails w w' scan) :
    activeDtcCount p = 0 ↔ ∀ scan, n.scan = some scan →
      (∀ item ∈ shown scan.media, item.active = false) ∧
        ∀ item ∈ shown scan.mainRouting, item.active = false := by
  rw [activeDtcCount_eq_zero, h.ecus]
  rcases hscan : n.scan with _ | scan
  · refine iff_of_true ?_ fun scan hcontra => absurd hcontra.symm (Option.some_ne_none scan)
    decide
  · obtain ⟨w, w', hscanned⟩ := htruth scan hscan
    rw [show (some scan).elim initialEcus buildEcusFromScan = buildEcusFromScan scan from rfl,
      cards_inactive hscanned]
    constructor
    · rintro hinactive _ ⟨⟩
      exact hinactive
    · exact fun hall => hall scan rfl

/-- READY takes a diagnosis that has ended, passed tests and no active code. -/
theorem Noted.ready {p : Page} {n : Notes} (h : Noted p n) :
    diagnosisSummary p = .ready ↔ p.completed = true ∧ (∀ r ∈ n.replies, resultOk r = true) ∧
      activeDtcCount p = 0 := by
  rw [ready_iff]
  constructor
  · rintro ⟨-, hcompleted, hfailed, hactive⟩
    exact ⟨hcompleted, (h.idle (h.completed hcompleted).1).mp hfailed, hactive⟩
  · rintro ⟨hcompleted, hpassed, hactive⟩
    have hidle := (h.completed hcompleted).1
    refine ⟨Bool.eq_false_of_not_eq_true fun hr => h.running.mp hr hidle, hcompleted, ?_, hactive⟩
    exact (h.idle hidle).mpr hpassed

/-- The cards of ACT and BODY never show a code. -/
theorem Noted.codeless {p : Page} {n : Notes} (h : Noted p n)
    (htruth : ∀ scan, n.scan = some scan → ∃ w w', ScanTruth state fails w w' scan) {card : Card}
    (hcard : card ∈ p.ecus) (hid : card.id = "act" ∨ card.id = "body") :
    card.dtcs = [] ∧ (card.state = .standby ∨ card.state = .offline) := by
  rw [h.ecus] at hcard
  rcases hscan : n.scan with _ | scan <;> rw [hscan] at hcard
  · have hinitial : ∀ card ∈ initialEcus, card.dtcs = [] ∧ card.state = .standby := by decide
    exact ⟨(hinitial card hcard).1, Or.inl (hinitial card hcard).2⟩
  · obtain ⟨w, w', hscanned⟩ := htruth scan hscan
    have hact := routed_codeless hscanned (fun ecu => ecu.id == "act") initialAct
    have hbody := routed_codeless hscanned (fun ecu => ecu.id == "body") initialBody
    have hcard : card ∈ buildEcusFromScan scan := hcard
    simp only [buildEcusFromScan, List.mem_cons, List.not_mem_nil, or_false] at hcard
    have hmainId : ∀ r, (buildMainCard r).id = "main" := fun r => by cases r <;> rfl
    have hmediaId : ∀ r, (buildMediaCard r).id = "media" := fun r => by cases r <;> rfl
    rcases hcard with rfl | rfl | rfl | rfl
    · rw [hmainId] at hid
      exact absurd hid (by decide)
    · exact ⟨hact.dtcs, Or.inr hact.state⟩
    · exact ⟨hbody.dtcs, Or.inr hbody.state⟩
    · rw [hmediaId] at hid
      exact absurd hid (by decide)

/-- **WHAT READY MEANS**, in every run of the page whose scans are those of the backend, for every
    vehicle that goes on meanwhile and whatever links fail.  READY is shown exactly if a diagnosis
    has ended, none of its tests failed, and the last scan that has arrived, be it of an earlier
    diagnosis, shows no active code of MAIN and MEDIA.  Then each of the two had a link that failed
    or was without an active code at a moment of that scan.  The cards of ACT and BODY never show
    a code.  In a diagnosis that has ended the scan has not failed and all tests were answered, or
    it has failed and no test was answered. -/
theorem pre_drive {clients : Clients W}
    (hlinked : ∀ n, Linked state fails n (client clients n)) (es : List PageEvent)
    (hscans : ∀ scan, .scanReply (.data scan) ∈ es → Made clients scan) :
    let p := (notedRun es).1
    let n := (notedRun es).2
    (diagnosisSummary p = .ready ↔ p.completed = true ∧ (∀ r ∈ n.replies, resultOk r = true) ∧
      ∀ scan, n.scan = some scan → (∀ item ∈ shown scan.media, item.active = false) ∧
        ∀ item ∈ shown scan.mainRouting, item.active = false) ∧
    (diagnosisSummary p = .ready → ∀ scan, n.scan = some scan →
      ∃ w w', runFullScan clients w = (.ok scan, w') ∧
        InSection (fails .media) (fun _ =>
          Meanwhile (fun v => ∀ row ∈ (state v).dtcs, ¬ DtcStore.DtcActive row) w w') scan.media ∧
        InSection (fails .main) (fun _ =>
          Meanwhile (fun v => NoLoss (state v).main.dcm) w w') scan.mainRouting) ∧
    (∀ card ∈ p.ecus, card.id = "act" ∨ card.id = "body" →
      card.dtcs = [] ∧ (card.state = .standby ∨ card.state = .offline)) ∧
    (p.completed = true → Concluded n) := by
  intro p n
  have hnoted : Noted p n := noted_run es
  have hmade : ∀ scan, n.scan = some scan →
      ∃ w w', runFullScan clients w = (.ok scan, w') ∧ ScanTruth state fails w w' scan :=
    fun scan hscan => (hscans scan (scan_mem es hscan)).truth hlinked
  have htruth : ∀ scan, n.scan = some scan → ∃ w w', ScanTruth state fails w w' scan := by
    intro scan hscan
    obtain ⟨w, w', -, hscanned⟩ := hmade scan hscan
    exact ⟨w, w', hscanned⟩
  have hready := hnoted.ready
  rw [hnoted.active htruth] at hready
  refine ⟨hready, ?_, fun card hcard hid => hnoted.codeless htruth hcard hid,
    fun hcompleted => (hnoted.completed hcompleted).2⟩
  intro hshown scan hscan
  obtain ⟨w, w', hrun, hscanned⟩ := hmade scan hscan
  obtain ⟨-, -, hactive⟩ := hready.mp hshown
  obtain ⟨hmedia, hmain⟩ := hactive scan hscan
  refine ⟨w, w', hrun, ?_, ?_⟩
  · have hsaid := hscanned.media
    rcases hsection : scan.media with e | r <;> rw [hsection] at hsaid hmedia
    · exact hsaid
    · exact hsaid.dtcs.mono fun v hitems => media_inactive (hitems ▸ hmedia)
  · have hsaid := hscanned.main
    rcases hsection : scan.mainRouting with e | r <;> rw [hsection] at hsaid hmain
    · exact hsaid
    · exact hsaid.dtcs.mono fun v hitems => main_inactive (hitems ▸ hmain)

/-- A vehicle that has just started, with all its cameras. -/
def intact : History := { started with now := { started.now with dtcs := [] } }

/-- Nothing in the sections of a scan is active. -/
def quiet : Except Raised FullScan → Bool
  | .ok scan => (shown scan.media).all (!·.active) && (shown scan.mainRouting).all (!·.active)
  | .error _ => true

/-- A test that its ECU has passed. -/
def passedTest : TestReply := .data (some ⟨true, [0x71, 0x01, 0x01, 0x00, 0x00], some 0x00⟩)

/-- A diagnosis with a scan of that vehicle and five tests. -/
theorem pre_drive_intact :
    ∃ scan, Made links scan ∧
      diagnosisSummary (notedRun (.run :: .scanReply (.data scan) ::
        List.replicate 5 (.testReply passedTest))).1 = .ready := by
  obtain ⟨scan, w', hrun, -, -⟩ := (runFullScan_ends linked_links intact).value
  have hmade : Made links scan := ⟨intact, w', hrun⟩
  have hquiet : quiet (runFullScan links intact).1 = true := by decide +kernel
  rw [hrun, quiet, Bool.and_eq_true, List.all_eq_true, List.all_eq_true] at hquiet
  refine ⟨scan, hmade, ?_⟩
  have hscans : ∀ scan', .scanReply (.data scan') ∈ PageEvent.run :: .scanReply (.data scan) ::
      List.replicate 5 (.testReply passedTest) → Made links scan' := by
    intro scan' hmem
    simp only [List.mem_cons, List.mem_replicate, reduceCtorEq, false_or, and_false, or_false,
      PageEvent.scanReply.injEq, ScanReply.data.injEq] at hmem
    exact hmem ▸ hmade
  refine (pre_drive linked_links _ hscans).1.mpr ⟨rfl, ?_, ?_⟩
  · intro r hr
    have hr : r ∈ List.replicate 5 passedTest := hr
    rw [List.eq_of_mem_replicate hr]
    rfl
  · intro scan' hscan
    obtain rfl : scan = scan' := Option.some.inj hscan
    exact ⟨fun item hitem => (Bool.not_eq_true' _).mp (hquiet.1 item hitem),
      fun item hitem => (Bool.not_eq_true' _).mp (hquiet.2 item hitem)⟩

end Ready

end PreDrive
