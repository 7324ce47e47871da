import RemoteVehicle.UdsFrame
import RemoteVehicle.MainDcm

/-!
# What a diagnostic request is answered with

The three servers were written independently, but they answer alike: a positive response
is the service identifier plus 0x40, followed by the sub-function, data identifier or
routine identifier of the request; a negative response is `7F`, the service identifier and
a reason.

For each server one theorem says which answer a request gets and what else it does:
`actServe_cases`, `bodyServe_eq` and `udsProcessRx_eq`.  Later results use only these.
-/

namespace UdsAnswer

open ActUdsDiag hiding word16
open CanFrame ActState BodyState BodyUds UdsFrame MainState MainTransmit MainDcm

/-! ## Answers -/

/-- What a positive response repeats: the sub-function without its suppress bit, the data
    identifier, or sub-function and routine identifier. -/
def echo (req : List UInt8) : List UInt8 :=
  let sid := req.getD 0 0
  if sid = 0x10 ∨ sid = 0x19 then [req.getD 1 0 &&& 0x7F]
  else if sid = 0x22 then [req.getD 1 0, req.getD 2 0]
  else if sid = 0x31 then [req.getD 1 0 &&& 0x7F, req.getD 2 0, req.getD 3 0]
  else []

/-- `7F`, the service identifier and a reason, or the service identifier plus 0x40 and what
    it repeats. -/
def IsAnswer (req resp : List UInt8) : Prop :=
  (∃ nrc, resp = [0x7F, req.getD 0 0, nrc]) ∨ ((req.getD 0 0 + 0x40) :: echo req) <+: resp

/-! ## Requests that do something -/

/-- The session that an accepted DiagnosticSessionControl request selects. -/
def requestedSession (req : List UInt8) : Option UInt8 :=
  let sub := req.getD 1 0 &&& 0x7F
  if req.length = 2 ∧ req.getD 0 0 = 0x10 ∧ (sub = 0x01 ∨ sub = 0x03) then some sub else none

/-- An accepted ClearDiagnosticInformation request: all groups. -/
def ClearsDtc (req : List UInt8) : Prop :=
  req.length = 4 ∧ req.getD 0 0 = 0x14 ∧ req.getD 1 0 = 0xFF ∧ req.getD 2 0 = 0xFF ∧
    req.getD 3 0 = 0xFF

/-- A well-formed request to start a routine: `mask` is applied to the sub-function. -/
def routineOf (mask : UInt8) (req : List UInt8) : Option Nat :=
  if req.length = 4 ∧ req.getD 0 0 = 0x31 ∧ req.getD 1 0 &&& mask = 0x01 then
    some ((req.getD 2 0).toNat * 256 + (req.getD 3 0).toNat)
  else none

/-- A request for the distance, which BODY measures on the spot. -/
def ReadsDistance (req : List UInt8) : Prop :=
  req.length = 3 ∧ req.getD 0 0 = 0x22 ∧
    (req.getD 1 0).toNat * 256 + (req.getD 2 0).toNat = udsDidUltrasonicDistance

instance (req : List UInt8) : Decidable (ClearsDtc req) := by unfold ClearsDtc; infer_instance

instance (req : List UInt8) : Decidable (ReadsDistance req) := by
  unfold ReadsDistance; infer_instance

section Requests

variable {req : List UInt8}

theorem requestedSession_sid (h : req.getD 0 0 ≠ 0x10) : requestedSession req = none := by
  simp only [requestedSession]
  exact if_neg fun hs => h hs.2.1

theorem not_clearsDtc_sid (h : req.getD 0 0 ≠ 0x14) : ¬ ClearsDtc req := fun hc => h hc.2.1

/-- A request for another group is no clear. -/
theorem not_clearsDtc_group
    (h : req.getD 1 0 ≠ 0xFF ∨ req.getD 2 0 ≠ 0xFF ∨ req.getD 3 0 ≠ 0xFF) : ¬ ClearsDtc req := by
  rintro ⟨-, -, hhigh, hmiddle, hlow⟩
  rcases h with hother | hother | hother
  · exact hother hhigh
  · exact hother hmiddle
  · exact hother hlow

theorem clearsDtc_group (hlen : req.length = 4) (h : req.getD 0 0 = 0x14)
    (hgroup : ¬ (req.getD 1 0 ≠ 0xFF ∨ req.getD 2 0 ≠ 0xFF ∨ req.getD 3 0 ≠ 0xFF)) :
    ClearsDtc req := by
  simp only [not_or, not_not] at hgroup
  exact ⟨hlen, h, hgroup⟩

theorem routineOf_sid {mask : UInt8} (h : req.getD 0 0 ≠ 0x31) : routineOf mask req = none := by
  rw [routineOf]
  exact if_neg fun hr => h hr.2.1

theorem not_readsDistance_sid (h : req.getD 0 0 ≠ 0x22) : ¬ ReadsDistance req := fun hr => h hr.2.1

/-- A reason is always an answer. -/
theorem isAnswer_negative {sid : UInt8} (h : req.getD 0 0 = sid) (nrc : UInt8) :
    IsAnswer req [0x7F, sid, nrc] := Or.inl ⟨nrc, by rw [h]⟩

/-- What is repeated, and then anything. -/
theorem isAnswer_positive {sid : UInt8} {repeated data : List UInt8} (h : req.getD 0 0 = sid)
    (hecho : echo req = repeated) : IsAnswer req ((sid + 0x40) :: (repeated ++ data)) := by
  refine Or.inr ⟨data, ?_⟩
  rw [h, hecho]
  rfl

/-- What the services repeat. -/
theorem echo_subfunction (h : req.getD 0 0 = 0x10 ∨ req.getD 0 0 = 0x19) :
    echo req = [req.getD 1 0 &&& 0x7F] := if_pos h

theorem echo_identifier (h : req.getD 0 0 = 0x22) : echo req = [req.getD 1 0, req.getD 2 0] := by
  simp only [echo, h]
  rfl

theorem echo_clear (h : req.getD 0 0 = 0x14) : echo req = [] := by
  simp only [echo, h]
  rfl

theorem echo_routine (h : req.getD 0 0 = 0x31) :
    echo req = [req.getD 1 0 &&& 0x7F, req.getD 2 0, req.getD 3 0] := by
  simp only [echo, h]
  rfl

end Requests

/-- Two bytes are determined by the word they make. -/
theorem bytes_of_word {a b : UInt8} {n : Nat} (h : a.toNat * 256 + b.toNat = n) :
    a = UInt8.ofNat (n / 256) ∧ b = UInt8.ofNat n := by
  have hb := b.toNat_lt
  have ha := a.toNat_lt
  subst h
  constructor
  · rw [← UInt8.toNat_inj, UInt8.toNat_ofNat']
    omega
  · rw [← UInt8.toNat_inj, UInt8.toNat_ofNat']
    omega

/-! ## ACT -/

/-- What a request of ACT does besides its answer and besides starting a routine. -/
def actServed (req : List UInt8) (s : Act) : Act :=
  match requestedSession req with
  | some session => { s with uds := { s.uds with diagSession := session } }
  | none =>
      if ClearsDtc req then
        { s with uds := { s.uds with
          dtcC100Status := s.uds.dtcC100Status &&& ~~~ dtcStatusHistoryBit
          dtcC101Status := s.uds.dtcC101Status &&& ~~~ dtcStatusHistoryBit
          dtcC100ConsecutiveFailCount := 0
          dtcC101ConsecutiveFailCount := 0 } }
      else s

/-- A request is answered at once. -/
def ActAnswers (busy : Bool) (req : List UInt8) (s : Act) : Prop :=
  ∃ resp, IsAnswer req resp ∧ 1 ≤ resp.length ∧ resp.length ≤ 11 ∧
    actServe busy req s = udsDiagSendSingleFrame busy resp (actServed req s)

/-- A request starts a routine: in the extended session, and when none is running. -/
structure ActStarts (busy : Bool) (req : List UInt8) (s : Act) : Prop where
  session : s.uds.diagSession = sessionExtended
  idle : s.uds.routineState = .none
  routine : (routineOf 0xFF req = some routineMotorTest ∧
      actServe busy req s = udsDiagStartMotorRoutine s) ∨
    (routineOf 0xFF req = some routineServoTest ∧
      actServe busy req s = udsDiagStartServoRoutine s)

section Act

variable {busy : Bool} {req : List UInt8} {s : Act}

/-- A request that is neither a session nor a clear request changes nothing else. -/
theorem actServed_other (hs : requestedSession req = none) (hc : ¬ ClearsDtc req) :
    actServed req s = s := by
  simp only [actServed, hs]
  exact if_neg hc

/-- The service of a request. -/
theorem actServe_sid {sid : UInt8} (h : req.getD 0 0 = sid) :
    actServe busy req s =
      (if sid = sidDiagnosticSessionControl then udsDiagHandleSessionControl busy req s
      else if sid = sidReadDataByIdentifier then udsDiagHandleReadDID busy req s
      else if sid = sidReadDtcInformation then udsDiagHandleReadDTC busy req s
      else if sid = sidClearDiagnosticInformation then udsDiagHandleClearDTC busy req s
      else if sid = sidRoutineControl then udsDiagHandleRoutineControl busy req s
      else udsDiagSendNegativeResponse busy sid nrcServiceNotSupported s) := by
  simp only [actServe, h]

/-- A negative answer, and nothing else happens. -/
theorem actServe_routineControl (h : req.getD 0 0 = sidRoutineControl) :
    actServe busy req s = udsDiagHandleRoutineControl busy req s := by
  rw [actServe_sid h, if_neg (by decide), if_neg (by decide), if_neg (by decide),
    if_neg (by decide), if_pos rfl]

theorem actAnswers_negative {sid nrc : UInt8} (h : req.getD 0 0 = sid)
    (hother : actServed req s = s)
    (hserve : actServe busy req s = udsDiagSendNegativeResponse busy sid nrc s) :
    ActAnswers busy req s := by
  refine ⟨[0x7F, sid, nrc], isAnswer_negative h nrc, by simp, by simp, ?_⟩
  rw [hserve, hother]
  rfl

/-- A positive answer. -/
theorem actAnswers_positive {sid : UInt8} {repeated data : List UInt8} {t : Act}
    (h : req.getD 0 0 = sid) (hecho : echo req = repeated)
    (hlen : repeated.length + data.length ≤ 10) (hserved : actServed req s = t)
    (hserve : actServe busy req s =
      udsDiagSendSingleFrame busy ((sid + posRespOffset) :: (repeated ++ data)) t) :
    ActAnswers busy req s := by
  refine ⟨_, isAnswer_positive h hecho, by simp, ?_, hserved ▸ hserve⟩
  rw [List.length_cons, List.length_append]
  omega

theorem actAnswers_session (h : req.getD 0 0 = sidDiagnosticSessionControl) :
    ActAnswers busy req s := by
  have hc : ¬ ClearsDtc req := not_clearsDtc_sid (by rw [h]; decide)
  have hserve : actServe busy req s = udsDiagHandleSessionControl busy req s := by
    rw [actServe_sid h, if_pos rfl]
  simp only [udsDiagHandleSessionControl] at hserve
  split at hserve
  · rename_i hlen
    have hs : requestedSession req = none := if_neg fun hr => hlen hr.1
    exact actAnswers_negative h (actServed_other hs hc) hserve
  · rename_i hlen
    split at hserve
    · rename_i hsub
      have hs : requestedSession req = none := if_neg fun hr => hr.2.2.elim hsub.1 hsub.2
      exact actAnswers_negative h (actServed_other hs hc) hserve
    · rename_i hsub
      have hsub : req.getD 1 0 &&& 0x7F = 0x01 ∨ req.getD 1 0 &&& 0x7F = 0x03 := by
        rw [not_and_or, not_not, not_not] at hsub
        exact hsub
      have hs : requestedSession req = some (req.getD 1 0 &&& 0x7F) :=
        if_pos ⟨not_not.mp hlen, h, hsub⟩
      refine actAnswers_positive h (echo_subfunction (Or.inl h)) (by simp) ?_ hserve
      simp only [actServed, hs]

theorem actAnswers_readDID (h : req.getD 0 0 = sidReadDataByIdentifier) :
    ActAnswers busy req s := by
  have hother : actServed req s = s :=
    actServed_other (requestedSession_sid (by rw [h]; decide))
      (not_clearsDtc_sid (by rw [h]; decide))
  have hserve : actServe busy req s = udsDiagHandleReadDID busy req s := by
    rw [actServe_sid h, if_neg (by decide), if_pos rfl]
  have hdid : ∀ {did : Nat} {hi lo : UInt8} {data : List UInt8},
      ActUdsDiag.word16 (req.getD 1 0) (req.getD 2 0) = did →
      hi = UInt8.ofNat (did / 256) → lo = UInt8.ofNat did → data.length ≤ 8 →
      actServe busy req s = udsDiagSendSingleFrame busy
        ((sidReadDataByIdentifier + posRespOffset) :: ([hi, lo] ++ data)) s →
      ActAnswers busy req s := by
    intro did hi lo data hword hhi hlo hlen hdata
    obtain ⟨h1, h2⟩ := bytes_of_word hword
    refine actAnswers_positive h ?_ (by simp; omega) hother hdata
    rw [echo_identifier h, h1, h2, hhi, hlo]
  simp only [udsDiagHandleReadDID] at hserve
  split at hserve
  · exact actAnswers_negative h hother hserve
  · split at hserve
    · rename_i hword
      exact hdid hword rfl rfl (by simp) hserve
    · split at hserve
      · rename_i hword
        exact hdid hword rfl rfl (by simp) hserve
      · split at hserve
        · rename_i hword
          exact hdid hword rfl rfl (by simp) hserve
        · exact actAnswers_negative h hother hserve

theorem actAnswers_readDTC (h : req.getD 0 0 = sidReadDtcInformation) :
    ActAnswers busy req s := by
  have hother : actServed req s = s :=
    actServed_other (requestedSession_sid (by rw [h]; decide))
      (not_clearsDtc_sid (by rw [h]; decide))
  have hserve : actServe busy req s = udsDiagHandleReadDTC busy req s := by
    rw [actServe_sid h, if_neg (by decide), if_neg (by decide), if_pos rfl]
  simp only [udsDiagHandleReadDTC] at hserve
  split at hserve
  · exact actAnswers_negative h hother hserve
  · split at hserve
    · exact actAnswers_negative h hother hserve
    · rename_i hsub
      have hecho : echo req = [dtcReportSubfunction] := by
        rw [echo_subfunction (Or.inr h), not_not.mp hsub]
        rfl
      refine actAnswers_positive h hecho ?_ hother hserve
      simp

theorem actAnswers_clearDTC (h : req.getD 0 0 = sidClearDiagnosticInformation) :
    ActAnswers busy req s := by
  have hs : requestedSession req = none := requestedSession_sid (by rw [h]; decide)
  have hserve : actServe busy req s = udsDiagHandleClearDTC busy req s := by
    rw [actServe_sid h, if_neg (by decide), if_neg (by decide), if_neg (by decide), if_pos rfl]
  simp only [udsDiagHandleClearDTC] at hserve
  split at hserve
  · rename_i hlen
    exact actAnswers_negative h (actServed_other hs fun hc => hlen hc.1) hserve
  · rename_i hlen
    split at hserve
    · rename_i hgroup
      exact actAnswers_negative h (actServed_other hs (not_clearsDtc_group hgroup)) hserve
    · rename_i hgroup
      have hc : ClearsDtc req := clearsDtc_group (not_not.mp hlen) h hgroup
      have hserved : actServed req s = { s with uds := { s.uds with
          dtcC100Status := s.uds.dtcC100Status &&& ~~~ dtcStatusHistoryBit
          dtcC101Status := s.uds.dtcC101Status &&& ~~~ dtcStatusHistoryBit
          dtcC100ConsecutiveFailCount := 0
          dtcC101ConsecutiveFailCount := 0 } } := by
        simp only [actServed, hs, if_pos hc]
      exact actAnswers_positive h (echo_clear h) (Nat.zero_le _) hserved hserve

theorem act_routineControl (h : req.getD 0 0 = sidRoutineControl) :
    ActAnswers busy req s ∨ ActStarts busy req s := by
  have hother : actServed req s = s :=
    actServed_other (requestedSession_sid (by rw [h]; decide))
      (not_clearsDtc_sid (by rw [h]; decide))
  have hserve : actServe busy req s = udsDiagHandleRoutineControl busy req s :=
    actServe_routineControl h
  simp only [udsDiagHandleRoutineControl] at hserve
  -- the guards in their order: length, sub-function, session, idle, routine
  split at hserve
  · exact Or.inl (actAnswers_negative h hother hserve)
  · rename_i hlen
    split at hserve
    · exact Or.inl (actAnswers_negative h hother hserve)
    · rename_i hsub
      split at hserve
      · exact Or.inl (actAnswers_negative h hother hserve)
      · rename_i hsession
        split at hserve
        · exact Or.inl (actAnswers_negative h hother hserve)
        · rename_i hidle
          have hsub : req.getD 1 0 &&& 0xFF = 0x01 := by
            rw [not_not.mp hsub]
            decide
          have hrid : routineOf 0xFF req =
              some ((req.getD 2 0).toNat * 256 + (req.getD 3 0).toNat) :=
            if_pos ⟨not_not.mp hlen, h, hsub⟩
          split at hserve
          · rename_i hmotor
            refine Or.inr ⟨not_not.mp hsession, not_not.mp hidle, Or.inl ⟨?_, hserve⟩⟩
            rw [hrid, ← hmotor]
            rfl
          · split at hserve
            · rename_i hservo
              refine Or.inr ⟨not_not.mp hsession, not_not.mp hidle, Or.inr ⟨?_, hserve⟩⟩
              rw [hrid, ← hservo]
              rfl
            · exact Or.inl (actAnswers_negative h hother hserve)

/-- **A request to ACT** is answered at once or starts a routine. -/
theorem actServe_cases (busy : Bool) (req : List UInt8) (s : Act) :
    ActAnswers busy req s ∨ ActStarts busy req s := by
  by_cases h10 : req.getD 0 0 = sidDiagnosticSessionControl
  · exact Or.inl (actAnswers_session h10)
  by_cases h22 : req.getD 0 0 = sidReadDataByIdentifier
  · exact Or.inl (actAnswers_readDID h22)
  by_cases h19 : req.getD 0 0 = sidReadDtcInformation
  · exact Or.inl (actAnswers_readDTC h19)
  by_cases h14 : req.getD 0 0 = sidClearDiagnosticInformation
  · exact Or.inl (actAnswers_clearDTC h14)
  by_cases h31 : req.getD 0 0 = sidRoutineControl
  · exact act_routineControl h31
  have hother : actServed req s = s :=
    actServed_other (requestedSession_sid h10) (not_clearsDtc_sid h14)
  have hserve : actServe busy req s =
      udsDiagSendNegativeResponse busy (req.getD 0 0) nrcServiceNotSupported s := by
    rw [actServe_sid rfl, if_neg h10, if_neg h22, if_neg h19, if_neg h14, if_neg h31]
  exact Or.inl (actAnswers_negative rfl hother hserve)

end Act

/-! ## BODY -/

/-- What a request of BODY does to lamps, buzzer, sensor and trouble code. -/
def bodyControlServed (inp : BodyInputs) (req : List UInt8) (c : BodyControlState) :
    BodyControlState :=
  if ClearsDtc req then BodyControl.clearDtcHistory c
  else if ReadsDistance req ∨ routineOf 0x7F req = some udsRidUltrasonicTest then
    (BodyControl.runUltrasonicDiagnosticRoutine inp.requestEcho c).2
  else if routineOf 0x7F req = some udsRidBuzzerTest then BodyControl.runBuzzerDiagnosticRoutine c
  else if routineOf 0x7F req = some udsRidLedAllTest then BodyControl.runLedDiagnosticRoutine c
  else c

/-- What a request of BODY does besides its answer. -/
def bodyServed (inp : BodyInputs) (req : List UInt8) (s : Body) : Body :=
  { s with
    control := bodyControlServed inp req s.control
    can := { s.can with udsSession := (requestedSession req).getD s.can.udsSession } }

/-- A request is answered at once. -/
def BodyAnswers (inp : BodyInputs) (req : List UInt8) (s : Body) : Prop :=
  ∃ resp, IsAnswer req resp ∧ 1 ≤ resp.length ∧ resp.length ≤ 7 ∧
    bodyServe inp req s = sendUdsPayload inp.udsTxBusy resp (bodyServed inp req s)

section Body

variable {inp : BodyInputs} {req : List UInt8} {s : Body}

/-- The output side of a request that is no service with an effect on it. -/
theorem bodyControlServed_other (hc : ¬ ClearsDtc req) (hd : ¬ ReadsDistance req)
    (hr : routineOf 0x7F req = none) (c : BodyControlState) : bodyControlServed inp req c = c := by
  simp [bodyControlServed, hc, hd, hr]

/-- A request that does nothing but being answered. -/
theorem bodyServed_other (hs : requestedSession req = none)
    (hc : bodyControlServed inp req s.control = s.control) : bodyServed inp req s = s := by
  rw [bodyServed, hs, hc]
  rfl

/-- The service of a request. -/
theorem bodyServe_sid {sid : UInt8} (h : req.getD 0 0 = sid) :
    bodyServe inp req s =
      (if sid = udsSidSessionControl then handleUdsSessionControl inp.udsTxBusy req s
      else if sid = udsSidReadDid then handleUdsReadDid inp req s
      else if sid = udsSidReadDtc then handleUdsReadDtc inp.udsTxBusy req s
      else if sid = udsSidClearDtc then handleUdsClearDtc inp.udsTxBusy req s
      else if sid = udsSidRoutineControl then handleUdsRoutineControl inp req s
      else sendUdsNegativeResponse inp.udsTxBusy sid udsNrcServiceNotSupported s) := by
  simp only [bodyServe, h]

theorem bodyServe_routineControl (h : req.getD 0 0 = udsSidRoutineControl) :
    bodyServe inp req s = handleUdsRoutineControl inp req s := by
  rw [bodyServe_sid h, if_neg (by decide), if_neg (by decide), if_neg (by decide),
    if_neg (by decide), if_pos rfl]

theorem bodyAnswers_negative {sid nrc : UInt8} (h : req.getD 0 0 = sid)
    (hother : bodyServed inp req s = s)
    (hserve : bodyServe inp req s = sendUdsNegativeResponse inp.udsTxBusy sid nrc s) :
    BodyAnswers inp req s := by
  refine ⟨[0x7F, sid, nrc], isAnswer_negative h nrc, by simp, by simp, ?_⟩
  rw [hserve, hother]
  rfl

theorem bodyAnswers_positive {sid : UInt8} {repeated data : List UInt8} {t : Body}
    (h : req.getD 0 0 = sid) (hecho : echo req = repeated)
    (hlen : repeated.length + data.length ≤ 6) (hserved : bodyServed inp req s = t)
    (hserve : bodyServe inp req s =
      sendUdsPayload inp.udsTxBusy ((sid + udsPositiveResponseOffset) :: (repeated ++ data)) t) :
    BodyAnswers inp req s := by
  refine ⟨_, isAnswer_positive h hecho, by simp, ?_, hserved ▸ hserve⟩
  rw [List.length_cons, List.length_append]
  omega

theorem bodyAnswers_session (h : req.getD 0 0 = udsSidSessionControl) : BodyAnswers inp req s := by
  have hcontrol := @bodyControlServed_other inp req (not_clearsDtc_sid (by rw [h]; decide))
    (not_readsDistance_sid (by rw [h]; decide)) (routineOf_sid (by rw [h]; decide)) s.control
  have hserve : bodyServe inp req s = handleUdsSessionControl inp.udsTxBusy req s := by
    rw [bodyServe_sid h, if_pos rfl]
  simp only [handleUdsSessionControl] at hserve
  split at hserve
  · rename_i hlen
    have hs : requestedSession req = none := if_neg fun hr => hlen hr.1
    exact bodyAnswers_negative h (bodyServed_other hs hcontrol) hserve
  · rename_i hlen
    split at hserve
    · rename_i hsub
      have hs : requestedSession req = none := if_neg fun hr => hr.2.2.elim hsub.1 hsub.2
      exact bodyAnswers_negative h (bodyServed_other hs hcontrol) hserve
    · rename_i hsub
      have hsub : req.getD 1 0 &&& 0x7F = 0x01 ∨ req.getD 1 0 &&& 0x7F = 0x03 := by
        rw [not_and_or, not_not, not_not] at hsub
        exact hsub
      have hs : requestedSession req = some (req.getD 1 0 &&& 0x7F) :=
        if_pos ⟨not_not.mp hlen, h, hsub⟩
      refine bodyAnswers_positive h (echo_subfunction (Or.inl h)) (by simp) ?_ hserve
      rw [bodyServed, hs, hcontrol]
      rfl

theorem bodyAnswers_readDid (h : req.getD 0 0 = udsSidReadDid) : BodyAnswers inp req s := by
  have hs : requestedSession req = none := requestedSession_sid (by rw [h]; decide)
  have hc : ¬ ClearsDtc req := not_clearsDtc_sid (by rw [h]; decide)
  have hr : routineOf 0x7F req = none := routineOf_sid (by rw [h]; decide)
  have hserve : bodyServe inp req s = handleUdsReadDid inp req s := by
    rw [bodyServe_sid h, if_neg (by decide), if_pos rfl]
  have hecho := echo_identifier h
  simp only [handleUdsReadDid] at hserve
  split at hserve
  · rename_i hlen
    have hd : ¬ ReadsDistance req := fun hd => hlen hd.1
    exact bodyAnswers_negative h (bodyServed_other hs (bodyControlServed_other hc hd hr _)) hserve
  · rename_i hlen
    by_cases hd : ReadsDistance req
    · have hcontrol : bodyControlServed inp req s.control =
          (BodyControl.runUltrasonicDiagnosticRoutine inp.requestEcho s.control).2 := by
        rw [bodyControlServed, if_neg hc, if_pos (Or.inl hd)]
      rw [hd.2.2, if_neg (by decide), if_pos rfl] at hserve
      refine bodyAnswers_positive h hecho (by simp) ?_ hserve
      rw [bodyServed, hs, hcontrol]
      rfl
    · have hdid : (req.getD 1 0).toNat * 256 + (req.getD 2 0).toNat ≠ udsDidUltrasonicDistance :=
        fun he => hd ⟨not_not.mp hlen, h, he⟩
      have hother : bodyServed inp req s = s :=
        bodyServed_other hs (bodyControlServed_other hc hd hr s.control)
      rw [if_neg hdid] at hserve
      split at hserve
      · exact bodyAnswers_positive h hecho (by simp) hother hserve
      · split at hserve
        · exact bodyAnswers_positive h hecho (by simp) hother hserve
        · split at hserve
          · exact bodyAnswers_positive h hecho (by simp) hother hserve
          · split at hserve
            · exact bodyAnswers_positive h hecho (by simp) hother hserve
            · exact bodyAnswers_negative h hother hserve

theorem bodyAnswers_readDtc (h : req.getD 0 0 = udsSidReadDtc) : BodyAnswers inp req s := by
  have hcontrol := @bodyControlServed_other inp req (not_clearsDtc_sid (by rw [h]; decide))
    (not_readsDistance_sid (by rw [h]; decide)) (routineOf_sid (by rw [h]; decide)) s.control
  have hother : bodyServed inp req s = s :=
    bodyServed_other (requestedSession_sid (by rw [h]; decide)) hcontrol
  have hserve : bodyServe inp req s = handleUdsReadDtc inp.udsTxBusy req s := by
    rw [bodyServe_sid h, if_neg (by decide), if_neg (by decide), if_pos rfl]
  simp only [handleUdsReadDtc] at hserve
  split at hserve
  · exact bodyAnswers_negative h hother hserve
  · split at hserve
    · exact bodyAnswers_negative h hother hserve
    · rename_i hsub
      have hecho : echo req = [udsReadDtcAllSubfunction] := by
        rw [echo_subfunction (Or.inr h), not_not.mp hsub]
        rfl
      exact bodyAnswers_positive h hecho (by simp) hother hserve

theorem bodyAnswers_clearDtc (h : req.getD 0 0 = udsSidClearDtc) : BodyAnswers inp req s := by
  have hs : requestedSession req = none := requestedSession_sid (by rw [h]; decide)
  have hd : ¬ ReadsDistance req := not_readsDistance_sid (by rw [h]; decide)
  have hr : routineOf 0x7F req = none := routineOf_sid (by rw [h]; decide)
  have hserve : bodyServe inp req s = handleUdsClearDtc inp.udsTxBusy req s := by
    rw [bodyServe_sid h, if_neg (by decide), if_neg (by decide), if_neg (by decide), if_pos rfl]
  simp only [handleUdsClearDtc] at hserve
  split at hserve
  · rename_i hlen
    have hc : ¬ ClearsDtc req := fun hc => hlen hc.1
    exact bodyAnswers_negative h (bodyServed_other hs (bodyControlServed_other hc hd hr _)) hserve
  · rename_i hlen
    split at hserve
    · rename_i hgroup
      have hc : ¬ ClearsDtc req := not_clearsDtc_group hgroup
      exact bodyAnswers_negative h (bodyServed_other hs (bodyControlServed_other hc hd hr _)) hserve
    · rename_i hgroup
      have hc : ClearsDtc req := clearsDtc_group (not_not.mp hlen) h hgroup
      refine bodyAnswers_positive h (echo_clear h) (Nat.zero_le _) ?_ hserve
      rw [bodyServed, hs, bodyControlServed, if_pos hc]
      rfl

theorem bodyAnswers_routineControl (h : req.getD 0 0 = udsSidRoutineControl) :
    BodyAnswers inp req s := by
  have hs : requestedSession req = none := requestedSession_sid (by rw [h]; decide)
  have hc : ¬ ClearsDtc req := not_clearsDtc_sid (by rw [h]; decide)
  have hd : ¬ ReadsDistance req := not_readsDistance_sid (by rw [h]; decide)
  have hserve : bodyServe inp req s = handleUdsRoutineControl inp req s :=
    bodyServe_routineControl h
  simp only [handleUdsRoutineControl] at hserve
  split at hserve
  · rename_i hlen
    have hr : routineOf 0x7F req = none := if_neg fun hr => hlen hr.1
    exact bodyAnswers_negative h (bodyServed_other hs (bodyControlServed_other hc hd hr _)) hserve
  · rename_i hlen
    split at hserve
    · rename_i hsub
      have hr : routineOf 0x7F req = none := if_neg fun hr => hsub hr.2.2
      exact bodyAnswers_negative h (bodyServed_other hs (bodyControlServed_other hc hd hr _)) hserve
    · rename_i hsub
      have hsub : req.getD 1 0 &&& 0x7F = udsRoutineStart := not_not.mp hsub
      have hr : routineOf 0x7F req = some ((req.getD 2 0).toNat * 256 + (req.getD 3 0).toNat) :=
        if_pos ⟨not_not.mp hlen, h, hsub⟩
      have hecho : echo req = [udsRoutineStart, req.getD 2 0, req.getD 3 0] := by
        rw [echo_routine h, hsub]
      -- three routines, told apart by their identifier; any other one is refused
      split at hserve
      · rename_i hrid
        refine bodyAnswers_positive h hecho (by simp) ?_ hserve
        rw [bodyServed, hs, bodyControlServed, if_neg hc, hr, hrid]
        simp [hd, udsRidBuzzerTest, udsRidUltrasonicTest]
      · rename_i hbuzzer
        split at hserve
        · rename_i hrid
          refine bodyAnswers_positive h hecho (by simp) ?_ hserve
          rw [bodyServed, hs, bodyControlServed, if_neg hc, hr, hrid]
          simp [hd, udsRidBuzzerTest, udsRidUltrasonicTest, udsRidLedAllTest]
        · rename_i hled
          split at hserve
          · rename_i hrid
            refine bodyAnswers_positive h hecho (by simp) ?_ hserve
            rw [bodyServed, hs, bodyControlServed, if_neg hc, hr, hrid]
            simp
          · rename_i hultra
            have hrid : ∀ {rid : Nat}, (req.getD 2 0).toNat * 256 + (req.getD 3 0).toNat ≠ rid →
                routineOf 0x7F req ≠ some rid := by
              intro rid hne he
              rw [hr] at he
              exact hne (Option.some.inj he)
            have hcontrol : bodyControlServed inp req s.control = s.control := by
              rw [bodyControlServed, if_neg hc, if_neg (not_or.mpr ⟨hd, hrid hultra⟩),
                if_neg (hrid hbuzzer), if_neg (hrid hled)]
            exact bodyAnswers_negative h (bodyServed_other hs hcontrol) hserve

/-- **A request to BODY** is answered at once. -/
theorem bodyServe_eq (inp : BodyInputs) (req : List UInt8) (s : Body) : BodyAnswers inp req s := by
  by_cases h10 : req.getD 0 0 = udsSidSessionControl
  · exact bodyAnswers_session h10
  by_cases h22 : req.getD 0 0 = udsSidReadDid
  · exact bodyAnswers_readDid h22
  by_cases h19 : req.getD 0 0 = udsSidReadDtc
  · exact bodyAnswers_readDtc h19
  by_cases h14 : req.getD 0 0 = udsSidClearDtc
  · exact bodyAnswers_clearDtc h14
  by_cases h31 : req.getD 0 0 = udsSidRoutineControl
  · exact bodyAnswers_routineControl h31
  have hcontrol := @bodyControlServed_other inp req (not_clearsDtc_sid h14)
    (not_readsDistance_sid h22) (routineOf_sid h31) s.control
  have hserve : bodyServe inp req s =
      sendUdsNegativeResponse inp.udsTxBusy (req.getD 0 0) udsNrcServiceNotSupported s := by
    rw [bodyServe_sid rfl, if_neg h10, if_neg h22, if_neg h19, if_neg h14, if_neg h31]
  exact bodyAnswers_negative rfl (bodyServed_other (requestedSession_sid h10) hcontrol) hserve

end Body

/-! ## MAIN -/

/-- The session that MAIN accepts; it knows no suppress bit. -/
def requestedMainSession (req : List UInt8) : Option UInt8 :=
  let sub := req.getD 1 0
  if req.length = 2 ∧ req.getD 0 0 = 0x10 ∧ (sub = 0x01 ∨ sub = 0x03) then some sub else none

/-- What a request of MAIN does besides its answer. -/
def mainServed (req : List UInt8) (d : Dcm) : Dcm :=
  if ClearsDtc req then { d with pc := Dtc.clear, act := Dtc.clear, body := Dtc.clear }
  else { d with currentDiagSession := (requestedMainSession req).getD d.currentDiagSession }

/-- The state in which a request is answered. -/
def mainAsked (req : List UInt8) (s : Main) : Main :=
  { s.emit (.uds req) with dcm := mainServed req s.dcm }

/-- A request is answered at once; the response depends on the trouble codes only. -/
def MainAnswers (reqData : Payload) (reqLength : Nat) (d : Dcm) : Prop :=
  ∃ resp, IsAnswer (bytesOf reqData reqLength) resp ∧ 1 ≤ resp.length ∧ resp.length ≤ 15 ∧
    ∀ s : Main, s.dcm = d →
      udsProcessRx reqData reqLength s = respond resp (mainAsked (bytesOf reqData reqLength) s)

section Main

variable {reqData : Payload} {reqLength : Nat} {s : Main} {d : Dcm}

/-- A request that does nothing but being answered. -/
theorem mainServed_other {req : List UInt8} (hs : requestedMainSession req = none)
    (hc : ¬ ClearsDtc req) (d : Dcm) : mainServed req d = d := by
  rw [mainServed, if_neg hc, hs]
  rfl

/-- The state that a call of the server answers in. -/
theorem mainAsked_eq {req : List UInt8} {d' : Dcm} (h : mainServed req d = d') (hs : s.dcm = d) :
    mainAsked req s = { s.emit (.uds req) with dcm := d' } := by
  rw [mainAsked, hs, h]

theorem requestedMainSession_sid {req : List UInt8} (h : req.getD 0 0 ≠ 0x10) :
    requestedMainSession req = none := if_neg fun hs => h hs.2.1

/-- The service of a request. -/
theorem udsProcessRx_sid {sid : UInt8} (hpos : 1 ≤ reqLength) (h : reqData 0 = sid) :
    udsProcessRx reqData reqLength s =
      (if sid = 0x10 then
        udsSessionControl reqData reqLength (s.emit (.uds (bytesOf reqData reqLength)))
      else if sid = 0x22 then
        udsReadData reqData reqLength (s.emit (.uds (bytesOf reqData reqLength)))
      else if sid = 0x19 then
        udsReadDtc reqData reqLength (s.emit (.uds (bytesOf reqData reqLength)))
      else if sid = 0x14 then
        udsClearDtc reqData reqLength (s.emit (.uds (bytesOf reqData reqLength)))
      else sendNegativeResponse sid 0x11 (s.emit (.uds (bytesOf reqData reqLength)))) := by
  simp only [udsProcessRx, h]
  rw [if_neg (by omega)]

theorem getD_sid (hpos : 1 ≤ reqLength) : (bytesOf reqData reqLength).getD 0 0 = reqData 0 :=
  getD_bytesOf reqData (by omega)

theorem mainAnswers_negative {sid nrc : UInt8} (hpos : 1 ≤ reqLength) (h : reqData 0 = sid)
    (hother : mainServed (bytesOf reqData reqLength) d = d)
    (hserve : ∀ s : Main, s.dcm = d → udsProcessRx reqData reqLength s =
      sendNegativeResponse sid nrc (s.emit (.uds (bytesOf reqData reqLength)))) :
    MainAnswers reqData reqLength d := by
  have hsid : (bytesOf reqData reqLength).getD 0 0 = sid := by rw [getD_sid hpos, h]
  refine ⟨[0x7F, sid, nrc], isAnswer_negative hsid nrc, by simp, by simp, fun s hs => ?_⟩
  rw [hserve s hs, mainAsked_eq hother hs, ← hs]
  rfl

theorem mainAnswers_positive {sid : UInt8} {repeated data : List UInt8} {d' : Dcm}
    (hpos : 1 ≤ reqLength) (h : reqData 0 = sid)
    (hecho : echo (bytesOf reqData reqLength) = repeated)
    (hlen : repeated.length + data.length ≤ 14)
    (hserved : mainServed (bytesOf reqData reqLength) d = d')
    (hserve : ∀ s : Main, s.dcm = d → udsProcessRx reqData reqLength s =
      respond ((sid + 0x40) :: (repeated ++ data))
        { s.emit (.uds (bytesOf reqData reqLength)) with dcm := d' }) :
    MainAnswers reqData reqLength d := by
  have hsid : (bytesOf reqData reqLength).getD 0 0 = sid := by rw [getD_sid hpos, h]
  refine ⟨(sid + 0x40) :: (repeated ++ data), isAnswer_positive hsid hecho, by simp, ?_,
    fun s hs => ?_⟩
  · rw [List.length_cons, List.length_append]
    omega
  · rw [hserve s hs, mainAsked_eq hserved hs]

theorem mainAnswers_session (hpos : 1 ≤ reqLength) (h : reqData 0 = 0x10) :
    MainAnswers reqData reqLength d := by
  have hsid : (bytesOf reqData reqLength).getD 0 0 = 0x10 := by rw [getD_sid hpos, h]
  have hc : ¬ ClearsDtc (bytesOf reqData reqLength) := not_clearsDtc_sid (by rw [hsid]; decide)
  have hserve : ∀ s : Main, udsProcessRx reqData reqLength s =
      udsSessionControl reqData reqLength (s.emit (.uds (bytesOf reqData reqLength))) :=
    fun s => by rw [udsProcessRx_sid hpos h, if_pos rfl]
  simp only [udsSessionControl, h] at hserve
  by_cases hlen : reqLength ≠ 2
  · have hs : requestedMainSession (bytesOf reqData reqLength) = none :=
      if_neg fun hr => hlen (by rw [← hr.1, bytesOf_length])
    simp only [if_pos hlen] at hserve
    exact mainAnswers_negative hpos h (mainServed_other hs hc _) fun s _ => hserve s
  · have hsub : (bytesOf reqData reqLength).getD 1 0 = reqData 1 := getD_bytesOf reqData (by omega)
    simp only [if_neg hlen] at hserve
    by_cases hsession : reqData 1 = 0x01 ∨ reqData 1 = 0x03
    · have hs : requestedMainSession (bytesOf reqData reqLength) = some (reqData 1) := by
        rw [← hsub] at hsession ⊢
        exact if_pos ⟨by rw [bytesOf_length]; omega, hsid, hsession⟩
      -- the two sessions have the suppress bit clear, so the echo is the byte itself
      have hmask : reqData 1 &&& 0x7F = reqData 1 := by
        rcases hsession with h1 | h3
        · rw [h1]
          decide
        · rw [h3]
          decide
      have hecho : echo (bytesOf reqData reqLength) = [reqData 1] := by
        rw [echo_subfunction (Or.inl hsid), hsub, hmask]
      have hserved : mainServed (bytesOf reqData reqLength) d =
          { d with currentDiagSession := reqData 1 } := by
        rw [mainServed, if_neg hc, hs]
        rfl
      simp only [if_pos hsession] at hserve
      have hrespond : ∀ s : Main, s.dcm = d → udsProcessRx reqData reqLength s =
          respond ((0x10 + 0x40) :: ([reqData 1] ++ [0x0b, 0xb8, 0x0b, 0xb8]))
            { s.emit (.uds (bytesOf reqData reqLength)) with
              dcm := { d with currentDiagSession := reqData 1 } } := fun s hs => by
        rw [hserve s, ← hs]
        rfl
      exact mainAnswers_positive hpos h hecho (by simp) hserved hrespond
    · have hs : requestedMainSession (bytesOf reqData reqLength) = none :=
        if_neg fun hr => hsession (hsub ▸ hr.2.2)
      simp only [if_neg hsession] at hserve
      exact mainAnswers_negative hpos h (mainServed_other hs hc _) fun s _ => hserve s

theorem mainAnswers_readData (hpos : 1 ≤ reqLength) (h : reqData 0 = 0x22) :
    MainAnswers reqData reqLength d := by
  have hsid : (bytesOf reqData reqLength).getD 0 0 = 0x22 := by rw [getD_sid hpos, h]
  have hother : mainServed (bytesOf reqData reqLength) d = d :=
    mainServed_other (requestedMainSession_sid (by rw [hsid]; decide))
      (not_clearsDtc_sid (by rw [hsid]; decide)) d
  have hserve : ∀ s : Main, udsProcessRx reqData reqLength s =
      udsReadData reqData reqLength (s.emit (.uds (bytesOf reqData reqLength))) :=
    fun s => by rw [udsProcessRx_sid hpos h, if_neg (by decide), if_pos rfl]
  simp only [udsReadData, h, highByte_word16, lowByte_word16, emit_dcm] at hserve
  by_cases hlen : reqLength ≠ 3
  · simp only [if_pos hlen] at hserve
    exact mainAnswers_negative hpos h hother fun s _ => hserve s
  · have hecho : echo (bytesOf reqData reqLength) = [reqData 1, reqData 2] := by
      rw [echo_identifier hsid, getD_bytesOf reqData (by omega), getD_bytesOf reqData (by omega)]
    simp only [if_neg hlen] at hserve
    rcases hdata : didData (word16 (reqData 1) (reqData 2)) d with _ | data
    · have hrefuse : ∀ s : Main, s.dcm = d → udsProcessRx reqData reqLength s =
          sendNegativeResponse 0x22 0x31 (s.emit (.uds (bytesOf reqData reqLength))) :=
        fun s hs => by rw [hserve s, hs, hdata]
      exact mainAnswers_negative hpos h hother hrefuse
    · have hdataLen : data.length ≤ 4 := by
        simp only [didData] at hdata
        repeat' split at hdata
        all_goals first
          | (obtain rfl := Option.some.inj hdata; simp)
          | cases hdata
      have hrespond : ∀ s : Main, s.dcm = d → udsProcessRx reqData reqLength s =
          respond ((0x22 + 0x40) :: ([reqData 1, reqData 2] ++ data))
            { s.emit (.uds (bytesOf reqData reqLength)) with dcm := d } := fun s hs => by
        rw [hserve s, hs, hdata, ← hs]
        rfl
      exact mainAnswers_positive hpos h hecho (by simp; omega) hother hrespond

/-- The records of a report have four bytes. -/
theorem length_dtcRecords {table : List (List UInt8 × UInt8)} (h : ∀ p ∈ table, p.1.length = 3) :
    (dtcRecords table).length = 4 * table.length := by
  induction table with
  | nil => rfl
  | cons p table ih =>
      have hp := h p (by simp)
      have htail := ih fun q hq => h q (by simp [hq])
      simp only [dtcRecords, List.flatMap_cons, List.length_append, List.length_cons,
        List.length_nil] at htail ⊢
      omega

theorem dtcTable_codes (d : Dcm) : ∀ p ∈ dtcTable d, p.1.length = 3 := by
  intro p hp
  simp only [dtcTable, List.mem_cons, List.not_mem_nil, or_false] at hp
  rcases hp with rfl | rfl | rfl <;> rfl

theorem mainAnswers_readDtc (hpos : 1 ≤ reqLength) (h : reqData 0 = 0x19) :
    MainAnswers reqData reqLength d := by
  have hsid : (bytesOf reqData reqLength).getD 0 0 = 0x19 := by rw [getD_sid hpos, h]
  have hother : mainServed (bytesOf reqData reqLength) d = d :=
    mainServed_other (requestedMainSession_sid (by rw [hsid]; decide))
      (not_clearsDtc_sid (by rw [hsid]; decide)) d
  have hserve : ∀ s : Main, udsProcessRx reqData reqLength s =
      udsReadDtc reqData reqLength (s.emit (.uds (bytesOf reqData reqLength))) :=
    fun s => by rw [udsProcessRx_sid hpos h, if_neg (by decide), if_neg (by decide), if_pos rfl]
  simp only [udsReadDtc, h, emit_dcm] at hserve
  by_cases hlen : reqLength ≠ 2 ∧ reqLength ≠ 3
  · simp only [if_pos hlen] at hserve
    exact mainAnswers_negative hpos h hother fun s _ => hserve s
  · have hecho : echo (bytesOf reqData reqLength) = [reqData 1 &&& 0x7F] := by
      rw [echo_subfunction (Or.inr hsid), getD_bytesOf reqData (by omega)]
    have hthree : (dtcTable d).length = 3 := rfl
    simp only [if_neg hlen] at hserve
    by_cases hall : reqData 1 = 0x0A
    · rw [hall] at hecho
      have hrecords := length_dtcRecords (dtcTable_codes d)
      -- three records fit the response buffer
      have hdata : [(0x0A : UInt8) &&& 0x7F].length + (0xFF :: dtcRecords (dtcTable d)).length ≤
          14 := by
        rw [List.length_cons, List.length_cons, List.length_nil]
        omega
      simp only [if_pos hall] at hserve
      refine mainAnswers_positive hpos h hecho hdata hother fun s hs => ?_
      rw [hserve s, ← hs]
      rfl
    · simp only [if_neg hall] at hserve
      by_cases hmasked : reqData 1 = 0x02
      · rw [hmasked] at hecho
        have hfilter := List.length_filter_le (fun p : List UInt8 × UInt8 => p.2 &&& reqData 2 != 0)
          (dtcTable d)
        have hdata : [(0x02 : UInt8) &&& 0x7F].length + (0xFF :: dtcRecords
            ((dtcTable d).filter fun p => p.2 &&& reqData 2 != 0)).length ≤ 14 := by
          rw [List.length_cons, List.length_cons, List.length_nil, length_dtcRecords
            fun p hp => dtcTable_codes d p (List.mem_of_mem_filter hp)]
          omega
        simp only [if_pos hmasked] at hserve
        refine mainAnswers_positive hpos h hecho hdata hother fun s hs => ?_
        rw [hserve s, ← hs]
        rfl
      · simp only [if_neg hmasked] at hserve
        exact mainAnswers_negative hpos h hother fun s _ => hserve s

/-- Three bytes make the word of all ones only if they are all ones. -/
theorem packWord_group {b0 b1 b2 : UInt8} :
    ByteWords.packWord b0 b1 b2 0 = 0xFFFFFF ↔ b0 = 0xFF ∧ b1 = 0xFF ∧ b2 = 0xFF := by
  constructor
  · intro h
    have h0 := ByteWords.wordByte_packWord_zero b0 b1 b2 0
    have h1 := ByteWords.wordByte_packWord_one b0 b1 b2 0
    have h2 := ByteWords.wordByte_packWord_two b0 b1 b2 0
    rw [h] at h0 h1 h2
    exact ⟨h0.symm, h1.symm, h2.symm⟩
  · rintro ⟨rfl, rfl, rfl⟩
    decide

theorem mainAnswers_clearDtc (hpos : 1 ≤ reqLength) (h : reqData 0 = 0x14) :
    MainAnswers reqData reqLength d := by
  have hsid : (bytesOf reqData reqLength).getD 0 0 = 0x14 := by rw [getD_sid hpos, h]
  have hs : requestedMainSession (bytesOf reqData reqLength) = none :=
    requestedMainSession_sid (by rw [hsid]; decide)
  have hserve : ∀ s : Main, udsProcessRx reqData reqLength s =
      udsClearDtc reqData reqLength (s.emit (.uds (bytesOf reqData reqLength))) := fun s => by
    rw [udsProcessRx_sid hpos h, if_neg (by decide), if_neg (by decide), if_neg (by decide),
      if_pos rfl]
  simp only [udsClearDtc, h] at hserve
  by_cases hlen : reqLength ≠ 4
  · have hc : ¬ ClearsDtc (bytesOf reqData reqLength) :=
      fun hc => hlen (by rw [← hc.1, bytesOf_length])
    simp only [if_pos hlen] at hserve
    exact mainAnswers_negative hpos h (mainServed_other hs hc _) fun s _ => hserve s
  · have hbyte : ∀ i < 4, (bytesOf reqData reqLength).getD i 0 = reqData i :=
      fun i hi => getD_bytesOf reqData (by omega)
    have hclears : ClearsDtc (bytesOf reqData reqLength) ↔
        reqData 3 = 0xFF ∧ reqData 2 = 0xFF ∧ reqData 1 = 0xFF := by
      rw [ClearsDtc, hbyte 0 (by decide), hbyte 1 (by decide), hbyte 2 (by decide),
        hbyte 3 (by decide), bytesOf_length]
      constructor
      · rintro ⟨-, -, h1, h2, h3⟩
        exact ⟨h3, h2, h1⟩
      · rintro ⟨h3, h2, h1⟩
        exact ⟨not_not.mp hlen, h, h1, h2, h3⟩
    simp only [if_neg hlen] at hserve
    -- only the group of all codes is cleared
    by_cases hgroup : ByteWords.packWord (reqData 3) (reqData 2) (reqData 1) 0 = 0xFFFFFF
    · have hc := hclears.mpr (packWord_group.mp hgroup)
      have hserved : mainServed (bytesOf reqData reqLength) d =
          { d with pc := Dtc.clear, act := Dtc.clear, body := Dtc.clear } := if_pos hc
      simp only [if_pos hgroup] at hserve
      have hrespond : ∀ s : Main, s.dcm = d → udsProcessRx reqData reqLength s =
          respond ((0x14 + 0x40) :: ([] ++ []))
            { s.emit (.uds (bytesOf reqData reqLength)) with
              dcm := { d with pc := Dtc.clear, act := Dtc.clear, body := Dtc.clear } } :=
        fun s hs => by
          rw [hserve s, ← hs]
          rfl
      exact mainAnswers_positive hpos h (echo_clear hsid) (Nat.zero_le _) hserved hrespond
    · have hc := fun hc => hgroup (packWord_group.mpr (hclears.mp hc))
      simp only [if_neg hgroup] at hserve
      exact mainAnswers_negative hpos h (mainServed_other hs hc _) fun s _ => hserve s

/-- **A request to MAIN** that is not empty is answered at once. -/
theorem udsProcessRx_eq (reqData : Payload) {reqLength : Nat} (hpos : 1 ≤ reqLength) (d : Dcm) :
    MainAnswers reqData reqLength d := by
  by_cases h10 : reqData 0 = 0x10
  · exact mainAnswers_session hpos h10
  by_cases h22 : reqData 0 = 0x22
  · exact mainAnswers_readData hpos h22
  by_cases h19 : reqData 0 = 0x19
  · exact mainAnswers_readDtc hpos h19
  by_cases h14 : reqData 0 = 0x14
  · exact mainAnswers_clearDtc hpos h14
  have hsid : (bytesOf reqData reqLength).getD 0 0 = reqData 0 := getD_sid hpos
  have hserve : ∀ s : Main, udsProcessRx reqData reqLength s =
      sendNegativeResponse (reqData 0) 0x11 (s.emit (.uds (bytesOf reqData reqLength))) :=
    fun s => by
      rw [udsProcessRx_sid hpos rfl, if_neg h10, if_neg h22, if_neg h19, if_neg h14]
  have hother := mainServed_other (requestedMainSession_sid (hsid ▸ h10))
    (not_clearsDtc_sid (hsid ▸ h14)) d
  exact mainAnswers_negative hpos rfl hother fun s _ => hserve s

end Main

end UdsAnswer
