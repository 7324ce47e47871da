import RemoteVehicle.BodyFrameProofs

/-!
# Routines and the extended session

ACT and BODY both remember the session that the last accepted DiagnosticSessionControl
selected, and both have routines that RoutineControl starts.  ACT looks at the session
first; BODY does not look at it at all.

The session of the history runs beside the machine: `withSpec` feeds it the requests that
are served.  `ActGated` and `BodyGated` say what the gate demands of a step.  Every step of
ACT meets it; a step of BODY meets it exactly when no start request comes outside the
extended session.
-/

namespace SessionGate

open ActUdsDiag hiding word16
open Runs CanFrame ActState ActLoop BodyState BodyUds BodyCan BodySpec UdsFrame UdsAnswer
open UdsTrace BodyFrame

/-! ## The session of the history -/

/-- An accepted DiagnosticSessionControl selects the session, other requests keep it. -/
def sessionStep (session : UInt8) (req : List UInt8) : UInt8 :=
  (requestedSession req).getD session

/-- A RoutineControl request, well formed or not. -/
def IsRoutineControl (req : List UInt8) : Prop := req.getD 0 0 = 0x31

theorem not_session {req : List UInt8} (h : IsRoutineControl req) : requestedSession req = none :=
  requestedSession_sid (by rw [h]; decide)

/-! ## ACT -/

/-- ACT with the session of its history. -/
def actSessions : ActMachine × UInt8 → ActEvent → ActMachine × UInt8 :=
  withSpec actStep sessionStep actRequests

/-- The waiting request is answered negatively, and motor and steering stay. -/
def ActRefuses (busy : Bool) (s : Act) : Prop :=
  (∃ nrc, udsDiagServeRequest busy s =
    udsDiagSendNegativeResponse busy sidRoutineControl nrc (actTaken s)) ∧
  (udsDiagServeRequest busy s).motor = s.motor ∧
  (udsDiagServeRequest busy s).steering = s.steering

/-- What the gate demands of a step of ACT. -/
structure ActGated (p : ActMachine × UInt8) (e : ActEvent) : Prop where
  starts : p.1.act.uds.routineState = .none →
    (actStep p.1 e).act.uds.routineState ≠ .none → p.2 = sessionExtended
  refuses : ∀ inp, e = .call inp → ∀ req ∈ actRequests p.1 e, IsRoutineControl req →
    p.2 ≠ sessionExtended → ActRefuses inp.responseTxBusy p.1.act

section Act

variable {busy : Bool} {s : Act}

/-- **Outside the extended session** RoutineControl is refused, whatever it asks for. -/
theorem actServe_refuses {req : List UInt8} (h : IsRoutineControl req)
    (hsession : s.uds.diagSession ≠ sessionExtended) :
    ∃ nrc, actServe busy req s = udsDiagSendNegativeResponse busy sidRoutineControl nrc s := by
  rw [actServe_routineControl h, udsDiagHandleRoutineControl]
  split
  · exact ⟨_, rfl⟩
  · split
    · exact ⟨_, rfl⟩
    · exact ⟨_, rfl⟩

theorem actRefuses {req : List UInt8} (hreq : req ∈ actWaiting s.uds) (h : IsRoutineControl req)
    (hsession : s.uds.diagSession ≠ sessionExtended) : ActRefuses busy s := by
  rcases serveRequest_eq busy s with ⟨hnone, -⟩ | ⟨other, hother, hserve⟩
  · rw [hnone] at hreq
    cases hreq
  · rw [hother] at hreq
    obtain rfl := List.mem_singleton.mp hreq
    obtain ⟨nrc, hnrc⟩ : ∃ nrc, actServe busy req (actTaken s) =
        udsDiagSendNegativeResponse busy sidRoutineControl nrc (actTaken s) :=
      actServe_refuses h hsession
    obtain ⟨_, _, hsend⟩ := ActFrame.sendSingleFrame_writes busy
      [sidNegativeResponse, sidRoutineControl, nrc] (actTaken s)
    rw [ActRefuses, hserve, hnrc]
    refine ⟨⟨nrc, rfl⟩, ?_⟩
    rw [udsDiagSendNegativeResponse, hsend]
    exact ⟨rfl, rfl⟩

/-- What serving does to session and routine. -/
theorem serveRequest_gate (busy : Bool) (s : Act) :
    (udsDiagServeRequest busy s).uds.diagSession =
        run sessionStep s.uds.diagSession (actWaiting s.uds) ∧
      (s.uds.routineState = .none → (udsDiagServeRequest busy s).uds.routineState ≠ .none →
        s.uds.diagSession = sessionExtended) := by
  rcases serveRequest_eq busy s with ⟨hnone, hserve | hserve⟩ | ⟨req, hreq, hserve⟩
  · rw [hnone, hserve]
    exact ⟨rfl, fun hidle hrun => absurd hidle hrun⟩
  · rw [hnone, hserve]
    exact ⟨rfl, fun hidle hrun => absurd hidle hrun⟩
  · rw [hreq, hserve]
    rcases actServe_cases busy req (actTaken s) with ⟨resp, -, -, -, heq⟩ | hstart
    · -- answered at once: only a session request selects one
      obtain ⟨_, _, hsend⟩ := ActFrame.sendSingleFrame_writes busy resp (actServed req (actTaken s))
      rw [heq, hsend]
      have hserved : (actServed req (actTaken s)).uds.diagSession =
            sessionStep s.uds.diagSession req ∧
          (actServed req (actTaken s)).uds.routineState = s.uds.routineState := by
        rw [actServed, sessionStep]
        split
        · rename_i session heq
          rw [heq]
          exact ⟨rfl, rfl⟩
        · rename_i heq
          rw [heq]
          split <;> exact ⟨rfl, rfl⟩
      refine ⟨hserved.1, ?_⟩
      intro hidle hrun
      rw [hserved.2] at hrun
      exact absurd hidle hrun
    · -- the request that starts a routine is none that selects a session
      have hother : ∀ rid, routineOf 0xFF req = some rid → requestedSession req = none := by
        intro rid hrid
        by_contra hs
        have hsid : req.getD 0 0 = 0x31 := by
          by_contra hne
          rw [routineOf_sid hne] at hrid
          cases hrid
        exact hs (not_session hsid)
      refine ⟨?_, fun _ _ => hstart.session⟩
      rcases hstart.routine with ⟨hrid, heq⟩ | ⟨hrid, heq⟩
      · rw [heq, run_cons, run_nil, sessionStep, hother _ hrid]
        rfl
      · rw [heq, run_cons, run_nil, sessionStep, hother _ hrid]
        rfl

/-- The running routine never starts another. -/
theorem updateRoutine_gate (busy : Bool) (s : Act) :
    (udsDiagUpdateRoutine1ms busy s).uds.diagSession = s.uds.diagSession ∧
      (s.uds.routineState = .none → (udsDiagUpdateRoutine1ms busy s).uds.routineState = .none) := by
  constructor
  · obtain ⟨_, _, _, _, _, _, _, hupdate⟩ := ActFrame.updateRoutine_only busy s
    rw [hupdate]
  · intro hidle
    rw [udsDiagUpdateRoutine1ms, hidle]
    exact hidle

/-- The machine's session is that of the history. -/
structure ActInSession (p : ActMachine × UInt8) : Prop where
  session : p.1.act.uds.diagSession = p.2
  booted : BootedDiag p.1

theorem actInSession_step {p : ActMachine × UInt8} (h : ActInSession p) (e : ActEvent) :
    ActInSession (actSessions p e) := by
  refine ⟨?_, bootedDiag_step h.booted e⟩
  show (actStep p.1 e).act.uds.diagSession = run sessionStep p.2 (actRequests p.1 e)
  rcases act_step_cases h.booted e with ⟨-, hnone, hsame⟩ | ⟨inp, -, -, hreqs, hact⟩
  · rw [hnone, hsame.session]
    exact h.session
  · rw [hact, hreqs, udsDiagUpdate1ms, (sameDiag_monitor _).session, (updateRoutine_gate _ _).1,
      (serveRequest_gate _ _).1, h.session]

/-- **Every step of ACT meets the gate.** -/
theorem actGated_step {p : ActMachine × UInt8} (h : ActInSession p) (e : ActEvent) :
    ActGated p e := by
  rcases act_step_cases h.booted e with ⟨-, hnone, hsame⟩ | ⟨inp, rfl, -, hreqs, hact⟩
  · refine ⟨?_, ?_⟩
    · intro hidle hrun
      rw [hsame.routine] at hrun
      exact absurd hidle hrun
    · intro inp _ req hreq
      rw [hnone] at hreq
      cases hreq
  · refine ⟨?_, ?_⟩
    · intro hidle hrun
      rw [← h.session]
      refine (serveRequest_gate inp.responseTxBusy p.1.act).2 hidle fun hserved => hrun ?_
      rw [hact, udsDiagUpdate1ms, (sameDiag_monitor _).routine]
      exact (updateRoutine_gate inp.routineTxBusy _).2 hserved
    · intro other he req hreq hroutine hsession
      obtain rfl := ActEvent.call.inj he
      rw [hreqs] at hreq
      rw [← h.session] at hsession
      exact actRefuses hreq hroutine hsession

theorem act_gated (r : ActReset) (es : List ActEvent) :
    AllSteps actSessions ActGated (actReset r, sessionDefault) es := by
  have hsteps : AllSteps actSessions (fun _ _ => True) (actReset r, sessionDefault) es :=
    allSteps_of_mem fun _ _ _ => trivial
  have hreset : ActInSession (actReset r, sessionDefault) := ⟨rfl, bootedDiag_reset r⟩
  exact allSteps_guarded ActInSession (fun _ e h _ => actInSession_step h e)
    (fun _ e h _ => actGated_step h e) hreset hsteps

end Act

/-! ## BODY -/

/-- BODY with the session of its history. -/
def bodySessions : Body × UInt8 → BodyEvent → Body × UInt8 :=
  withSpec bodyStep sessionStep bodyRequests

/-- The routines of BODY; the third with the echo that it finds. -/
def bodyRoutines (inp : BodyInputs) : List (BodyControlState → BodyControlState) :=
  [BodyControl.runBuzzerDiagnosticRoutine, BodyControl.runLedDiagnosticRoutine,
   fun c => (BodyControl.runUltrasonicDiagnosticRoutine inp.requestEcho c).2]

/-- A well-formed request to start one of them. -/
def StartsRoutine (req : List UInt8) : Prop :=
  routineOf 0x7F req = some udsRidBuzzerTest ∨ routineOf 0x7F req = some udsRidLedAllTest ∨
    routineOf 0x7F req = some udsRidUltrasonicTest

/-- What the gate demands of a step of BODY. -/
structure BodyGated (p : Body × UInt8) (e : BodyEvent) : Prop where
  starts : ∀ inp, e = .call inp .canUpdate1ms → ∀ req ∈ bodyRequests p.1 e,
    IsRoutineControl req → ∀ f ∈ bodyRoutines inp,
      (processUdsRequestIfNeeded inp (bodyPrepared inp p.1)).control =
        f (bodyPrepared inp p.1).control → p.2 = udsSessionExtended
  refuses : ∀ inp, e = .call inp .canUpdate1ms → ∀ req ∈ bodyRequests p.1 e,
    IsRoutineControl req → p.2 ≠ udsSessionExtended →
      (∃ nrc, processUdsRequestIfNeeded inp (bodyPrepared inp p.1) =
        sendUdsNegativeResponse inp.udsTxBusy udsSidRoutineControl nrc
          (bodyTaken (bodyPrepared inp p.1))) ∧
      (processUdsRequestIfNeeded inp (bodyPrepared inp p.1)).control =
        (bodyPrepared inp p.1).control

/-- No start request is served outside the extended session. -/
def StartsInSession (p : Body × UInt8) (e : BodyEvent) : Prop :=
  ∀ req ∈ bodyRequests p.1 e, StartsRoutine req → p.2 = udsSessionExtended

section Body

variable {inp : BodyInputs} {req : List UInt8}

theorem isRoutineControl_of_starts (h : StartsRoutine req) : IsRoutineControl req := by
  by_contra hne
  have hnone : routineOf 0x7F req = none := routineOf_sid hne
  rcases h with h | h | h
  · rw [hnone] at h
    cases h
  · rw [hnone] at h
    cases h
  · rw [hnone] at h
    cases h

/-- **A start request runs its routine in any session.** -/
theorem bodyServe_starts (inp : BodyInputs) (h : StartsRoutine req) (t : Body) :
    ∃ f ∈ bodyRoutines inp, (bodyServe inp req t).control = f t.control := by
  have hsid : req.getD 0 0 = udsSidRoutineControl := isRoutineControl_of_starts h
  have hclear : ¬ ClearsDtc req := not_clearsDtc_sid (by rw [hsid]; decide)
  have hread : ¬ ReadsDistance req := not_readsDistance_sid (by rw [hsid]; decide)
  obtain ⟨resp, -, -, -, hserve⟩ := bodyServe_eq inp req t
  have hcontrol : (bodyServe inp req t).control = bodyControlServed inp req t.control := by
    rw [hserve, sendUdsPayload_control]
    rfl
  rw [hcontrol, bodyControlServed, if_neg hclear]
  rcases h with hbuzzer | hled | hultra
  · refine ⟨_, List.mem_cons_self, ?_⟩
    rw [hbuzzer, if_neg (by simp [hread, udsRidBuzzerTest, udsRidUltrasonicTest]), if_pos rfl]
  · refine ⟨_, List.mem_cons_of_mem _ List.mem_cons_self, ?_⟩
    rw [hled, if_neg (by simp [hread, udsRidLedAllTest, udsRidUltrasonicTest]),
      if_neg (by decide), if_pos rfl]
  · refine ⟨_, List.mem_cons_of_mem _ (List.mem_cons_of_mem _ List.mem_cons_self), ?_⟩
    rw [if_pos (Or.inr hultra)]

/-- **Every other RoutineControl is refused.** -/
theorem bodyServe_refuses (inp : BodyInputs) (h : IsRoutineControl req)
    (hstart : ¬ StartsRoutine req) (t : Body) :
    ∃ nrc, bodyServe inp req t =
      sendUdsNegativeResponse inp.udsTxBusy udsSidRoutineControl nrc t := by
  rw [bodyServe_routineControl h]
  simp only [handleUdsRoutineControl]
  split
  · exact ⟨_, rfl⟩
  · rename_i hlen
    split
    · exact ⟨_, rfl⟩
    · rename_i hsub
      have hrid : routineOf 0x7F req =
          some ((req.getD 2 0).toNat * 256 + (req.getD 3 0).toNat) :=
        if_pos ⟨not_not.mp hlen, h, not_not.mp hsub⟩
      rw [StartsRoutine, hrid, Option.some.injEq, Option.some.injEq, Option.some.injEq, not_or,
        not_or] at hstart
      obtain ⟨hbuzzer, hled, hultra⟩ := hstart
      rw [if_neg hbuzzer, if_neg hled, if_neg hultra]
      exact ⟨_, rfl⟩

/-- Every measurement takes some time. -/
theorem echoUs_pos (echo : UltrasonicEcho) (timeoutUs : Nat) : 0 < echoUs echo timeoutUs := by
  simp only [echoUs, BodyControl.measureUltrasonicDistanceCmWithTimeout]
  split
  · decide
  · split
    · simp only
      omega
    · split
      · simp only
        omega
      · simp only
        omega

/-- A routine that runs leaves a trace, if only in the timer. -/
theorem routine_moves {f : BodyControlState → BodyControlState} (hf : f ∈ bodyRoutines inp)
    (c : BodyControlState) : f c ≠ c := by
  have hlater : ∀ us, 0 < us → codeTime (f c) = later us (codeTime c) → f c ≠ c := by
    intro us hpos htime hsame
    rw [hsame] at htime
    have hstm : c.stmUs = c.stmUs + us := congrArg Prod.snd htime
    omega
  have hbuzzer := le_buzzerUs
  simp only [bodyRoutines, List.mem_cons, List.not_mem_nil, or_false] at hf
  rcases hf with rfl | rfl | rfl
  · exact hlater buzzerUs (by omega) (codeTime_runBuzzer c)
  · exact hlater 1000000 (by decide) (codeTime_runLed c)
  · exact hlater _ (echoUs_pos _ _) (codeTime_runUltrasonic c inp.requestEcho)

/-- The request that a step serves. -/
theorem bodyServed_eq {s : Body} (hreq : req ∈ bodyRequests s (.call inp .canUpdate1ms)) :
    processUdsRequestIfNeeded inp (bodyPrepared inp s) =
      bodyServe inp req (bodyTaken (bodyPrepared inp s)) := by
  have hreq : req ∈ bodyWaiting s.can := hreq
  obtain ⟨-, -, -, hwaiting⟩ := bodyPrepared_kept inp s
  rw [← hwaiting] at hreq
  rcases processUds_eq inp (bodyPrepared inp s) with ⟨hnone, -⟩ | ⟨other, hother, heq⟩
  · rw [hnone] at hreq
    cases hreq
  · rw [hother] at hreq
    obtain rfl := List.mem_singleton.mp hreq
    exact heq

/-- **A step of BODY meets the gate** exactly when it starts nothing outside the extended
    session. -/
theorem bodyGated_iff (p : Body × UInt8) (e : BodyEvent) :
    BodyGated p e ↔ StartsInSession p e := by
  constructor
  · rintro ⟨hstarts, -⟩ req hreq hroutine
    rcases body_step_cases p.1 e with ⟨hnone, -⟩ | ⟨inp, rfl⟩
    · rw [hnone] at hreq
      cases hreq
    · obtain ⟨f, hf, heq⟩ :=
        bodyServe_starts inp hroutine (bodyTaken (bodyPrepared inp p.1))
      refine hstarts inp rfl req hreq (isRoutineControl_of_starts hroutine) f hf ?_
      rw [bodyServed_eq hreq]
      exact heq
  · intro hcond
    constructor
    · rintro inp rfl req hreq hcontrol f hf heq
      by_cases hroutine : StartsRoutine req
      · exact hcond req hreq hroutine
      · -- a refusal leaves the control state, and no routine does
        obtain ⟨nrc, hnrc⟩ :=
          bodyServe_refuses inp hcontrol hroutine (bodyTaken (bodyPrepared inp p.1))
        rw [bodyServed_eq hreq, hnrc, sendUdsNegativeResponse, sendUdsPayload_control] at heq
        exact absurd heq.symm (routine_moves hf _)
    · rintro inp rfl req hreq hcontrol hsession
      have hroutine : ¬ StartsRoutine req := fun h => hsession (hcond req hreq h)
      obtain ⟨nrc, hnrc⟩ :=
        bodyServe_refuses inp hcontrol hroutine (bodyTaken (bodyPrepared inp p.1))
      rw [bodyServed_eq hreq, hnrc]
      refine ⟨⟨nrc, rfl⟩, ?_⟩
      rw [sendUdsNegativeResponse, sendUdsPayload_control]
      rfl

end Body

/-! ## The gate -/

/-- **ROUTINES AND THE SESSION.**  Every run of ACT meets the gate.  A run of BODY meets it
    exactly when every start request that BODY serves comes after the extended session was
    selected. -/
theorem routine_gate_iff (r : ActReset) (as : List ActEvent) (init : BodyInputs)
    (bs : List BodyEvent) :
    AllSteps actSessions ActGated (actReset r, sessionDefault) as ∧
      (AllSteps bodySessions BodyGated (bodyReset init, udsSessionDefault) bs ↔
        AllSteps bodySessions StartsInSession (bodyReset init, udsSessionDefault) bs) := by
  refine ⟨act_gated r as, ?_⟩
  exact allSteps_iff (fun _ => True) (fun _ _ _ _ => trivial) (fun p e _ => bodyGated_iff p e)
    trivial

/-- **BODY tests its LEDs in the default session.** -/
theorem body_starts_in_default_session :
    ¬ ∀ (init : BodyInputs) (bs : List BodyEvent),
      AllSteps bodySessions BodyGated (bodyReset init, udsSessionDefault) bs := by
  intro h
  have hgated := h restBodyInputs
    [.rxIsr (fdMessage bodyCanUdsReqId 8 [0x04, 0x31, 0x01, 0x02, 0x01]),
     .call restBodyInputs .canUpdate1ms]
  have hstarts := hgated.2.1.starts restBodyInputs rfl [0x31, 0x01, 0x02, 0x01]
    (by decide +kernel) rfl BodyControl.runLedDiagnosticRoutine
    (List.mem_cons_of_mem _ List.mem_cons_self) (by decide +kernel)
  exact absurd hstarts (by decide +kernel)

end SessionGate
