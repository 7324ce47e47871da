import RemoteVehicle.BodySpec

/-!
# The BODY command path refines the held-command specification

1. Outputs, measurements and diagnostic routines write pins, timers and fault bits but no
   request flag, so serving a diagnostic request is no event for the latch inside BODY
   (`bodyLatch_handleUdsRequest`).

2. `BodyCan_Update1ms` differs from a tick of the library's latch in one branch: it also
   applies a new command while the time-out has expired.  No run takes the branch, because
   the first update after an acceptance applies the command (`bodyLatch_update`).

3. `body_control_refines` follows with the library's `tick_output`.
-/

namespace BodyCommand

open Runs CanFrame BodyState BodyUds BodyCan BodySpec HeldCommand
open BodyControl (noRequests)

/-! ## Who writes the request flags -/

@[simp] theorem requests_delayUs (us : Nat) (s : BodyControlState) :
    (BodyControl.delayUs us s).requests = s.requests := rfl

@[simp] theorem requests_delayMs (ms : Nat) (s : BodyControlState) :
    (BodyControl.delayMs ms s).requests = s.requests := rfl

@[simp] theorem requests_writeBuzzerPin (on : Bool) (s : BodyControlState) :
    (BodyControl.writeBuzzerPin on s).requests = s.requests := rfl

@[simp] theorem requests_buzzerOff (s : BodyControlState) :
    (BodyControl.buzzerOff s).requests = s.requests := rfl

@[simp] theorem requests_applyOutputs (s : BodyControlState) :
    (BodyControl.applyOutputs s).requests = s.requests := rfl

@[simp] theorem requests_writeAllLamps (on : Bool) (s : BodyControlState) :
    (BodyControl.writeAllLamps on s).requests = s.requests := rfl

@[simp] theorem requests_updateDiagDangerLed (s : BodyControlState) :
    (BodyControl.updateDiagDangerLed s).requests = s.requests := rfl

@[simp] theorem requests_latchUltrasonicFault (s : BodyControlState) :
    (BodyControl.latchUltrasonicFault s).requests = s.requests := rfl

@[simp] theorem requests_startBlink (s : BodyControlState) :
    (BodyControl.startDiagDangerLedBlink s).requests = s.requests := rfl

@[simp] theorem requests_syncFaultMask (s : BodyControlState) :
    (BodyControl.syncUltrasonicDtcFaultMask s).requests = s.requests := rfl

@[simp] theorem requests_clearDtcHistory (s : BodyControlState) :
    (BodyControl.clearDtcHistory s).requests = s.requests := rfl

@[simp] theorem requests_silenceWarning (s : BodyControlState) :
    (BodyControl.silenceWarning s).requests = s.requests := by
  rw [BodyControl.silenceWarning]
  split <;> rfl

@[simp] theorem requests_playToneForMs (freqHz durationMs : Nat) (s : BodyControlState) :
    (BodyControl.playToneForMs freqHz durationMs s).requests = s.requests := by
  rw [BodyControl.playToneForMs]
  split <;> simp

/-- The horn plays slice after slice and requests nothing. -/
theorem requests_hornSlices (hold fuel freqHz otherHz elapsed : Nat) (s : BodyControlState) :
    (BodyControl.hornSlices hold fuel freqHz otherHz elapsed s).requests = s.requests := by
  induction fuel generalizing freqHz otherHz elapsed s with
  | zero => rfl
  | succ fuel ih =>
      rw [BodyControl.hornSlices]
      split
      · simp only [ih, requests_playToneForMs]
      · rfl

@[simp] theorem requests_hornForMs (hold : Nat) (s : BodyControlState) :
    (BodyControl.hornForMs hold s).requests = s.requests := by
  rw [BodyControl.hornForMs]
  split <;> simp [requests_hornSlices]

@[simp] theorem requests_runBuzzer (s : BodyControlState) :
    (BodyControl.runBuzzerDiagnosticRoutine s).requests = s.requests :=
  requests_hornForMs 500 s

@[simp] theorem requests_runLed (s : BodyControlState) :
    (BodyControl.runLedDiagnosticRoutine s).requests = s.requests := by
  simp [BodyControl.runLedDiagnosticRoutine]

@[simp] theorem requests_runUltrasonic (echo : UltrasonicEcho) (s : BodyControlState) :
    (BodyControl.runUltrasonicDiagnosticRoutine echo s).2.requests = s.requests := by
  simp only [BodyControl.runUltrasonicDiagnosticRoutine]
  split <;> simp

@[simp] theorem requests_updateUltrasonicDtcStatus (failed : Bool) (s : BodyControlState) :
    (BodyControl.updateUltrasonicDtcStatus failed s).requests = s.requests := by
  simp only [BodyControl.updateUltrasonicDtcStatus]
  split <;> simp

@[simp] theorem requests_updateUltrasonic1ms (inp : BodyInputs) (s : BodyControlState) :
    (BodyControl.updateUltrasonic1ms inp s).requests = s.requests := by
  simp only [BodyControl.updateUltrasonic1ms, BodyControl.measurePeriodic]
  split
  · rfl
  · split
    · rfl
    · split <;> simp

@[simp] theorem requests_updateHorn1ms (s : BodyControlState) :
    (BodyControl.updateHorn1ms s).requests = s.requests := by
  rw [BodyControl.updateHorn1ms]
  split
  · rfl
  · split <;> rfl

@[simp] theorem requests_updateWarningSound (s : BodyControlState) :
    (BodyControl.updateCollisionWarningSound1ms s).requests = s.requests := by
  simp only [BodyControl.updateCollisionWarningSound1ms]
  split
  · simp
  · split
    · rfl
    · simp only [BodyControl.writeBuzzerIf]
      split <;> rfl

@[simp] theorem requests_updateDtcStatus1ms (inp : BodyInputs) (s : BodyControlState) :
    (BodyControl.updateDtcStatus1ms inp s).requests = s.requests := by
  simp only [BodyControl.updateDtcStatus1ms]
  split <;> simp

@[simp] theorem requests_updateDangerBlink (s : BodyControlState) :
    (BodyControl.updateDiagDangerLedBlink1ms s).requests = s.requests := by
  rw [BodyControl.updateDiagDangerLedBlink1ms]
  split
  · rfl
  · split
    · rfl
    · split <;> rfl

@[simp] theorem requests_updateBlink (s : BodyControlState) :
    (BodyControl.updateBlink s).requests = s.requests := by
  rw [BodyControl.updateBlink]
  split
  · rfl
  · split <;> rfl

/-- **The 1 ms output update keeps the requests.** -/
theorem requests_update1ms (inp : BodyInputs) (s : BodyControlState) :
    (BodyControl.update1ms inp s).requests = s.requests := by
  simp [BodyControl.update1ms, BodyControl.updateDiagnosis1ms]

/-! ## Commands -/

theorem requests_setTurnSignal (turnMode : UInt8) (s : BodyControlState) :
    (BodyControl.setTurnSignal turnMode s).requests =
      { s.requests with
        leftTurnEnabled := turnMode == bodyCanTurnLeft || turnMode == bodyCanTurnHazard
        rightTurnEnabled := turnMode == bodyCanTurnRight || turnMode == bodyCanTurnHazard } := by
  rw [BodyControl.setTurnSignal]
  by_cases hl : turnMode = BodyControl.turnLeft
  · rw [if_pos hl, hl]; rfl
  · by_cases hr : turnMode = BodyControl.turnRight
    · rw [if_neg hl, if_pos hr, hr]; rfl
    · by_cases hh : turnMode = BodyControl.turnHazard
      · rw [if_neg hl, if_neg hr, if_pos hh, hh]; rfl
      · have hl' : (turnMode == bodyCanTurnLeft) = false := beq_false_of_ne hl
        have hr' : (turnMode == bodyCanTurnRight) = false := beq_false_of_ne hr
        have hh' : (turnMode == bodyCanTurnHazard) = false := beq_false_of_ne hh
        rw [if_neg hl, if_neg hr, if_neg hh, hl', hr', hh']
        rfl

theorem requests_setHorn (on : Bool) (s : BodyControlState) :
    (BodyControl.setHorn on s).requests = { s.requests with hornEnabled := on } := by
  rw [BodyControl.setHorn]
  split <;> rfl

theorem requests_setCollisionWarningLamp (on : Bool) (s : BodyControlState) :
    (BodyControl.setCollisionWarningLamp on s).requests =
      { s.requests with collisionWarningLampOn := on } := by
  rw [BodyControl.setCollisionWarningLamp]
  split <;> simp

/-- **Applying a command requests its decode.** -/
theorem requests_applyBodyCommand (inp : BodyInputs) (c : BodyCommand) (s : Body) :
    (bodyCanApplyBodyCommand inp c s).control.requests = bodyDecode c := by
  by_cases hm : c.controlModeRaw = bodyCanControlRemoteDrive
  · simp only [bodyCanApplyBodyCommand, bodyDecode, if_neg (not_not.mpr hm), if_pos hm,
      requests_setCollisionWarningLamp, requests_setHorn, BodyControl.setBrakeLamp,
      BodyControl.setHeadlamp, requests_applyOutputs, requests_setTurnSignal]
  · simp only [bodyCanApplyBodyCommand, bodyDecode, if_pos hm, if_neg hm]
    rfl

/-! ## The rest of the update -/

/-- Who leaves the latch alone. -/
theorem bodyLatch_sendRawFrame (busy : Bool) (id dlc : Nat) (b : List UInt8) (s : Body) :
    bodyLatch (sendRawFrame busy id dlc b s).2 = bodyLatch s := by
  rw [sendRawFrame]
  split <;> rfl

theorem bodyLatch_sendUdsPayload (busy : Bool) (payload : List UInt8) (s : Body) :
    bodyLatch (sendUdsPayload busy payload s) = bodyLatch s := by
  rw [sendUdsPayload]
  split
  · rfl
  · exact bodyLatch_sendRawFrame _ _ _ _ s

/-- A step of the outputs that keeps the requests keeps the latch. -/
theorem bodyLatch_control {s : Body} {u : BodyControlState}
    (h : u.requests = s.control.requests) : bodyLatch { s with control := u } = bodyLatch s := by
  simp only [bodyLatch, h]

theorem bodyLatch_readDid (inp : BodyInputs) (payload : List UInt8) (s : Body) :
    bodyLatch (handleUdsReadDid inp payload s) = bodyLatch s := by
  have hsend : ∀ p t, bodyLatch (sendUdsPayload inp.udsTxBusy p t) = bodyLatch t :=
    bodyLatch_sendUdsPayload inp.udsTxBusy
  simp only [handleUdsReadDid]
  split
  · exact hsend _ s
  · split
    · exact hsend _ s
    · split
      · rw [hsend, bodyLatch_control (requests_runUltrasonic _ _)]
      · repeat' split
        all_goals exact hsend _ s

theorem bodyLatch_routineControl (inp : BodyInputs) (payload : List UInt8) (s : Body) :
    bodyLatch (handleUdsRoutineControl inp payload s) = bodyLatch s := by
  have hsend : ∀ p t, bodyLatch (sendUdsPayload inp.udsTxBusy p t) = bodyLatch t :=
    bodyLatch_sendUdsPayload inp.udsTxBusy
  simp only [handleUdsRoutineControl]
  split
  · exact hsend _ s
  · split
    · exact hsend _ s
    · split
      · rw [hsend, bodyLatch_control (requests_runBuzzer _)]
      · split
        · rw [hsend, bodyLatch_control (requests_runLed _)]
        · split
          · rw [hsend, bodyLatch_control (requests_runUltrasonic _ _)]
          · exact hsend _ s

/-- **A diagnostic request is no event for the command path.** -/
theorem bodyLatch_handleUdsRequest (inp : BodyInputs) (b : Vector UInt8 8) (s : Body) :
    bodyLatch (handleUdsRequest inp b s) = bodyLatch s := by
  have hsend : ∀ p t, bodyLatch (sendUdsPayload inp.udsTxBusy p t) = bodyLatch t :=
    bodyLatch_sendUdsPayload inp.udsTxBusy
  simp only [handleUdsRequest]
  split
  · rfl
  · split
    · rfl
    · split
      · simp only [handleUdsSessionControl]
        repeat' split
        all_goals exact hsend _ _
      · split
        · exact bodyLatch_readDid inp _ s
        · split
          · simp only [handleUdsReadDtc]
            repeat' split
            all_goals exact hsend _ s
          · split
            · simp only [handleUdsClearDtc]
              split
              · exact hsend _ s
              · split
                · exact hsend _ s
                · rw [hsend, bodyLatch_control (requests_clearDtcHistory _)]
            · split
              · exact bodyLatch_routineControl inp _ s
              · exact hsend _ s

theorem bodyLatch_processUds (inp : BodyInputs) (s : Body) :
    bodyLatch (processUdsRequestIfNeeded inp s) = bodyLatch s := by
  rw [processUdsRequestIfNeeded]
  split
  · rw [bodyLatch_handleUdsRequest]
    rfl
  · rfl

theorem bodyLatch_collisionEvent (busy : Bool) (s : Body) :
    bodyLatch (bodyCanSendPendingCollisionEventIfNeeded busy s) = bodyLatch s := by
  have hsend : ∀ time, bodyLatch (bodyCanSendCollisionEvent busy time s) = bodyLatch s := by
    intro time
    simp only [bodyCanSendCollisionEvent]
    split
    · exact bodyLatch_sendRawFrame _ _ _ _ s
    · exact bodyLatch_sendRawFrame _ _ _ _ s
  simp only [bodyCanSendPendingCollisionEventIfNeeded]
  split
  · rfl
  · split
    · exact hsend _
    · exact hsend _

theorem bodyLatch_heartbeat (busy : Bool) (s : Body) :
    bodyLatch (bodyCanSendHeartbeatIfNeeded busy s) = bodyLatch s := by
  simp only [bodyCanSendHeartbeatIfNeeded]
  split
  · rfl
  · simp only [bodyCanSendHeartbeat]
    split
    · exact bodyLatch_sendRawFrame busy _ _ _ _
    · exact bodyLatch_sendRawFrame busy _ _ _ _

theorem bodyLatch_serveRequestsAndSend (inp : BodyInputs) (s : Body) :
    bodyLatch (serveRequestsAndSend inp s) = bodyLatch s := by
  rw [serveRequestsAndSend, bodyLatch_heartbeat, bodyLatch_collisionEvent,
    bodyLatch_processUds]

/-! ## Receive interrupt -/

/-- An accepted frame stores its command. -/
theorem rxIsr_accepted {m : CanMessage} {c : BodyCommand} (h : accepted m = some c)
    (s : Body) : bodyCanRxIsrHandler m s = storeCommand c s := by
  rw [accepted] at h
  split at h
  · rename_i hm
    obtain rfl := Option.some.inj h
    have hne : m.messageId ≠ bodyCanUdsReqId := by rw [hm.1]; decide
    simp only [bodyCanRxIsrHandler]
    rw [if_neg hne, if_neg (by simp [hm.1, hm.2.1]), if_pos hm.2.2]
  · exact absurd h (by simp)

/-- Every other frame is stored as a diagnostic request or counted as invalid. -/
theorem rxIsr_rejected {m : CanMessage} (h : accepted m = none) (s : Body) :
    bodyCanRxIsrHandler m s =
      if IsUdsRequest m then storeUdsRequest (rxByte m) s else countInvalid s := by
  simp only [bodyCanRxIsrHandler]
  by_cases hid : m.messageId = bodyCanUdsReqId
  · by_cases hdlc : m.dataLengthCode = 8
    · have hr : IsUdsRequest m := ⟨hid, hdlc⟩
      rw [if_pos hid, if_neg (not_not.mpr hdlc), if_pos hr]
    · have hr : ¬ IsUdsRequest m := fun hr => hdlc hr.2
      rw [if_pos hid, if_pos hdlc, if_neg hr]
  · have hr : ¬ IsUdsRequest m := fun hr => hid hr.1
    rw [if_neg hid, if_neg hr]
    split
    · rfl
    · rename_i hhead
      simp only [not_or, ne_eq, not_not] at hhead
      rw [if_neg]
      intro hv
      rw [accepted, if_pos ⟨hhead.1, hhead.2, hv⟩] at h
      exact absurd h (by simp)

/-- A rejected frame is no event for the latch. -/
theorem bodyLatch_rejected {m : CanMessage} (h : accepted m = none) (s : Body) :
    bodyLatch (bodyCanRxIsrHandler m s) = bodyLatch s := by
  rw [rxIsr_rejected h]
  split <;> rfl

/-! ## The update is a tick -/

theorem bodyLatch_countTimeout (s : Body) :
    bodyLatch (countTimeout s) =
      { bodyLatch s with counter := (bodyLatch s).count bodyCanCmdTimeoutMs } := rfl

theorem bodyLatch_safeState (inp : BodyInputs) (s : Body) :
    bodyLatch (bodyCanEnterSafeState inp s) = { bodyLatch s with out := noRequests } := rfl

/-- Applying a command changes only the requests. -/
theorem bodyLatch_apply (inp : BodyInputs) (c : BodyCommand) (s : Body) :
    bodyLatch (bodyCanApplyBodyCommand inp c s) =
      { bodyLatch s with out := bodyDecode c } := by
  have hreq := requests_applyBodyCommand inp c s
  by_cases hm : c.controlModeRaw = bodyCanControlRemoteDrive
  · have happly : bodyCanApplyBodyCommand inp c s =
        { s with
          can := { s.can with current := c }
          control := (bodyCanApplyBodyCommand inp c s).control } := by
      simp only [bodyCanApplyBodyCommand, if_neg (not_not.mpr hm)]
    rw [happly]
    simp only [bodyLatch, hreq]
  · have happly : bodyCanApplyBodyCommand inp c s =
        { s with
          can := { s.can with current := { offCommand with controlModeRaw := c.controlModeRaw } }
          control := (bodyCanApplyBodyCommand inp c s).control } := by
      simp only [bodyCanApplyBodyCommand, if_pos hm]
      rfl
    rw [happly]
    simp only [bodyLatch, hreq]

/-- A command waits in the mailbox only until the next update. -/
def FreshIsYoung (s : Body) : Prop := s.can.rxUpdated = true → s.can.cmdTimeoutMs = 0

/-- **`BodyCan_Update1ms` is a tick of the latch.** -/
theorem bodyLatch_update (inp : BodyInputs) {s : Body} (h : FreshIsYoung s) :
    bodyLatch (bodyCanUpdate1ms inp s) =
      (bodyLatch s).tick bodyCanCmdTimeoutMs noRequests bodyDecode := by
  rw [bodyCanUpdate1ms, bodyLatch_serveRequestsAndSend]
  have hcount := bodyLatch_countTimeout s
  have hcounter : (countTimeout s).can.cmdTimeoutMs =
      (bodyLatch s).count bodyCanCmdTimeoutMs := rfl
  have hfresh : (countTimeout s).can.rxUpdated = (bodyLatch s).fresh := rfl
  rw [Latch.tick, checkTimeout, hcounter]
  by_cases hexp : bodyCanCmdTimeoutMs ≤ (bodyLatch s).count bodyCanCmdTimeoutMs
  · -- nothing can be new here: the counter of a new command is still at zero
    have hold : s.can.rxUpdated = false := by
      rcases hf : s.can.rxUpdated with _ | _
      · rfl
      · have hzero : (bodyLatch s).counter = 0 := h hf
        rw [Latch.count, hzero] at hexp
        exact absurd hexp (by decide)
    have hold' : (bodyCanEnterSafeState inp (countTimeout s)).can.rxUpdated = false := hold
    rw [if_pos hexp, if_pos hexp, applyUpdated, hold', if_neg (by simp),
      bodyLatch_safeState, hcount]
  · rw [if_neg hexp, if_neg hexp, applyUpdated, hfresh]
    split
    · rw [bodyLatch_apply]
      rfl
    · exact hcount

theorem freshIsYoung_update (inp : BodyInputs) {s : Body} (h : FreshIsYoung s) :
    FreshIsYoung (bodyCanUpdate1ms inp s) := by
  have htick := bodyLatch_update inp h
  intro hf
  have hfresh : (bodyLatch (bodyCanUpdate1ms inp s)).fresh = true := hf
  rw [htick, Latch.tick] at hfresh
  split at hfresh
  · rename_i hexp
    have hzero : (bodyLatch s).counter = 0 := h hfresh
    rw [Latch.count, hzero] at hexp
    exact absurd hexp (by decide)
  · split at hfresh
    · exact absurd hfresh (by simp)
    · rename_i hold
      exact absurd hfresh hold

/-! ## Step and run -/

/-- BODY follows the specification. -/
structure Follows (s : Body) (h : Held BodyCommand) : Prop where
  tracks : Tracks bodyCanCmdTimeoutMs bodyDecode (bodyLatch s) h
  young : FreshIsYoung s

/-- What keeps the latch keeps the relation. -/
theorem Follows.congr {s t : Body} {h : Held BodyCommand} (hf : Follows s h)
    (hl : bodyLatch t = bodyLatch s) : Follows t h := by
  refine ⟨by rw [hl]; exact hf.tracks, ?_⟩
  intro hfresh
  have hfresh' : (bodyLatch t).fresh = true := hfresh
  show (bodyLatch t).counter = 0
  rw [hl] at hfresh' ⊢
  exact hf.young hfresh'

/-- **Step lemma.** -/
theorem follows_step {s : Body} {h : Held BodyCommand} (hf : Follows s h) (e : BodyEvent) :
    Follows (bodyStep s e) (run Held.step h (bodyOps e)) := by
  cases e with
  | rxIsr m =>
      rcases hc : accepted m with _ | c
      · simp only [bodyOps, hc]
        exact hf.congr (bodyLatch_rejected hc s)
      · simp only [bodyOps, hc]
        show Follows (bodyCanRxIsrHandler m s) (h.step (.accept c))
        rw [rxIsr_accepted hc]
        exact ⟨tracks_step noRequests hf.tracks (.accept c), fun _ => rfl⟩
  | call inp c =>
      cases c with
      | canUpdate1ms =>
          refine ⟨?_, freshIsYoung_update inp hf.young⟩
          show Tracks _ _ (bodyLatch (bodyCanUpdate1ms inp s)) (h.step .tick)
          rw [bodyLatch_update inp hf.young]
          exact tracks_step noRequests hf.tracks .tick
      | controlUpdate1ms => exact hf.congr (bodyLatch_control (requests_update1ms inp s.control))
      | reportCollision =>
          refine hf.congr ?_
          show bodyLatch (reportCollisionIfPressed s) = bodyLatch s
          rw [reportCollisionIfPressed]
          split <;> rfl
      | delay1ms => exact hf.congr rfl

/-- **Run lemma.** -/
theorem follows_run {s : Body} {h : Held BodyCommand} (hf : Follows s h)
    (es : List BodyEvent) :
    Follows (run bodyStep s es) (run Held.step h (es.flatMap bodyOps)) := by
  induction es generalizing s h with
  | nil => exact hf
  | cons e es ih =>
      rw [List.flatMap_cons, run_append]
      exact ih (follows_step hf e)

/-- `BodyCan_Init` establishes the relation. -/
theorem follows_init (inp : BodyInputs) (s : Body) :
    Follows (bodyCanInit inp s) Held.empty := by
  refine ⟨tracks_empty rfl, ?_⟩
  intro hf
  exact absurd (show false = true from hf) (by simp)

/-! ## Every run of the command path -/

/-- **THE BODY COMMAND PATH REFINES ITS SPECIFICATION.**  From `BodyCan_Init`, over any
    interleaving of received frames — diagnostic requests included — and main loop calls:
    after every `BodyCan_Update1ms` the request flags are those of the command held.  A
    frame that is no accepted command changes none of them, nor anything else but the
    request buffer or the invalid counter. -/
theorem body_control_refines (init : BodyInputs) (s : Body) :
    (∀ (es : List BodyEvent) (inp : BodyInputs),
      (run bodyStep (bodyCanInit init s) (es ++ [.call inp .canUpdate1ms])).control.requests =
        bodySpecRequests (bodyHeldAfter (es ++ [.call inp .canUpdate1ms]))) ∧
    (∀ (t : Body) (m : CanMessage), accepted m = none →
      bodyCanRxIsrHandler m t =
        if IsUdsRequest m then storeUdsRequest (rxByte m) t else countInvalid t) ∧
    (∀ (t : Body) (m : CanMessage),
      (bodyCanRxIsrHandler m t).control.requests = t.control.requests) := by
  refine ⟨?_, ?_, ?_⟩
  · intro es inp
    have hf := follows_run (follows_init init s) es
    have hheld : bodyHeldAfter (es ++ [.call inp .canUpdate1ms]) =
        (run Held.step Held.empty (es.flatMap bodyOps)).step .tick := by
      rw [bodyHeldAfter, List.flatMap_append, run_append]
      rfl
    rw [run_snoc, hheld, bodySpecRequests, ← tick_output hf.tracks,
      ← bodyLatch_update inp hf.young]
    rfl
  · intro t m hm
    exact rxIsr_rejected hm t
  · intro t m
    rcases hc : accepted m with _ | c
    · rw [rxIsr_rejected hc]
      split <;> rfl
    · rw [rxIsr_accepted hc]
      rfl

end BodyCommand
