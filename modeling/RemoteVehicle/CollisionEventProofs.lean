import RemoteVehicle.UdsTrace
import RemoteVehicle.Coalescing

/-!
# No collision event is lost or sent twice

BODY keeps one collision event.  A report while an event waits is merged into it, and the
update of every millisecond tries to send it until a transmit buffer takes the frame; that
it was taken shows in a counter.

`update_cases` says what one update does: it leaves the event alone and sends no collision
frame, or it sends the frame of the waiting event and forgets the event.  `collision_events`
carries this through every order of reports, updates, received frames and whatever the
rest of the ECU does to lamps and sensors in between; `bodyRun_collision` says that a run of
the main loop is such an order.
-/

namespace CollisionEvent

open Runs CanFrame BodyState BodyUds BodyCan BodySpec UdsFrame UdsAnswer UdsTrace Coalescing

/-! ## Runs -/

/-- What happens to the event: it is reported, the update runs, and everything else. -/
inductive CollisionCall where
  /-- `BodyCan_ReportCollisionOccurred`. -/
  | report
  /-- `BodyCan_Update1ms`. -/
  | update1ms (inp : BodyInputs)
  | rxIsr (m : CanMessage)
  /-- `BodyControl.c` leaves its variables like this. -/
  | control (c : BodyControlState)

def collisionStep (s : Body) : CollisionCall → Body
  | .report => bodyCanReportCollisionOccurred s
  | .update1ms inp => bodyCanUpdate1ms inp s
  | .rxIsr m => bodyCanRxIsrHandler m s
  | .control c => { s with control := c }

/-- The steps of the main loop among these. -/
def collisionEvents (s : Body) : BodyEvent → List CollisionCall
  | .rxIsr m => [.rxIsr m]
  | .call inp .canUpdate1ms => [.update1ms inp]
  | .call inp .reportCollision =>
      if s.control.button.eventPending then
        [.control (bodyStep s (.call inp .reportCollision)).control, .report]
      else []
  | .call inp c => [.control (bodyStep s (.call inp c)).control]

/-- **The main loop** reports and updates. -/
theorem bodyStep_collision (s : Body) (e : BodyEvent) :
    bodyStep s e = run collisionStep s (collisionEvents s e) := by
  cases e with
  | rxIsr m => rfl
  | call inp c =>
      cases c with
      | canUpdate1ms => rfl
      | controlUpdate1ms => rfl
      | delay1ms => rfl
      | reportCollision =>
          by_cases h : s.control.button.eventPending = true
          · simp only [collisionEvents, bodyStep, bodyCall, reportCollisionIfPressed, h, if_true]
            rfl
          · simp only [collisionEvents, bodyStep, bodyCall, reportCollisionIfPressed, h]
            rfl

/-- So is every run of it. -/
theorem bodyRun_collision (s : Body) (es : List BodyEvent) :
    ∃ cs, run bodyStep s es = run collisionStep s cs := by
  induction es generalizing s with
  | nil => exact ⟨[], rfl⟩
  | cons e es ih =>
      obtain ⟨cs, hcs⟩ := ih (bodyStep s e)
      refine ⟨collisionEvents s e ++ cs, ?_⟩
      rw [run_cons, hcs, run_append, ← bodyStep_collision]

/-! ## What is seen -/

/-- The frame of an occurrence time. -/
def collisionFrame (occurrenceTimeMs : UInt32) : CanMessage :=
  { fdMessage bodyCanCollisionEventId 5
      [1, (occurrenceTimeMs >>> 24).toUInt8, (occurrenceTimeMs >>> 16).toUInt8,
        (occurrenceTimeMs >>> 8).toUInt8, occurrenceTimeMs.toUInt8]
    with frameMode := .fdLong }

/-- The collision frames among messages. -/
def collisionFrames (sent : List (Nat × CanMessage)) : List CanMessage :=
  (sent.map Prod.snd).filter fun m => m.messageId = bodyCanCollisionEventId

/-- The collision frames that a step sends. -/
def newFrames (s t : Body) : List CanMessage := collisionFrames (t.sent.drop s.sent.length)

/-- What is seen of a step: a report with its time, or the frames that left. -/
def seen (s : Body) : CollisionCall → List (Seen UInt32 CanMessage)
  | .report => [.report s.can.bodyCanTimeMs]
  | e => (newFrames s (collisionStep s e)).map .sent

/-- The event that waits. -/
def slot (s : Body) : Option UInt32 :=
  if s.can.collisionEventPending then some s.can.pendingCollisionOccurrenceTimeMs else none

theorem newFrames_append {s t : Body} {more : List (Nat × CanMessage)}
    (h : t.sent = s.sent ++ more) : newFrames s t = collisionFrames more := by
  rw [newFrames, h, List.drop_left]

/-! ## Everything but the event -/

/-- The waiting event stays and no collision frame leaves. -/
structure Aside (s t : Body) : Prop where
  slot : slot t = slot s
  sent : ∃ more, t.sent = s.sent ++ more ∧ collisionFrames more = []

section Aside

variable {s t u : Body}

theorem Aside.same (hslot : CollisionEvent.slot t = CollisionEvent.slot s)
    (hsent : t.sent = s.sent) : Aside s t :=
  ⟨hslot, [], by rw [hsent, List.append_nil], rfl⟩

theorem Aside.trans (h : Aside s t) (h' : Aside t u) : Aside s u := by
  obtain ⟨more, hmore, hnone⟩ := h.sent
  obtain ⟨last, hlast, hnone'⟩ := h'.sent
  refine ⟨h'.slot.trans h.slot, more ++ last, ?_, ?_⟩
  · rw [hlast, hmore, List.append_assoc]
  · rw [collisionFrames, List.map_append, List.filter_append]
    exact List.append_eq_nil_iff.mpr ⟨hnone, hnone'⟩

theorem Aside.newFrames (h : Aside s t) : newFrames s t = [] := by
  obtain ⟨more, hmore, hnone⟩ := h.sent
  rw [newFrames_append hmore, hnone]

/-- A frame with another identifier. -/
theorem aside_sendRaw (busy : Bool) {messageId : Nat} (hid : messageId ≠ bodyCanCollisionEventId)
    (dlc : Nat) (txByte : List UInt8) (s : Body) :
    Aside s (sendRawFrame busy messageId dlc txByte s).2 := by
  rw [sendRawFrame]
  split
  · exact Aside.same rfl rfl
  · refine ⟨rfl, [_], rfl, ?_⟩
    simp only [collisionFrames, List.map_cons, List.map_nil, List.filter_cons, fdMessage, hid]
    rfl

theorem aside_rxIsr (m : CanMessage) (s : Body) : Aside s (bodyCanRxIsrHandler m s) := by
  rcases hc : BodySpec.accepted m with _ | c
  · rw [BodyCommand.rxIsr_rejected hc]
    split <;> exact Aside.same rfl rfl
  · rw [BodyCommand.rxIsr_accepted hc]
    exact Aside.same rfl rfl

/-- The command path. -/
theorem aside_prepared (inp : BodyInputs) (s : Body) : Aside s (bodyPrepared inp s) := by
  refine Aside.same ?_ (bodyPrepared_kept inp s).1
  have hcheck : slot (checkTimeout inp (BodyCan.countTimeout s)) = slot s := by
    rw [checkTimeout]
    split <;> rfl
  rw [bodyPrepared, applyUpdated]
  split
  · rw [bodyCanApplyBodyCommand]
    split <;> exact hcheck
  · exact hcheck

/-- A diagnostic request. -/
theorem aside_processUds (inp : BodyInputs) (s : Body) :
    Aside s (processUdsRequestIfNeeded inp s) := by
  rw [processUdsRequestIfNeeded]
  split
  · rw [handleUdsRequest_eq]
    split
    · rename_i req _
      obtain ⟨resp, -, -, -, hserve⟩ := bodyServe_eq inp req (bodyTaken s)
      have hserved : Aside s (bodyServed inp req (bodyTaken s)) := Aside.same rfl rfl
      have hsend : Aside (bodyServed inp req (bodyTaken s))
          (sendUdsPayload inp.udsTxBusy resp (bodyServed inp req (bodyTaken s))) := by
        rw [sendUdsPayload]
        split
        · exact Aside.same rfl rfl
        · exact aside_sendRaw _ (by decide) _ _ _
      show Aside s (bodyServe inp req (bodyTaken s))
      rw [hserve]
      exact hserved.trans hsend
    · exact Aside.same rfl rfl
  · exact Aside.same rfl rfl

theorem aside_heartbeat (busy : Bool) (s : Body) :
    Aside s (bodyCanSendHeartbeatIfNeeded busy s) := by
  have hid : bodyCanHeartbeatId ≠ bodyCanCollisionEventId := by decide
  simp only [bodyCanSendHeartbeatIfNeeded]
  split
  · exact Aside.same rfl rfl
  · have hsend := aside_sendRaw busy hid 1 [s.can.txHeartbeatAliveCounter]
      { s with can := { s.can with heartbeatTxTimerMs := 0 } }
    have hslot : CollisionEvent.slot { s with can := { s.can with heartbeatTxTimerMs := 0 } } =
        CollisionEvent.slot s := rfl
    simp only [bodyCanSendHeartbeat]
    split
    · exact ⟨hsend.slot.trans hslot, hsend.sent⟩
    · exact ⟨hsend.slot.trans hslot, hsend.sent⟩

end Aside

/-! ## Sending the event -/

/-- The counter of successful transmissions moves, also where it wraps. -/
theorem okCount_moves (n : UInt32) : n + 1 ≠ n := by
  intro h
  grind

/-- A busy buffer takes nothing. -/
theorem sendCollision_busy (occurrenceTimeMs : UInt32) (s : Body) :
    bodyCanSendCollisionEvent true occurrenceTimeMs s = s := rfl

/-- A free buffer takes the frame, and the counter moves. -/
theorem sendCollision_free (occurrenceTimeMs : UInt32) (s : Body) :
    bodyCanSendCollisionEvent false occurrenceTimeMs s =
      { s with
        sent := s.sent ++ [(s.can.txBufferIndex, collisionFrame occurrenceTimeMs)]
        can := { s.can with
          txBufferIndex := if bodyCanTxBufferCount ≤ s.can.txBufferIndex + 1 then 0
            else s.can.txBufferIndex + 1
          eventTxOkCount := s.can.eventTxOkCount + 1 } } := rfl

/-- The frame of the waiting event leaves, and no event waits any more. -/
structure Delivers (s t : Body) : Prop where
  slot : slot t = none
  sent : ∃ time buffer, CollisionEvent.slot s = some time ∧
    t.sent = s.sent ++ [(buffer, collisionFrame time)]

/-- **Sending**: the event stays as it is, or it is delivered. -/
theorem sendPending_cases (busy : Bool) (s : Body) :
    Aside s (bodyCanSendPendingCollisionEventIfNeeded busy s) ∨
      Delivers s (bodyCanSendPendingCollisionEventIfNeeded busy s) := by
  rw [bodyCanSendPendingCollisionEventIfNeeded]
  split
  · exact Or.inl (Aside.same rfl rfl)
  · rename_i hpending
    have hslot : slot s = some s.can.pendingCollisionOccurrenceTimeMs :=
      if_pos (by simpa using hpending)
    cases busy with
    | true =>
        left
        simp only [sendCollision_busy, ne_eq, not_true_eq_false, if_false]
        exact Aside.same rfl rfl
    | false =>
        right
        simp only [sendCollision_free, ne_eq, okCount_moves, not_false_eq_true, if_true]
        exact ⟨rfl, _, _, hslot, rfl⟩

/-- **One update**: no collision frame leaves and the event waits on, or the waiting event is
    sent and forgotten. -/
theorem update_cases (inp : BodyInputs) (s : Body) :
    (slot (bodyCanUpdate1ms inp s) = slot s ∧ newFrames s (bodyCanUpdate1ms inp s) = []) ∨
      ∃ time, slot s = some time ∧ slot (bodyCanUpdate1ms inp s) = none ∧
        newFrames s (bodyCanUpdate1ms inp s) = [collisionFrame time] := by
  -- the diagnostic answers come before the event, the heartbeat after it
  have hbefore : Aside s (processUdsRequestIfNeeded inp (bodyPrepared inp s)) :=
    (aside_prepared inp s).trans (aside_processUds inp _)
  have hafter := aside_heartbeat inp.heartbeatTxBusy (bodyCanSendPendingCollisionEventIfNeeded
    inp.collisionTxBusy (processUdsRequestIfNeeded inp (bodyPrepared inp s)))
  show (slot (bodyCanSendHeartbeatIfNeeded inp.heartbeatTxBusy _) = slot s ∧ _) ∨ _
  rcases sendPending_cases inp.collisionTxBusy
      (processUdsRequestIfNeeded inp (bodyPrepared inp s)) with hsend | hsend
  · -- no event frame leaves: none waits, or the buffer is busy
    have hall := (hbefore.trans hsend).trans hafter
    exact Or.inl ⟨hall.slot, hall.newFrames⟩
  · -- one leaves, and is the only one among the frames of the call
    right
    obtain ⟨time, buffer, hslot, hsent⟩ := hsend.sent
    obtain ⟨before, hmore, hnone⟩ := hbefore.sent
    obtain ⟨last, hlast, hnone'⟩ := hafter.sent
    refine ⟨time, hbefore.slot.symm.trans hslot, hafter.slot.trans hsend.slot, ?_⟩
    have hall : (bodyCanUpdate1ms inp s).sent =
        s.sent ++ (before ++ [(buffer, collisionFrame time)] ++ last) := by
      refine hlast.trans ?_
      rw [hsent, hmore]
      simp only [List.append_assoc]
    rw [newFrames_append hall]
    rw [collisionFrames] at hnone hnone' ⊢
    rw [List.map_append, List.map_append, List.filter_append, List.filter_append, hnone, hnone']
    rfl

/-! ## Runs -/

/-- The waiting event is what has been reported since the last frame. -/
theorem holds_step {s : Body} {tr : List (Seen UInt32 CanMessage)}
    (h : Holds collisionFrame (slot s) tr) (e : CollisionCall) :
    Holds collisionFrame (slot (collisionStep s e)) (tr ++ seen s e) := by
  have haside : ∀ {t}, Aside s t → Holds collisionFrame (slot t)
      (tr ++ (newFrames s t).map .sent) := by
    intro t ht
    rw [ht.slot, ht.newFrames, List.map_nil, List.append_nil]
    exact h
  cases e with
  | report =>
      have hreport := h.report s.can.bodyCanTimeMs
      -- the first report of a batch gives its time
      have hslot : slot (collisionStep s .report) = some ((slot s).getD s.can.bodyCanTimeMs) := by
        simp only [collisionStep, bodyCanReportCollisionOccurred, slot, if_true]
        cases s.can.collisionEventPending <;> rfl
      rw [hslot]
      exact hreport
  | update1ms inp =>
      show Holds collisionFrame (slot (bodyCanUpdate1ms inp s))
        (tr ++ (newFrames s (bodyCanUpdate1ms inp s)).map .sent)
      rcases update_cases inp s with ⟨hslot, hnone⟩ | ⟨time, hslot, hnone, hframe⟩
      · rw [hslot, hnone, List.map_nil, List.append_nil]
        exact h
      · rw [hslot] at h
        rw [hnone, hframe]
        exact h.sent
  | rxIsr m => exact haside (aside_rxIsr m s)
  | control c => exact haside (Aside.same rfl rfl)

/-- What is seen of a run from reset. -/
def seenRun (init : BodyInputs) (es : List CollisionCall) : List (Seen UInt32 CanMessage) :=
  trace collisionStep seen (bodyReset init) es

/-- **Run lemma.** -/
theorem holds_run (init : BodyInputs) (es : List CollisionCall) :
    Holds collisionFrame (slot (run collisionStep (bodyReset init) es)) (seenRun init es) := by
  have hsteps : AllSteps collisionStep (fun _ _ => True) (bodyReset init) es :=
    allSteps_of_mem fun _ _ _ => trivial
  have hstart : Holds collisionFrame (slot (bodyReset init)) [] := holds_nil
  have hrun := trace_guarded (fun s tr => Holds collisionFrame (slot s) tr)
    (fun s tr e h _ => holds_step h e) hstart hsteps
  rwa [List.nil_append] at hrun

/-- **No collision event is lost or sent twice.**  After every run, an event waits exactly when
    a collision was reported since the last frame left, with the time of the first of these
    reports; every frame carries the time of the first report since the frame before it; and
    what was seen falls into batches of reports, each closed by one frame, and the reports that
    still wait. -/
theorem collision_events (init : BodyInputs) (es : List CollisionCall) :
    let s := run collisionStep (bodyReset init) es
    (s.can.collisionEventPending = true ↔ unsent (seenRun init es) ≠ []) ∧
    (s.can.collisionEventPending = true →
      (unsent (seenRun init es)).head? = some s.can.pendingCollisionOccurrenceTimeMs) ∧
    Faithful collisionFrame (seenRun init es) ∧
    ∃ gs : List (Batch UInt32), seenRun init es =
      gs.flatMap (Batch.closed collisionFrame) ++ (unsent (seenRun init es)).map .report := by
  intro s
  have h : Holds collisionFrame (slot s) (seenRun init es) := holds_run init es
  have hpending : (slot s).isSome = true ↔ s.can.collisionEventPending = true := by
    rw [slot]
    cases s.can.collisionEventPending <;> simp
  refine ⟨hpending.symm.trans h.full_iff, ?_, h.faithful, faithful_batches h.faithful⟩
  intro hp
  rw [← h.slot, slot, if_pos hp]

end CollisionEvent
