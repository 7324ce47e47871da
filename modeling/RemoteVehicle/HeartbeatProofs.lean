import RemoteVehicle.BodyFrameProofs
import RemoteVehicle.BeatGauge
import RemoteVehicle.MainCom

/-!
# The heartbeat of BODY

BODY counts passes of its main loop and sends a heartbeat at every 200th.  A pass ends with
a delay of a millisecond, so 200 passes would be 200 ms; but the loop also waits in its
measurements and in the diagnostic routines, and MAIN takes 500 ms of silence for a loss.

`bodyLog` is the log of a run: the waits and the heartbeats, with their times.  `Phase` is
the invariant of a pass: the log is exact, and the heartbeat counter is the number of delays
since the last heartbeat.  From there on only the library speaks: a gap is shorter than
500 ms exactly when the other waits in it stay below 300 ms.
-/

namespace Heartbeat

open Runs CanFrame BodyState BodyUds BodyCan BodySpec UdsFrame UdsAnswer UdsTrace BodyFrame
open BeatGauge

/-! ## Passes of the loop -/

/-- A pass of `core0_main`: what arrives before each call, and what the calls find. -/
structure BodyPass where
  beforeCan : List CanMessage
  can : BodyInputs
  beforeControl : List CanMessage
  control : BodyInputs
  beforeReport : List CanMessage
  beforeDelay : List CanMessage

/-- The events of a pass. -/
def BodyPass.events (p : BodyPass) : List BodyEvent :=
  p.beforeCan.map .rxIsr ++ (.call p.can .canUpdate1ms ::
    (p.beforeControl.map .rxIsr ++ (.call p.control .controlUpdate1ms ::
      (p.beforeReport.map .rxIsr ++ (.call p.control .reportCollision ::
        (p.beforeDelay.map .rxIsr ++ [.call p.control .delay1ms]))))))

/-! ## The log -/

/-- Where BODY waits. -/
inductive BodyWait where
  /-- `App_Delay1ms`. -/
  | loopDelay
  /-- A measurement of the ultrasonic sensor. -/
  | echo (us : Nat)
  | buzzerTest
  | ledTest
deriving DecidableEq, Repr

/-- How long, and that the loop delay ends a pass; the heartbeat is due after 200. -/
def bodyRate : Rate BodyWait where
  dur
    | .loopDelay => 1000
    | .echo us => us
    | .buzzerTest => buzzerUs
    | .ledTest => 1000000
  isLap w := w == .loopDelay
  lapsPerBeat := bodyCanHeartbeatTxPeriodMs

/-- What a request waits for. -/
def requestWaits (inp : BodyInputs) (req : List UInt8) : List BodyWait :=
  if ReadsDistance req ∨ routineOf 0x7F req = some udsRidUltrasonicTest then
    [.echo (echoUs inp.requestEcho BodyControl.ultrasonicDiagEchoTimeoutUs)]
  else if routineOf 0x7F req = some udsRidBuzzerTest then [.buzzerTest]
  else if routineOf 0x7F req = some udsRidLedAllTest then [.ledTest]
  else []

/-- What a 1 ms update waits for: the periodic measurement, and then the check. -/
def updateWaits (inp : BodyInputs) (s : BodyControlState) : List BodyWait :=
  (if Measures s then [.echo (echoUs inp.periodicEcho BodyControl.ultrasonicEchoTimeoutUs)]
    else []) ++
  (if Checks s.dtc then [.echo (echoUs inp.dtcEcho BodyControl.ultrasonicDiagEchoTimeoutUs)]
    else [])

/-- The waits of an event. -/
def bodyWaits (s : Body) : BodyEvent → List BodyWait
  | .rxIsr _ => []
  | .call inp .canUpdate1ms => (bodyWaiting s.can).flatMap (requestWaits inp)
  | .call inp .controlUpdate1ms => updateWaits inp s.control
  | .call _ .reportCollision => []
  | .call _ .delay1ms => [.loopDelay]

/-- The times of the heartbeats that an event sends. -/
def heartbeats (s : Body) (e : BodyEvent) : List Nat :=
  (((bodyStep s e).sent.drop s.sent.length).filter
    fun p => p.2.messageId == bodyCanHeartbeatId).map fun _ => (bodyStep s e).control.stmUs

/-- The entries of an event: heartbeats go out after its waits. -/
def bodyEntries (s : Body) (e : BodyEvent) : List (Entry BodyWait) :=
  (bodyWaits s e).map .wait ++ (heartbeats s e).map .beat

/-- The log of a run of the main loop. -/
def bodyLog (init : BodyInputs) (ps : List BodyPass) : List (Entry BodyWait) :=
  trace bodyStep bodyEntries (bodyReset init) (ps.flatMap BodyPass.events)

/-! ## What is sent -/

/-- No heartbeat is sent, and its counter stays. -/
structure NoBeat (s t : Body) : Prop where
  timer : t.can.heartbeatTxTimerMs = s.can.heartbeatTxTimerMs
  sent : ∃ more, t.sent = s.sent ++ more ∧ ∀ p ∈ more, p.2.messageId ≠ bodyCanHeartbeatId

section NoBeat

variable {s t u : Body}

theorem NoBeat.same (htimer : t.can.heartbeatTxTimerMs = s.can.heartbeatTxTimerMs)
    (hsent : t.sent = s.sent) : NoBeat s t :=
  ⟨htimer, [], by rw [hsent, List.append_nil], by simp⟩

theorem NoBeat.trans (h : NoBeat s t) (h' : NoBeat t u) : NoBeat s u := by
  obtain ⟨more, hmore, hid⟩ := h.sent
  obtain ⟨last, hlast, hid'⟩ := h'.sent
  refine ⟨h'.timer.trans h.timer, more ++ last, ?_, ?_⟩
  · rw [hlast, hmore, List.append_assoc]
  · intro p hp
    rcases List.mem_append.mp hp with hp | hp
    · exact hid p hp
    · exact hid' p hp

theorem NoBeat.ofAdds (h : Adds (· ≠ bodyCanHeartbeatId) s t) : NoBeat s t := ⟨h.timer, h.sent⟩

theorem noBeat_processUds (inp : BodyInputs) (s : Body) :
    NoBeat s (processUdsRequestIfNeeded inp s) := by
  have htaken : NoBeat s (bodyTaken s) := NoBeat.same rfl rfl
  rw [processUdsRequestIfNeeded]
  split
  · rw [handleUdsRequest_eq]
    split
    · obtain ⟨resp, -, -, -, hserve⟩ := bodyServe_eq inp _ (bodyTaken s)
      have hserved : ∀ req, NoBeat (bodyTaken s) (bodyServed inp req (bodyTaken s)) :=
        fun _ => NoBeat.same rfl rfl
      have hsend : ∀ t, NoBeat t (sendUdsPayload inp.udsTxBusy resp t) := by
        intro t
        rw [sendUdsPayload]
        split
        · exact NoBeat.same rfl rfl
        · exact NoBeat.ofAdds (adds_sendRaw _ (by decide) _ t)
      exact hserve ▸ (htaken.trans (hserved _)).trans (hsend _)
    · exact htaken.trans (NoBeat.same rfl rfl)
  · exact NoBeat.same rfl rfl

/-- Everything in `BodyCan_Update1ms` but the heartbeat. -/
theorem noBeat_update (inp : BodyInputs) (s : Body) :
    NoBeat s (bodyCanSendPendingCollisionEventIfNeeded inp.collisionTxBusy
      (processUdsRequestIfNeeded inp (bodyPrepared inp s))) :=
  ((NoBeat.ofAdds (adds_prepared inp s)).trans (noBeat_processUds inp _)).trans
    (NoBeat.ofAdds (adds_collision (by decide) _ _))

/-- Other frames are no heartbeats. -/
theorem filter_others {more : List (Nat × CanMessage)}
    (hid : ∀ p ∈ more, p.2.messageId ≠ bodyCanHeartbeatId) :
    more.filter (fun p => p.2.messageId == bodyCanHeartbeatId) = [] := by
  rw [List.filter_eq_nil_iff]
  intro p hp hbeat
  exact hid p hp (beq_iff_eq.mp hbeat)

theorem heartbeats_none {e : BodyEvent} (h : ∃ more, (bodyStep s e).sent = s.sent ++ more ∧
    ∀ p ∈ more, p.2.messageId ≠ bodyCanHeartbeatId) : heartbeats s e = [] := by
  obtain ⟨more, hmore, hid⟩ := h
  rw [heartbeats, hmore, List.drop_left, filter_others hid]
  rfl

end NoBeat

/-! ## Waits -/

section Waits

variable (inp : BodyInputs)

/-- The log and the timer agree about a request. -/
theorem total_requestWaits (req : List UInt8) :
    bodyRate.total (requestWaits inp req) = servedUs inp req := by
  rw [requestWaits, servedUs]
  split
  · rfl
  · split
    · rfl
    · split <;> rfl

theorem laps_requestWaits (req : List UInt8) : bodyRate.laps (requestWaits inp req) = 0 := by
  rw [requestWaits]
  split
  · rfl
  · split
    · rfl
    · split <;> rfl

theorem total_waiting (reqs : List (List UInt8)) :
    bodyRate.total (reqs.flatMap (requestWaits inp)) = (reqs.map (servedUs inp)).sum ∧
      bodyRate.laps (reqs.flatMap (requestWaits inp)) = 0 := by
  induction reqs with
  | nil => exact ⟨rfl, rfl⟩
  | cons req reqs ih =>
      obtain ⟨htotal, hlaps⟩ := ih
      rw [List.flatMap_cons]
      constructor
      · rw [List.map_cons, List.sum_cons, ← htotal, ← total_requestWaits, Rate.total, Rate.total,
          Rate.total, List.map_append, List.sum_append]
      · rw [Rate.laps, List.countP_append]
        exact (congrArg₂ (· + ·) (laps_requestWaits inp req) hlaps)

theorem total_updateWaits (c : BodyControlState) :
    bodyRate.total (updateWaits inp c) = periodicUs inp c + checkUs inp c.dtc ∧
      bodyRate.laps (updateWaits inp c) = 0 := by
  rw [updateWaits, periodicUs, checkUs]
  split
  · split
    · exact ⟨rfl, rfl⟩
    · exact ⟨rfl, rfl⟩
  · split
    · exact ⟨by rw [Nat.zero_add]; rfl, rfl⟩
    · exact ⟨rfl, rfl⟩

end Waits

/-! ## One pass -/

/-- The log is exact, and the counter is `d` less than the delays since the last heartbeat. -/
structure Phase (d : Nat) (s : Body) (log : List (Entry BodyWait)) : Prop where
  exact : Exact bodyRate (gauge log) s.control.stmUs (s.can.heartbeatTxTimerMs + d)
  timer : s.can.heartbeatTxTimerMs < bodyCanHeartbeatTxPeriodMs

section Pass

variable {d : Nat} {s : Body} {log : List (Entry BodyWait)} {inp : BodyInputs}

/-- An event without a heartbeat. -/
theorem phase_quiet {e : BodyEvent} (h : Phase d s log) (hno : NoBeat s (bodyStep s e))
    (htime : (bodyStep s e).control.stmUs =
      s.control.stmUs + bodyRate.total (bodyWaits s e)) :
    Phase (d + bodyRate.laps (bodyWaits s e)) (bodyStep s e) (log ++ bodyEntries s e) := by
  have hentries : bodyEntries s e = (bodyWaits s e).map .wait := by
    rw [bodyEntries, heartbeats_none hno.sent]
    exact List.append_nil _
  refine ⟨?_, hno.timer ▸ h.timer⟩
  rw [hentries, gauge_append, htime, hno.timer, ← Nat.add_assoc]
  exact exact_waits h.exact (bodyWaits s e)

theorem phase_rxIsr (h : Phase d s log) (m : CanMessage) :
    Phase d (bodyStep s (.rxIsr m)) (log ++ bodyEntries s (.rxIsr m)) := by
  refine phase_quiet (e := .rxIsr m) h (NoBeat.ofAdds (adds_rxIsr m s)) ?_
  show (bodyCanRxIsrHandler m s).control.stmUs = s.control.stmUs
  rcases hc : BodySpec.accepted m with _ | c
  · rw [BodyCommand.rxIsr_rejected hc]
    split <;> rfl
  · rw [BodyCommand.rxIsr_accepted hc]
    rfl

theorem phase_control (h : Phase 0 s log) :
    Phase 0 (bodyStep s (.call inp .controlUpdate1ms))
      (log ++ bodyEntries s (.call inp .controlUpdate1ms)) := by
  obtain ⟨htotal, hlaps⟩ := total_updateWaits inp s.control
  have hquiet := phase_quiet (e := .call inp .controlUpdate1ms) h (NoBeat.same rfl rfl) ?_
  · rwa [show bodyRate.laps (bodyWaits s (.call inp .controlUpdate1ms)) = 0 from hlaps] at hquiet
  · show (BodyControl.update1ms inp s.control).stmUs =
      s.control.stmUs + bodyRate.total (updateWaits inp s.control)
    rw [htotal]
    exact congrArg Prod.snd (codeTime_update1ms inp s.control)

theorem phase_report (h : Phase 0 s log) :
    Phase 0 (bodyStep s (.call inp .reportCollision))
      (log ++ bodyEntries s (.call inp .reportCollision)) := by
  refine phase_quiet (e := .call inp .reportCollision) h ?_ ?_
  · show NoBeat s (reportCollisionIfPressed s)
    rw [reportCollisionIfPressed]
    split <;> exact NoBeat.same rfl rfl
  · show (reportCollisionIfPressed s).control.stmUs = s.control.stmUs
    rw [reportCollisionIfPressed]
    split <;> rfl

theorem phase_delay (h : Phase 0 s log) :
    Phase 1 (bodyStep s (.call inp .delay1ms)) (log ++ bodyEntries s (.call inp .delay1ms)) :=
  phase_quiet (e := .call inp .delay1ms) h (NoBeat.same rfl rfl) rfl

/-- The heartbeat, when it is due. -/
theorem sendHeartbeat_due {t : Body}
    (hdue : bodyCanHeartbeatTxPeriodMs ≤ t.can.heartbeatTxTimerMs + 1) :
    (bodyCanSendHeartbeatIfNeeded false t).can.heartbeatTxTimerMs = 0 ∧
      ∃ p, p.2.messageId = bodyCanHeartbeatId ∧
        (bodyCanSendHeartbeatIfNeeded false t).sent = t.sent ++ [p] := by
  have hno : ¬ t.can.heartbeatTxTimerMs + 1 < bodyCanHeartbeatTxPeriodMs := Nat.not_lt.mpr hdue
  rw [bodyCanSendHeartbeatIfNeeded]
  simp only [if_neg hno]
  exact ⟨rfl, _, rfl, rfl⟩

theorem sendHeartbeat_early {t : Body}
    (hearly : t.can.heartbeatTxTimerMs + 1 < bodyCanHeartbeatTxPeriodMs) :
    bodyCanSendHeartbeatIfNeeded false t =
      { t with can := { t.can with heartbeatTxTimerMs := t.can.heartbeatTxTimerMs + 1 } } := by
  rw [bodyCanSendHeartbeatIfNeeded]
  simp only [if_pos hearly]

/-- **`BodyCan_Update1ms`** counts, and its heartbeat comes after 200 delays. -/
theorem phase_can (h : Phase 1 s log) (hfree : inp.heartbeatTxBusy = false) :
    Phase 0 (bodyStep s (.call inp .canUpdate1ms))
      (log ++ bodyEntries s (.call inp .canUpdate1ms)) := by
  obtain ⟨htotal, hlaps⟩ := total_waiting inp (bodyWaiting s.can)
  have htime : (bodyStep s (.call inp .canUpdate1ms)).control.stmUs =
      s.control.stmUs + bodyRate.total (bodyWaits s (.call inp .canUpdate1ms)) := by
    show (bodyCanUpdate1ms inp s).control.stmUs =
      s.control.stmUs + bodyRate.total ((bodyWaiting s.can).flatMap (requestWaits inp))
    rw [htotal]
    exact congrArg Prod.snd (codeTime_canUpdate inp s)
  have hno := noBeat_update inp s
  obtain ⟨t, ht, hstep⟩ : ∃ t, NoBeat s t ∧
      bodyStep s (.call inp .canUpdate1ms) = bodyCanSendHeartbeatIfNeeded false t :=
    ⟨_, hno, hfree ▸ rfl⟩
  have hwaits := exact_waits h.exact (bodyWaits s (.call inp .canUpdate1ms))
  have hlaps : bodyRate.laps (bodyWaits s (.call inp .canUpdate1ms)) = 0 := hlaps
  rw [hlaps, Nat.add_zero, ← htime] at hwaits
  -- the timer decides: before its period nothing leaves, then one heartbeat
  by_cases hdue : t.can.heartbeatTxTimerMs + 1 < bodyCanHeartbeatTxPeriodMs
  · have hearly := sendHeartbeat_early hdue
    have hnone : heartbeats s (.call inp .canUpdate1ms) = [] := by
      refine heartbeats_none ?_
      rw [hstep, hearly]
      exact ht.sent
    have htimer : (bodyStep s (.call inp .canUpdate1ms)).can.heartbeatTxTimerMs =
        s.can.heartbeatTxTimerMs + 1 := by
      rw [hstep, hearly, ← ht.timer]
    refine ⟨?_, ?_⟩
    · rw [bodyEntries, hnone, List.map_nil, List.append_nil, gauge_append, htimer]
      exact hwaits
    · rw [htimer, ← ht.timer]
      exact hdue
  · obtain ⟨hzero, p, hid, hsent⟩ := sendHeartbeat_due (Nat.not_lt.mp hdue)
    obtain ⟨more, hmore, hothers⟩ := ht.sent
    have hone : heartbeats s (.call inp .canUpdate1ms) =
        [(bodyStep s (.call inp .canUpdate1ms)).control.stmUs] := by
      have hfilter : (more ++ [p]).filter (fun p => p.2.messageId == bodyCanHeartbeatId) = [p] := by
        rw [List.filter_append, filter_others hothers, List.filter_cons_of_pos (by simp [hid])]
        rfl
      have hdrop :
          (bodyStep s (.call inp .canUpdate1ms)).sent.drop s.sent.length = more ++ [p] := by
        rw [hstep, hsent, hmore, List.append_assoc, List.drop_left]
      rw [heartbeats, hdrop, hfilter]
      rfl
    -- the timer counts the laps since the last heartbeat
    have hlast : s.can.heartbeatTxTimerMs + 1 = bodyRate.lapsPerBeat := by
      have hlt := h.timer
      have hge := Nat.not_lt.mp hdue
      rw [ht.timer] at hge
      show s.can.heartbeatTxTimerMs + 1 = bodyCanHeartbeatTxPeriodMs
      omega
    rw [hlast] at hwaits
    have htimer : (bodyStep s (.call inp .canUpdate1ms)).can.heartbeatTxTimerMs = 0 := by
      rw [hstep, hzero]
    refine ⟨?_, ?_⟩
    · rw [bodyEntries, hone, gauge_append, htimer, List.foldl_append]
      exact exact_beat hwaits
    · rw [htimer]
      decide

/-- Received frames do not matter. -/
theorem phase_frames (h : Phase d s log) (ms : List CanMessage) :
    Phase d (run bodyStep s (ms.map .rxIsr))
      (log ++ trace bodyStep bodyEntries s (ms.map .rxIsr)) := by
  induction ms generalizing s log with
  | nil => simpa using h
  | cons m ms ih =>
      rw [List.map_cons, run_cons, trace_cons, ← List.append_assoc]
      exact ih (phase_rxIsr h m)

/-- A call after some received frames, and the rest of the pass. -/
theorem phase_cons {k : Nat} {ms : List CanMessage} {e : BodyEvent} {es : List BodyEvent}
    (h : Phase d s log)
    (hstep : ∀ s log, Phase d s log → Phase k (bodyStep s e) (log ++ bodyEntries s e))
    {j : Nat} (hrest : ∀ s log, Phase k s log →
      Phase j (run bodyStep s es) (log ++ trace bodyStep bodyEntries s es)) :
    Phase j (run bodyStep s (ms.map .rxIsr ++ e :: es))
      (log ++ trace bodyStep bodyEntries s (ms.map .rxIsr ++ e :: es)) := by
  rw [run_append, trace_append, run_cons, trace_cons, ← List.append_assoc, ← List.append_assoc]
  exact hrest _ _ (hstep _ _ (phase_frames h ms))

/-- **Step lemma.** -/
theorem phase_pass (h : Phase 1 s log) (p : BodyPass) (hfree : p.can.heartbeatTxBusy = false) :
    Phase 1 (run bodyStep s p.events) (log ++ trace bodyStep bodyEntries s p.events) := by
  refine phase_cons h (fun _ _ h => phase_can h hfree) fun _ _ h => ?_
  refine phase_cons h (fun _ _ h => phase_control h) fun _ _ h => ?_
  refine phase_cons h (fun _ _ h => phase_report h) fun _ _ h => ?_
  refine phase_cons h (fun _ _ h => phase_delay h) fun s log h => ?_
  simpa using h

/-- **Run lemma.** -/
theorem phase_run (h : Phase 1 s log) {ps : List BodyPass}
    (hfree : ∀ p ∈ ps, p.can.heartbeatTxBusy = false) :
    Phase 1 (run bodyStep s (ps.flatMap BodyPass.events))
      (log ++ trace bodyStep bodyEntries s (ps.flatMap BodyPass.events)) := by
  induction ps generalizing s log with
  | nil => simpa using h
  | cons p ps ih =>
      have hp := phase_pass h p (hfree p List.mem_cons_self)
      have hrest := ih hp fun q hq => hfree q (List.mem_cons_of_mem p hq)
      rw [List.flatMap_cons, run_append, trace_append, ← List.append_assoc]
      exact hrest

end Pass

/-- Nothing is measured before the first heartbeat. -/
theorem phase_reset (init : BodyInputs) : Phase 1 (bodyReset init) [] :=
  ⟨exact_start bodyRate _ _, by show (0 : Nat) < 200; decide⟩

/-! ## Gaps -/

/-- The measurements among some waits. -/
def echoes (ws : List BodyWait) : List Nat :=
  ws.filterMap fun w => match w with
    | .echo us => some us
    | _ => none

/-- The waits that a gap below 500 ms has room for: no test of buzzer or LEDs, and less than
    300 ms of measurements. -/
structure Tolerable (ws : List BodyWait) : Prop where
  noBuzzer : .buzzerTest ∉ ws
  noLed : .ledTest ∉ ws
  echoes : (echoes ws).sum < 300000

/-- What is no loop delay takes at least the measurements, and half a second with a test. -/
theorem extra_cons (w : BodyWait) (ws : List BodyWait) (hw : w ≠ .loopDelay) :
    bodyRate.extra (w :: ws) = bodyRate.dur w + bodyRate.extra ws := by
  have hlap : (!bodyRate.isLap w) = true := by simpa [bodyRate] using hw
  exact (congrArg bodyRate.total (List.filter_cons_of_pos hlap)).trans List.sum_cons

theorem tolerable_iff (ws : List BodyWait) : Tolerable ws ↔ bodyRate.extra ws < 300000 := by
  have hbuzzer := le_buzzerUs
  -- either test alone is over the bound; without them only echoes are left
  have hsum : ∀ ws, (.buzzerTest ∈ ws ∨ .ledTest ∈ ws → 500000 ≤ bodyRate.extra ws) ∧
      (.buzzerTest ∉ ws → .ledTest ∉ ws → bodyRate.extra ws = (echoes ws).sum) := by
    intro ws
    induction ws with
    | nil => exact ⟨fun h => by simp at h, fun _ _ => rfl⟩
    | cons w ws ih =>
        obtain ⟨hlong, heq⟩ := ih
        cases w with
        | loopDelay =>
            constructor
            · intro h
              exact hlong (by simpa using h)
            · intro hb hl
              exact heq (by simpa using hb) (by simpa using hl)
        | echo us =>
            rw [extra_cons _ _ (by simp)]
            constructor
            · intro h
              exact (hlong (by simpa using h)).trans (Nat.le_add_left _ _)
            · intro hb hl
              rw [heq (by simpa using hb) (by simpa using hl)]
              exact List.sum_cons.symm
        | buzzerTest =>
            rw [extra_cons _ _ (by simp)]
            refine ⟨fun _ => ?_, fun hb => absurd List.mem_cons_self hb⟩
            exact hbuzzer.trans (Nat.le_add_right _ _)
        | ledTest =>
            rw [extra_cons _ _ (by simp)]
            refine ⟨fun _ => ?_, fun _ hl => absurd List.mem_cons_self hl⟩
            show 500000 ≤ 1000000 + bodyRate.extra ws
            omega
  obtain ⟨hlong, heq⟩ := hsum ws
  constructor
  · rintro ⟨hb, hl, hechoes⟩
    rwa [heq hb hl]
  · intro hlt
    have hb : .buzzerTest ∉ ws := fun hb => absurd (hlong (Or.inl hb)) (by omega)
    have hl : .ledTest ∉ ws := fun hl => absurd (hlong (Or.inr hl)) (by omega)
    exact ⟨hb, hl, by rwa [← heq hb hl]⟩

/-- **THE HEARTBEAT GAP.**  In every run of the main loop with free transmit buffers, two
    consecutive heartbeats are less than MAIN's time-out apart exactly when no buzzer or LED
    test was run between them and the measurements between them took less than 300 ms. -/
theorem heartbeat_gap_iff (init : BodyInputs) (ps : List BodyPass)
    (hfree : ∀ p ∈ ps, p.can.heartbeatTxBusy = false) :
    ∀ w ∈ windows (bodyLog init ps),
      w.stop - w.start < 1000 * MainCom.bodyTimeoutThresholdMs.toNat ↔ Tolerable w.waits := by
  intro w hw
  have hrun := phase_run (phase_reset init) hfree
  have hlap : ∀ w, bodyRate.isLap w = true → bodyRate.dur w = 1000 := by
    intro w hw
    obtain rfl := beq_iff_eq.mp hw
    rfl
  have hslack : 1000 * MainCom.bodyTimeoutThresholdMs.toNat =
      1000 * bodyRate.lapsPerBeat + 300000 := rfl
  rw [tolerable_iff]
  exact window_lt_iff hlap hslack hrun.exact hw

/-- A pass with nothing to do but these frames. -/
def restPass (frames : List CanMessage) : BodyPass where
  beforeCan := frames
  can := restBodyInputs
  beforeControl := []
  control := restBodyInputs
  beforeReport := []
  beforeDelay := []

/-- The LED test is asked for after the first heartbeat. -/
def ledRun : List BodyPass :=
  List.replicate 200 (restPass []) ++
    restPass [fdMessage bodyCanUdsReqId 8 [0x04, 0x31, 0x01, 0x02, 0x01]] ::
      List.replicate 199 (restPass [])

theorem ledRun_free : ∀ p ∈ ledRun, p.can.heartbeatTxBusy = false := by
  intro p hp
  rcases List.mem_append.mp hp with hp | hp
  · rw [List.eq_of_mem_replicate hp]
    rfl
  · rcases List.mem_cons.mp hp with rfl | hp
    · rfl
    · rw [List.eq_of_mem_replicate hp]
      rfl

theorem ledRun_windows :
    (windows (bodyLog restBodyInputs ledRun)).map (fun w => (w.start, w.stop)) =
      [(1199000, 2399000)] := by decide +kernel

/-- Its gap is one that the law is about. -/
theorem heartbeat_gap_iff_led : ∃ w ∈ windows (bodyLog restBodyInputs ledRun),
    (w.stop - w.start < 1000 * MainCom.bodyTimeoutThresholdMs.toNat ↔ Tolerable w.waits) := by
  obtain ⟨w, hw, -⟩ : ∃ w ∈ windows (bodyLog restBodyInputs ledRun),
      (w.start, w.stop) = (1199000, 2399000) :=
    List.mem_map.mp (ledRun_windows ▸ List.mem_singleton_self (1199000, 2399000))
  exact ⟨w, hw, heartbeat_gap_iff restBodyInputs ledRun ledRun_free w hw⟩

/-- **The LED test makes BODY look lost**: 1.2 s between two heartbeats. -/
theorem led_test_delays_heartbeat :
    ¬ ∀ (init : BodyInputs) (ps : List BodyPass),
      (∀ p ∈ ps, p.can.heartbeatTxBusy = false) → ∀ w ∈ windows (bodyLog init ps),
        w.stop - w.start < 1000 * MainCom.bodyTimeoutThresholdMs.toNat := by
  intro h
  obtain ⟨w, hw, htimes⟩ : ∃ w ∈ windows (bodyLog restBodyInputs ledRun),
      (w.start, w.stop) = (1199000, 2399000) :=
    List.mem_map.mp (ledRun_windows ▸ List.mem_singleton_self (1199000, 2399000))
  obtain ⟨hstart, hstop⟩ := Prod.mk.inj htimes
  have hlt := h restBodyInputs ledRun ledRun_free w hw
  rw [hstart, hstop] at hlt
  exact absurd hlt (by decide)

end Heartbeat
