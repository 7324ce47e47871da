import RemoteVehicle.UdsResponseProofs

/-!
# The schedule of the ACT routines

A routine is a state machine that `UdsDiag_Update1ms` advances by one millisecond, with two
counters and no other memory.  Its timetable (`Routine`) says how many milliseconds it takes,
what it holds on the outputs after each of them and how it reports.

Between two calls anything may happen: frames are received, commands are applied to the same
key and the same duties, further requests arrive.  `Timed` says that one call advances the
counters as the timetable wants; `Timed.meets` carries that through every run.  What is left to
show for the servo and for the motor is the arithmetic of their counters.

The timetable of the motor test ends with the duty it has saved on both wheels.  Whether that is
what the wheels had before is the last section.
-/

namespace RoutineSchedule

open ActUdsDiag hiding word16
open Runs CanFrame ActMotor ActServo ActState ActCan ActLoop ActSpec ActFrame
open UdsFrame UdsAnswer UdsTrace UdsResponse

/-! ## Milliseconds -/

/-- One call of `UdsDiag_Update1ms`: the state it finds and what the hardware shows to it. -/
structure Tick where
  before : Act
  inp : ActInputs

/-- The state right after the call. -/
def Tick.after (t : Tick) : Act := udsDiagUpdate1ms t.inp t.before

/-- The call that an event is. -/
def tickOf (s : Act) : ControlEvent → List Tick
  | .call inp .udsUpdate1ms => [⟨s, inp⟩]
  | _ => []

/-- The calls of a run, in order. -/
def ticks (s : Act) (es : List ControlEvent) : List Tick := trace controlStep tickOf s es

/-- The call accepts a routine: none is running, and the request it serves starts this one. -/
def Accepts (state : UdsRoutineState) (t : Tick) : Prop :=
  t.before.uds.routineState = .none ∧
    (udsDiagServeRequest t.inp.responseTxBusy t.before).uds.routineState = state

instance (state : UdsRoutineState) (t : Tick) : Decidable (Accepts state t) := by
  unfold Accepts
  infer_instance

/-- A request to start a routine, whichever, is waiting. -/
def AsksToStart (u : UdsDiag) : Prop :=
  ∃ req, actWaiting u = [req] ∧ (routineOf 0xFF req).isSome = true

/-! ## Timetables -/

/-- What a routine has to do: for how long, with which output after its `n`-th millisecond,
    and with which identifier it reports. -/
structure Routine where
  state : UdsRoutineState
  rid : Nat
  last : Nat
  output : Nat → Motor → Steering → Prop

/-- The positive response that ends a routine. -/
def routineResult (rid : Nat) : List UInt8 :=
  [0x71, 0x01, UInt8.ofNat (rid / 256), UInt8.ofNat rid, routineResultOk]

/-- It is handed over in the last millisecond, and a busy buffer drops it. -/
def Routine.resultAt (r : Routine) (n : Nat) (inp : ActInputs) : List (List UInt8) :=
  if n = r.last ∧ inp.routineTxBusy = false then [routineResult r.rid] else []

/-- The answer to a second start, unless the buffer is busy. -/
def busyAnswer (inp : ActInputs) : List (List UInt8) :=
  if inp.responseTxBusy then [] else [[0x7F, 0x31, nrcBusyRepeatRequest]]

/-- The positive routine responses that were sent. -/
def routineResults (s : Act) : List (List UInt8) :=
  (actResponses s).filter fun resp => resp.head? == some 0x71

/-- The `n`-th millisecond is as the timetable says; `sent` are the routine responses from
    before the routine. -/
structure Routine.Meets (r : Routine) (sent : List (List UInt8)) (n : Nat) (t : Tick) : Prop where
  output : r.output n t.after.motor t.after.steering
  state : t.after.uds.routineState = if n < r.last then r.state else .none
  resultsBefore : routineResults t.before = sent
  results : routineResults t.after = sent ++ r.resultAt n t.inp
  refusal : 1 < n → t.before.uds.diagSession = sessionExtended → AsksToStart t.before.uds →
    actResponses t.after = actResponses t.before ++ (busyAnswer t.inp ++ r.resultAt n t.inp)

/-- The key after `n` milliseconds of the servo routine. -/
def servoKey (n : Nat) : SteeringKey :=
  if n ≤ 800 then .left else if n ≤ 1600 then .null else if n < 2400 then .right else .null

/-- The servo routine: left, centre and right. -/
def servoRoutine : Routine where
  state := .servoTest
  rid := routineServoTest
  last := 2400
  output := fun n _ steering => steering.steeringKey = servoKey n

/-- The motor after `n` milliseconds of the motor routine: forward at 30 percent, at the end
    stopped with the duty that was saved. -/
def MotorTested (saved : DutyPercent) (n : Nat) (m : Motor) : Prop :=
  if n < 1000 then
    m.motorState = .forward ∧ m.leftDutyPercent = duty 30 ∧ m.rightDutyPercent = duty 30
  else
    m.motorState = .stop ∧ m.dutyPercent = saved ∧ m.leftDutyPercent = saved ∧
      m.rightDutyPercent = saved

/-- The motor routine. -/
def motorRoutine (saved : DutyPercent) : Routine where
  state := .motorTest
  rid := routineMotorTest
  last := 1000
  output := fun n motor _ => MotorTested saved n motor

/-! ## The variables of a routine -/

/-- The variables in `UdsDiag.c` that a routine lives on. -/
structure RoutineVars where
  state : UdsRoutineState
  timerMs : Nat
  step : Nat
  savedMotorDuty : DutyPercent

def routineVars (u : UdsDiag) : RoutineVars where
  state := u.routineState
  timerMs := u.routineTimerMs
  step := u.routineStep
  savedMotorDuty := u.savedMotorDuty

section Frame

variable {s : Act}

/-- Of the calls of the loop only the diagnostic one writes its variables. -/
theorem loopCall_uds (inp : ActInputs) {c : LoopCall} (hc : c ≠ .udsUpdate1ms) (s : Act) :
    (loopCall inp c s).uds = s.uds := by
  cases c with
  | udsUpdate1ms => exact absurd rfl hc
  | canUpdate100us => exact update_uds s
  | sendStatusIfNeeded =>
      simp only [loopCall, appSendStatusIfNeeded, canCommSendActStatus]
      split
      · rfl
      · split <;> rfl
  | motorUpdate => rfl
  | encoderUpdate1ms => rfl
  | potUpdate1ms => rfl
  | steeringTimer => rfl
  | pulseHigh => rfl
  | pulseRest us => rfl

/-- The receive interrupt writes the request buffer only. -/
theorem rxIsr_routineVars (m : CanMessage) (s : Act) :
    routineVars (actCanRxIsrHandler m s).uds = routineVars s.uds := by
  rcases rxIsr_cases m s with ⟨c, -, h⟩ | ⟨-, h | h⟩
  · rw [h]
    rfl
  · rw [h]
    rfl
  · rw [h]
    rfl

/-- **An event that is no tick** leaves the routine and the responses alone. -/
theorem control_quiet {e : ControlEvent} (h : tickOf s e = []) :
    routineVars (controlStep s e).uds = routineVars s.uds ∧
      actResponses (controlStep s e) = actResponses s := by
  cases e with
  | rxIsr m => exact ⟨rxIsr_routineVars m s, (untouched_rxIsr m s).responses⟩
  | call inp c =>
      have hc : c ≠ .udsUpdate1ms := by
        rintro rfl
        cases h
      refine ⟨?_, (untouched_loopCall inp hc s).responses⟩
      exact congrArg routineVars (loopCall_uds inp hc s)

/-- An event is no tick, or it is one. -/
theorem tickOf_cases (s : Act) (e : ControlEvent) :
    tickOf s e = [] ∨ ∃ t, tickOf s e = [t] ∧ t.before = s ∧ controlStep s e = t.after := by
  cases e with
  | rxIsr m => exact Or.inl rfl
  | call inp c =>
      by_cases hc : c = .udsUpdate1ms
      · subst hc
        exact Or.inr ⟨⟨s, inp⟩, rfl, rfl, rfl⟩
      · refine Or.inl ?_
        cases c <;> first | rfl | exact absurd rfl hc

/-- The monitor writes its own variables only. -/
theorem monitor_routine (s : Act) :
    routineVars (udsDiagUpdateDtcMonitor1ms s).uds = routineVars s.uds ∧
      (udsDiagUpdateDtcMonitor1ms s).motor = s.motor ∧
      (udsDiagUpdateDtcMonitor1ms s).steering = s.steering := by
  simp only [udsDiagUpdateDtcMonitor1ms]
  split <;> exact ⟨rfl, rfl, rfl⟩

/-- A response goes out when the buffer is free. -/
theorem actResponses_sendSingleFrame (busy : Bool) {resp : List UInt8} (hpos : 1 ≤ resp.length)
    (hlen : resp.length ≤ 11) (s : Act) :
    actResponses (udsDiagSendSingleFrame busy resp s) =
      actResponses s ++ if busy then [] else [resp] := by
  cases busy with
  | false => exact actResponses_send hpos hlen s
  | true =>
      have hsame : udsDiagSendSingleFrame true resp s = s := by
        simp only [udsDiagSendSingleFrame]
        split <;> rfl
      rw [hsame, if_pos rfl, List.append_nil]

/-- Sending leaves the routine alone. -/
theorem sendSingleFrame_routineVars (busy : Bool) (p : List UInt8) (s : Act) :
    routineVars (udsDiagSendSingleFrame busy p s).uds = routineVars s.uds := by
  obtain ⟨_, _, hsend⟩ := sendSingleFrame_writes busy p s
  rw [hsend]
  rfl

end Frame

/-! ## Serving while a routine runs -/

section Serving

variable (busy : Bool) {req : List UInt8} {s : Act}

/-- **A RoutineControl request is refused**, and a start in the extended session with the
    reason 0x21. -/
theorem routineControl_refused (h : req.getD 0 0 = sidRoutineControl)
    (hrun : s.uds.routineState ≠ .none) :
    ∃ nrc, actServe busy req s = udsDiagSendNegativeResponse busy sidRoutineControl nrc s ∧
      (s.uds.diagSession = sessionExtended → (routineOf 0xFF req).isSome = true →
        nrc = nrcBusyRepeatRequest) := by
  have hserve : actServe busy req s = udsDiagHandleRoutineControl busy req s :=
    actServe_routineControl h
  simp only [udsDiagHandleRoutineControl] at hserve
  split at hserve
  · rename_i hlen
    refine ⟨_, hserve, fun _ hstart => ?_⟩
    rw [routineOf, if_neg fun hr => hlen hr.1] at hstart
    cases hstart
  · split at hserve
    · rename_i hsub
      refine ⟨_, hserve, fun _ hstart => ?_⟩
      have hmask : req.getD 1 0 &&& 0xFF = req.getD 1 0 := UInt8.and_neg_one
      rw [routineOf, if_neg fun hr => hsub (hmask.symm.trans hr.2.2)] at hstart
      cases hstart
    · split at hserve
      · rename_i hsession
        exact ⟨_, hserve, fun hext _ => absurd hext hsession⟩
      · exact ⟨nrcBusyRepeatRequest, hserve, fun _ _ => rfl⟩

/-- A request to start is a RoutineControl request. -/
theorem sid_of_routineOf {mask : UInt8} (h : (routineOf mask req).isSome = true) :
    req.getD 0 0 = sidRoutineControl := by
  rw [routineOf] at h
  split at h
  · rename_i hr
    exact hr.2.1
  · cases h

/-- What serving does while a routine runs: it answers, and not as the routine will. -/
structure Answers (s t : Act) (resps : List (List UInt8)) : Prop where
  vars : routineVars t.uds = routineVars s.uds
  responses : actResponses t = actResponses s ++ resps
  noResult : ∀ resp ∈ resps, resp.head? ≠ some 0x71

theorem answers_nothing (s : Act) : Answers s s [] :=
  ⟨rfl, (List.append_nil _).symm, fun _ h => absurd h List.not_mem_nil⟩

theorem answers_send {resp : List UInt8} {t : Act} (hvars : routineVars t.uds = routineVars s.uds)
    (hresponses : actResponses t = actResponses s) (hpos : 1 ≤ resp.length)
    (hlen : resp.length ≤ 11) (hhead : resp.head? ≠ some 0x71) :
    Answers s (udsDiagSendSingleFrame busy resp t) (if busy then [] else [resp]) := by
  refine ⟨?_, ?_, ?_⟩
  · rw [sendSingleFrame_routineVars, hvars]
  · rw [actResponses_sendSingleFrame busy hpos hlen, hresponses]
  · intro r hr
    cases busy with
    | true => exact absurd hr List.not_mem_nil
    | false =>
        rw [List.mem_singleton.mp hr]
        exact hhead

/-- What a request does besides its answer is nothing to the routine. -/
theorem actServed_routineVars (req : List UInt8) (s : Act) :
    routineVars (actServed req s).uds = routineVars s.uds := by
  rw [actServed]
  split
  · rfl
  · split <;> rfl

/-- A request is answered, and a start in the extended session with the reason 0x21. -/
theorem answers_serve (req : List UInt8) (hrun : s.uds.routineState ≠ .none) :
    ∃ resps, Answers s (actServe busy req s) resps ∧
      (s.uds.diagSession = sessionExtended → (routineOf 0xFF req).isSome = true →
        resps = if busy then [] else [[0x7F, 0x31, nrcBusyRepeatRequest]]) := by
  by_cases hsid : req.getD 0 0 = sidRoutineControl
  · obtain ⟨nrc, hserve, hnrc⟩ := routineControl_refused busy hsid hrun
    refine ⟨if busy then [] else [[0x7F, 0x31, nrc]], ?_, fun hext hstart => ?_⟩
    · rw [hserve]
      exact answers_send busy rfl rfl (by simp) (by simp) (by simp [sidNegativeResponse])
    · rw [hnrc hext hstart]
  · rcases actServe_cases busy req s with ⟨resp, hresp, hpos, hlen, heq⟩ | hstart
    · refine ⟨if busy then [] else [resp], ?_,
        fun _ hstart => absurd (sid_of_routineOf hstart) hsid⟩
      rw [heq]
      refine answers_send busy (actServed_routineVars req s) (actServed_same req s).1 hpos hlen ?_
      intro hhead
      rcases hresp with ⟨nrc, rfl⟩ | ⟨rest, rfl⟩
      · cases hhead
      · have hoffset : req.getD 0 0 + 0x40 = 0x71 := Option.some.inj hhead
        refine hsid ?_
        rw [← UInt8.add_sub_cancel (req.getD 0 0) 0x40, hoffset]
        rfl
    · exact absurd hstart.idle hrun

/-- **Serving** while a routine runs. -/
theorem answers_serveRequest (hrun : s.uds.routineState ≠ .none) :
    ∃ resps, Answers s (udsDiagServeRequest busy s) resps ∧
      (s.uds.diagSession = sessionExtended → AsksToStart s.uds →
        resps = if busy then [] else [[0x7F, 0x31, nrcBusyRepeatRequest]]) := by
  have hnone : actWaiting s.uds = [] → ¬ AsksToStart s.uds := by
    rintro hwaiting ⟨req, hreq, -⟩
    rw [hwaiting] at hreq
    cases hreq
  rcases serveRequest_eq busy s with ⟨hwaiting, hserve | hserve⟩ | ⟨req, hreq, hserve⟩
  · refine ⟨[], ?_, fun _ hask => absurd hask (hnone hwaiting)⟩
    rw [hserve]
    exact answers_nothing s
  · refine ⟨[], ?_, fun _ hask => absurd hask (hnone hwaiting)⟩
    rw [hserve]
    exact ⟨rfl, (List.append_nil _).symm, fun _ h => absurd h List.not_mem_nil⟩
  · obtain ⟨resps, hans, hbusy⟩ :=
      answers_serve busy req (s := actTaken s) hrun
    refine ⟨resps, ?_, ?_⟩
    · rw [hserve]
      exact ⟨hans.vars, hans.responses, hans.noResult⟩
    · rintro hext ⟨asked, hasked, hstart⟩
      rw [hreq] at hasked
      obtain rfl : req = asked := List.head_eq_of_cons_eq hasked
      exact hbusy hext hstart

end Serving

/-! ## One millisecond -/

/-- The counters `vars` keep the timetable: a call moves them from one millisecond to the next,
    and the last one ends the routine with its result. -/
structure Timed (r : Routine) (vars : Nat → RoutineVars) : Prop where
  last : 1 < r.last
  state : ∀ n, (vars n).state = r.state
  running : r.state ≠ .none
  goesOn : ∀ n busy s, n + 1 < r.last → routineVars s.uds = vars n →
    routineVars (udsDiagUpdateRoutine1ms busy s).uds = vars (n + 1) ∧
      r.output (n + 1) (udsDiagUpdateRoutine1ms busy s).motor
        (udsDiagUpdateRoutine1ms busy s).steering ∧
      actResponses (udsDiagUpdateRoutine1ms busy s) = actResponses s
  ends : ∀ n busy s, n + 1 = r.last → routineVars s.uds = vars n →
    (udsDiagUpdateRoutine1ms busy s).uds.routineState = .none ∧
      r.output r.last (udsDiagUpdateRoutine1ms busy s).motor
        (udsDiagUpdateRoutine1ms busy s).steering ∧
      actResponses (udsDiagUpdateRoutine1ms busy s) =
        actResponses s ++ if busy then [] else [routineResult r.rid]

section Timed

variable {r : Routine} {vars : Nat → RoutineVars} {t : Tick} {n : Nat}

/-- A result in the last millisecond, and none before it. -/
theorem Routine.resultAt_last (r : Routine) (inp : ActInputs) :
    r.resultAt r.last inp = if inp.routineTxBusy then [] else [routineResult r.rid] := by
  rw [Routine.resultAt]
  cases inp.routineTxBusy with
  | true => rw [if_neg fun h => Bool.noConfusion h.2, if_pos rfl]
  | false => rw [if_pos ⟨rfl, rfl⟩, if_neg Bool.false_ne_true]

theorem Routine.resultAt_early (h : n < r.last) (inp : ActInputs) : r.resultAt n inp = [] :=
  if_neg fun hn => absurd hn.1 (Nat.ne_of_lt h)

/-- What a call does behind the server: the routine is advanced, and the monitor keeps what it
    did. -/
theorem after_routine (t : Tick) :
    routineVars t.after.uds = routineVars (udsDiagUpdateRoutine1ms t.inp.routineTxBusy
        (udsDiagServeRequest t.inp.responseTxBusy t.before)).uds ∧
      t.after.motor = (udsDiagUpdateRoutine1ms t.inp.routineTxBusy
        (udsDiagServeRequest t.inp.responseTxBusy t.before)).motor ∧
      t.after.steering = (udsDiagUpdateRoutine1ms t.inp.routineTxBusy
        (udsDiagServeRequest t.inp.responseTxBusy t.before)).steering ∧
      actResponses t.after = actResponses (udsDiagUpdateRoutine1ms t.inp.routineTxBusy
        (udsDiagServeRequest t.inp.responseTxBusy t.before)) := by
  obtain ⟨hvars, hmotor, hsteering⟩ := monitor_routine (udsDiagUpdateRoutine1ms
    t.inp.routineTxBusy (udsDiagServeRequest t.inp.responseTxBusy t.before))
  exact ⟨hvars, hmotor, hsteering, (sameDiag_monitor _).responses⟩

/-- **A millisecond**, from the counters that the server leaves: the next counters or the end,
    the output of the timetable, and the response if it is the last one. -/
theorem Timed.advance (h : Timed r vars) (hn : n < r.last)
    (hvars : routineVars (udsDiagServeRequest t.inp.responseTxBusy t.before).uds = vars n) :
    (n + 1 < r.last → routineVars t.after.uds = vars (n + 1)) ∧
      t.after.uds.routineState = (if n + 1 < r.last then r.state else .none) ∧
      r.output (n + 1) t.after.motor t.after.steering ∧
      actResponses t.after =
        actResponses (udsDiagServeRequest t.inp.responseTxBusy t.before) ++
          r.resultAt (n + 1) t.inp := by
  obtain ⟨hafter, hmotor, hsteering, hresponses⟩ := after_routine t
  rw [hmotor, hsteering, hresponses]
  have hstate := congrArg RoutineVars.state hafter
  -- is it the last millisecond?
  rcases Nat.lt_or_eq_of_le (Nat.succ_le_of_lt hn) with hlt | heq
  · obtain ⟨hnext, hout, hsame⟩ := h.goesOn n t.inp.routineTxBusy _ hlt hvars
    refine ⟨fun _ => hafter.trans hnext, ?_, hout, ?_⟩
    · rw [if_pos hlt, ← h.state (n + 1), ← hnext]
      exact hstate
    · rw [hsame, Routine.resultAt_early hlt, List.append_nil]
  · obtain ⟨hover, hout, hresult⟩ := h.ends n t.inp.routineTxBusy _ heq hvars
    have heq : n + 1 = r.last := heq
    rw [heq]
    refine ⟨fun hlt => absurd hlt (Nat.lt_irrefl _), ?_, hout, ?_⟩
    · rw [if_neg (Nat.lt_irrefl _), ← hover]
      exact hstate
    · rw [hresult, Routine.resultAt_last]

/-- Results are filtered out of the responses. -/
theorem routineResults_append {s u : Act} {more : List (List UInt8)}
    (h : actResponses u = actResponses s ++ more) :
    routineResults u =
      routineResults s ++ more.filter fun resp => resp.head? == some 0x71 := by
  rw [routineResults, h, List.filter_append]
  rfl

theorem Routine.filter_resultAt (r : Routine) (n : Nat) (inp : ActInputs) :
    ((r.resultAt n inp).filter fun resp => resp.head? == some 0x71) = r.resultAt n inp := by
  rw [Routine.resultAt]
  split <;> rfl

/-- **A millisecond meets the timetable** when the server leaves the counters where they belong
    and has answered as it does. -/
theorem Timed.meets_tick (h : Timed r vars) (hn : n < r.last)
    (hvars : routineVars (udsDiagServeRequest t.inp.responseTxBusy t.before).uds = vars n)
    {resps : List (List UInt8)}
    (hresps : actResponses (udsDiagServeRequest t.inp.responseTxBusy t.before) =
      actResponses t.before ++ resps)
    (hno : ∀ resp ∈ resps, resp.head? ≠ some 0x71)
    (hbusy : 0 < n → t.before.uds.diagSession = sessionExtended → AsksToStart t.before.uds →
      resps = busyAnswer t.inp) :
    r.Meets (routineResults t.before) (n + 1) t := by
  obtain ⟨-, hstate, hout, hresponses⟩ := h.advance hn hvars
  rw [hresps, List.append_assoc] at hresponses
  have hnone : (resps.filter fun resp => resp.head? == some 0x71) = [] := by
    rw [List.filter_eq_nil_iff]
    intro resp hresp
    simpa using hno resp hresp
  refine ⟨hout, hstate, rfl, ?_, ?_⟩
  · rw [routineResults_append hresponses, List.filter_append, hnone, List.nil_append,
      Routine.filter_resultAt]
  · intro hpos hext hask
    rw [hresponses, hbusy (Nat.lt_of_succ_lt_succ hpos) hext hask]

/-- The routine is running after `n` milliseconds and has not reported yet. -/
def Running (r : Routine) (vars : Nat → RoutineVars) (sent : List (List UInt8)) (n : Nat)
    (s : Act) : Prop :=
  n < r.last → routineVars s.uds = vars n ∧ routineResults s = sent

/-- **Step lemma.**  An event between the calls keeps the counters, a call moves them on. -/
theorem Timed.step (h : Timed r vars) {sent : List (List UInt8)} {s : Act} (e : ControlEvent)
    (hrun : Running r vars sent n s) :
    (tickOf s e = [] ∧ Running r vars sent n (controlStep s e)) ∨
      ∃ t, tickOf s e = [t] ∧ (n < r.last → r.Meets sent (n + 1) t) ∧
        Running r vars sent (n + 1) (controlStep s e) := by
  rcases tickOf_cases s e with hquiet | ⟨t, ht, rfl, hnext⟩
  · obtain ⟨hvars, hresponses⟩ := control_quiet hquiet
    refine Or.inl ⟨hquiet, fun hn => ?_⟩
    obtain ⟨hcount, hsent⟩ := hrun hn
    refine ⟨hvars.trans hcount, ?_⟩
    rw [routineResults, hresponses]
    exact hsent
  · have hmeets : n < r.last → r.Meets sent (n + 1) t ∧
        (n + 1 < r.last → routineVars t.after.uds = vars (n + 1)) := by
      intro hn
      obtain ⟨hcount, hsent⟩ := hrun hn
      -- a running routine is what makes the server refuse a second start
      have hactive : t.before.uds.routineState ≠ .none := by
        have hstate := congrArg RoutineVars.state hcount
        rw [h.state n] at hstate
        exact fun hnone => h.running (hstate.symm.trans hnone)
      obtain ⟨resps, hans, hbusy⟩ :=
        answers_serveRequest t.inp.responseTxBusy hactive
      have hvars := hans.vars.trans hcount
      refine ⟨?_, (h.advance hn hvars).1⟩
      rw [← hsent]
      exact h.meets_tick hn hvars hans.responses hans.noResult fun _ => hbusy
    refine Or.inr ⟨t, ht, fun hn => (hmeets hn).1, fun hn => ?_⟩
    obtain ⟨hmeet, hvars⟩ := hmeets (Nat.lt_of_succ_lt hn)
    rw [hnext]
    refine ⟨hvars hn, ?_⟩
    rw [hmeet.results, Routine.resultAt_early hn, List.append_nil]

/-- **Run lemma.**  From the call that starts the routine on, every millisecond is as the
    timetable says. -/
theorem Timed.meets (h : Timed r vars) {t₀ : Tick}
    (hstart : routineVars (udsDiagServeRequest t₀.inp.responseTxBusy t₀.before).uds = vars 0)
    (hquiet : actResponses (udsDiagServeRequest t₀.inp.responseTxBusy t₀.before) =
      actResponses t₀.before)
    {es : List ControlEvent} {k : Nat}
    (hk : (ticks t₀.before (.call t₀.inp .udsUpdate1ms :: es))[k]? = some t)
    (hlast : k + 1 ≤ r.last) : r.Meets (routineResults t₀.before) (k + 1) t := by
  have hpos : 0 < r.last := Nat.lt_trans Nat.zero_lt_one h.last
  have hfirst : r.Meets (routineResults t₀.before) (0 + 1) t₀ :=
    h.meets_tick hpos hstart (hquiet.trans (List.append_nil _).symm)
      (fun _ hresp => absurd hresp List.not_mem_nil) fun hn => absurd hn (Nat.lt_irrefl 0)
  -- the first millisecond is the one that accepts; the step lemma is for those after it
  cases k with
  | zero =>
      obtain rfl : t₀ = t := Option.some.inj hk
      exact hfirst
  | succ k =>
      have hrest : (ticks t₀.after es)[k]? = some t := hk
      have hrun : Running r vars (routineResults t₀.before) 1 t₀.after := by
        intro hone
        refine ⟨(h.advance hpos hstart).1 hone, ?_⟩
        rw [hfirst.results, Routine.resultAt_early hone, List.append_nil]
      have hmeets := trace_indexed (Running r vars (routineResults t₀.before))
        (fun n t => n < r.last → r.Meets (routineResults t₀.before) (n + 1) t)
        (fun n s e hs => h.step e hs) hrun hrest
      rw [Nat.add_comm 1 k] at hmeets
      exact hmeets hlast

end Timed

/-! ## The two routines -/

/-- A request that is served starts a routine only if it is accepted. -/
theorem accepts_starts {state : UdsRoutineState} {t : Tick} (h : Accepts state t)
    (hstate : state ≠ .none) :
    (state = .motorTest ∧ udsDiagServeRequest t.inp.responseTxBusy t.before =
        udsDiagStartMotorRoutine (actTaken t.before)) ∨
      (state = .servoTest ∧ udsDiagServeRequest t.inp.responseTxBusy t.before =
        udsDiagStartServoRoutine (actTaken t.before)) := by
  obtain ⟨hidle, hstarted⟩ := h
  rcases serveRequest_eq t.inp.responseTxBusy t.before with
    ⟨-, hserve | hserve⟩ | ⟨req, -, hserve⟩
  · rw [hserve, hidle] at hstarted
    exact absurd hstarted.symm hstate
  · rw [hserve] at hstarted
    exact absurd (hstarted.symm.trans hidle) hstate
  · rw [hserve] at hstarted ⊢
    rcases actServe_cases t.inp.responseTxBusy req (actTaken t.before) with hans | hstart
    · obtain ⟨resp, -, -, -, heq⟩ := hans
      rw [heq, (sendSingleFrame_keeps _ _ _).uds.1, (actServed_same req _).2] at hstarted
      exact absurd (hstarted.symm.trans hidle) hstate
    · rcases hstart.routine with ⟨-, heq⟩ | ⟨-, heq⟩
      · rw [heq] at hstarted
        exact Or.inl ⟨hstarted.symm, heq⟩
      · rw [heq] at hstarted
        exact Or.inr ⟨hstarted.symm, heq⟩

/-- A routine that ends has sent its result, and nothing else. -/
theorem endRoutine_result (busy : Bool) (rid : Nat) (s : Act) :
    (udsDiagEndRoutine (udsDiagSendRoutineResult busy rid routineResultOk s)).motor = s.motor ∧
      (udsDiagEndRoutine (udsDiagSendRoutineResult busy rid routineResultOk s)).steering =
        s.steering ∧
      actResponses (udsDiagEndRoutine (udsDiagSendRoutineResult busy rid routineResultOk s)) =
        actResponses s ++ if busy then [] else [routineResult rid] := by
  have hpos : 1 ≤ (routineResult rid).length := by simp [routineResult]
  have hlen : (routineResult rid).length ≤ 11 := by simp [routineResult]
  have hresponses := actResponses_sendSingleFrame busy hpos hlen s
  obtain ⟨_, _, hsend⟩ := sendSingleFrame_writes busy (routineResult rid) s
  have hresult : udsDiagSendRoutineResult busy rid routineResultOk s =
      udsDiagSendSingleFrame busy (routineResult rid) s := rfl
  refine ⟨?_, ?_, ?_⟩
  · rw [hresult, hsend]
    rfl
  · rw [hresult, hsend]
    rfl
  · rw [hresult, ← hresponses]
    rfl

section Servo

variable (saved : DutyPercent)

/-- The counters of the servo routine: milliseconds of a step, and steps. -/
def servoVars (n : Nat) : RoutineVars := ⟨.servoTest, n % 800, n / 800, saved⟩

/-- The key that a step holds is the key of the timetable. -/
theorem servoRoutineKey_step {n : Nat} (h : n + 1 < 2400) :
    servoRoutineKey (n / 800) = servoKey (n + 1) := by
  rw [servoRoutineKey, servoKey]
  rcases Nat.lt_trichotomy (n / 800) 1 with hstep | hstep | hstep
  · rw [if_pos (by omega), if_pos (by omega)]
  · rw [if_neg (by omega), if_pos hstep, if_neg (by omega), if_pos (by omega)]
  · rw [if_neg (by omega), if_neg (by omega), if_neg (by omega), if_neg (by omega), if_pos h]

/-- **A millisecond of the servo routine** that is not the last one. -/
theorem servo_goesOn {n : Nat} {s : Act} (busy : Bool) (hn : n + 1 < 2400)
    (hvars : routineVars s.uds = servoVars saved n) :
    routineVars (udsDiagUpdateRoutine1ms busy s).uds = servoVars saved (n + 1) ∧
      (udsDiagUpdateRoutine1ms busy s).steering.steeringKey = servoKey (n + 1) ∧
      actResponses (udsDiagUpdateRoutine1ms busy s) = actResponses s := by
  have hstate : s.uds.routineState = .servoTest := congrArg RoutineVars.state hvars
  have htimer : s.uds.routineTimerMs = n % 800 := congrArg RoutineVars.timerMs hvars
  have hstep : s.uds.routineStep = n / 800 := congrArg RoutineVars.step hvars
  have hsaved : s.uds.savedMotorDuty = saved := congrArg RoutineVars.savedMotorDuty hvars
  have hkey : servoRoutineKey s.uds.routineStep = servoKey (n + 1) := by
    rw [hstep, servoRoutineKey_step hn]
  simp only [udsDiagUpdateRoutine1ms, hstate, udsDiagUpdateServoRoutine1ms]
  by_cases hrun : s.uds.routineTimerMs + 1 < 800
  · -- within a step
    have hmod : (n + 1) % 800 = n % 800 + 1 := by omega
    have hdiv : (n + 1) / 800 = n / 800 := by omega
    rw [if_pos hrun]
    refine ⟨?_, hkey, rfl⟩
    simp only [routineVars, servoVars, htimer, hstep, hsaved, hmod, hdiv]
  · -- the step is over, and it is not the third
    have hmod : (n + 1) % 800 = 0 := by omega
    have hdiv : (n + 1) / 800 = n / 800 + 1 := by omega
    have hmore : ¬ 3 ≤ s.uds.routineStep + 1 := by omega
    rw [if_neg hrun, if_neg hmore]
    refine ⟨?_, hkey, rfl⟩
    simp only [routineVars, servoVars, hstep, hsaved, hmod, hdiv]

/-- **The last one.** -/
theorem servo_ends {n : Nat} {s : Act} (busy : Bool) (hn : n + 1 = 2400)
    (hvars : routineVars s.uds = servoVars saved n) :
    (udsDiagUpdateRoutine1ms busy s).uds.routineState = .none ∧
      (udsDiagUpdateRoutine1ms busy s).steering.steeringKey = .null ∧
      actResponses (udsDiagUpdateRoutine1ms busy s) =
        actResponses s ++ if busy then [] else [routineResult routineServoTest] := by
  have hstate : s.uds.routineState = .servoTest := congrArg RoutineVars.state hvars
  have htimer : s.uds.routineTimerMs = n % 800 := congrArg RoutineVars.timerMs hvars
  have hstep : s.uds.routineStep = n / 800 := congrArg RoutineVars.step hvars
  have hover : ¬ s.uds.routineTimerMs + 1 < 800 := by omega
  have hthird : 3 ≤ s.uds.routineStep + 1 := by omega
  obtain ⟨u, hend, hkey, hsame⟩ : ∃ u, udsDiagUpdateRoutine1ms busy s =
      udsDiagEndRoutine (udsDiagSendRoutineResult busy routineServoTest routineResultOk u) ∧
      u.steering.steeringKey = .null ∧ u.sent = s.sent := by
    rw [udsDiagUpdateRoutine1ms, hstate]
    dsimp only
    rw [udsDiagUpdateServoRoutine1ms]
    dsimp only
    rw [if_neg hover, if_pos hthird]
    exact ⟨_, rfl, rfl, rfl⟩
  obtain ⟨-, hsteering, hresponses⟩ := endRoutine_result busy routineServoTest u
  rw [hend]
  refine ⟨rfl, (congrArg Steering.steeringKey hsteering).trans hkey, ?_⟩
  rw [hresponses, actResponses, hsame]
  rfl

theorem timed_servo : Timed servoRoutine (servoVars saved) where
  last := by decide
  state := fun _ => rfl
  running := by decide
  goesOn := fun _ busy _ hn hvars => servo_goesOn saved busy hn hvars
  ends := by
    intro n busy s hn hvars
    obtain ⟨hstate, hkey, hresponses⟩ := servo_ends saved busy hn hvars
    have hlast : servoKey servoRoutine.last = .null := by decide
    exact ⟨hstate, hkey.trans hlast.symm, hresponses⟩

end Servo

section Motor

variable (saved : DutyPercent)

/-- The counters of the motor routine: its milliseconds, and the duty it has saved. -/
def motorVars (n : Nat) : RoutineVars := ⟨.motorTest, n, 0, saved⟩

/-- **A millisecond of the motor routine** that is not the last one. -/
theorem motor_goesOn {n : Nat} {s : Act} (busy : Bool) (hn : n + 1 < 1000)
    (hvars : routineVars s.uds = motorVars saved n) :
    routineVars (udsDiagUpdateRoutine1ms busy s).uds = motorVars saved (n + 1) ∧
      MotorTested saved (n + 1) (udsDiagUpdateRoutine1ms busy s).motor ∧
      actResponses (udsDiagUpdateRoutine1ms busy s) = actResponses s := by
  have hstate : s.uds.routineState = .motorTest := congrArg RoutineVars.state hvars
  have htimer : s.uds.routineTimerMs = n := congrArg RoutineVars.timerMs hvars
  have hstep : s.uds.routineStep = 0 := congrArg RoutineVars.step hvars
  have hsaved : s.uds.savedMotorDuty = saved := congrArg RoutineVars.savedMotorDuty hvars
  have hmore : ¬ 1000 ≤ s.uds.routineTimerMs + 1 := by omega
  simp only [udsDiagUpdateRoutine1ms, hstate, udsDiagUpdateMotorRoutine1ms]
  rw [if_neg hmore]
  refine ⟨?_, ?_, rfl⟩
  · simp only [routineVars, motorVars, htimer, hstep, hsaved]
  · rw [MotorTested, if_pos hn]
    exact ⟨rfl, rfl, rfl⟩

/-- **The last one** gives the saved duty back. -/
theorem motor_ends {n : Nat} {s : Act} (busy : Bool) (hn : n + 1 = 1000)
    (hvars : routineVars s.uds = motorVars saved n) :
    (udsDiagUpdateRoutine1ms busy s).uds.routineState = .none ∧
      MotorTested saved 1000 (udsDiagUpdateRoutine1ms busy s).motor ∧
      actResponses (udsDiagUpdateRoutine1ms busy s) =
        actResponses s ++ if busy then [] else [routineResult routineMotorTest] := by
  have hstate : s.uds.routineState = .motorTest := congrArg RoutineVars.state hvars
  have htimer : s.uds.routineTimerMs = n := congrArg RoutineVars.timerMs hvars
  have hsaved : s.uds.savedMotorDuty = saved := congrArg RoutineVars.savedMotorDuty hvars
  have hover : 1000 ≤ s.uds.routineTimerMs + 1 := by omega
  obtain ⟨u, hend, hmotor, hsame⟩ : ∃ u, udsDiagUpdateRoutine1ms busy s =
      udsDiagEndRoutine (udsDiagSendRoutineResult busy routineMotorTest routineResultOk u) ∧
      u.motor = motorControlSetDutyPercent s.uds.savedMotorDuty.val
        (motorControlStop (motorControlForward (motorControlSetDutyPercent 30 s.motor))) ∧
      u.sent = s.sent := by
    rw [udsDiagUpdateRoutine1ms, hstate]
    dsimp only
    rw [udsDiagUpdateMotorRoutine1ms]
    dsimp only
    rw [if_pos hover]
    exact ⟨_, rfl, rfl, rfl⟩
  obtain ⟨hkeep, -, hresponses⟩ := endRoutine_result busy routineMotorTest u
  have hduty := motorLimitDutyPercent_val saved
  rw [hend]
  refine ⟨rfl, ?_, ?_⟩
  · rw [hkeep, hmotor, hsaved, MotorTested, if_neg (Nat.lt_irrefl 1000)]
    exact ⟨rfl, hduty, hduty, hduty⟩
  · rw [hresponses, actResponses, hsame]
    rfl

theorem timed_motor : Timed (motorRoutine saved) (motorVars saved) where
  last := show 1 < 1000 by decide
  state := fun _ => rfl
  running := show UdsRoutineState.motorTest ≠ .none by decide
  goesOn := fun _ busy _ hn hvars => motor_goesOn saved busy hn hvars
  ends := fun _ busy _ hn hvars => motor_ends saved busy hn hvars

end Motor

theorem servo_meets {t₀ t : Tick} (h : Accepts .servoTest t₀) {es : List ControlEvent} {k : Nat}
    (hk : (ticks t₀.before (.call t₀.inp .udsUpdate1ms :: es))[k]? = some t)
    (hlast : k + 1 ≤ 2400) : servoRoutine.Meets (routineResults t₀.before) (k + 1) t := by
  have htimed := timed_servo t₀.before.uds.savedMotorDuty
  rcases accepts_starts h (by decide) with ⟨hmotor, -⟩ | ⟨-, hserve⟩
  · cases hmotor
  · refine htimed.meets ?_ ?_ hk hlast
    · rw [hserve]
      rfl
    · rw [hserve]
      rfl

theorem motor_meets {t₀ t : Tick} (h : Accepts .motorTest t₀) {es : List ControlEvent} {k : Nat}
    (hk : (ticks t₀.before (.call t₀.inp .udsUpdate1ms :: es))[k]? = some t)
    (hlast : k + 1 ≤ 1000) :
    (motorRoutine t₀.before.motor.dutyPercent).Meets (routineResults t₀.before) (k + 1) t := by
  have htimed := timed_motor t₀.before.motor.dutyPercent
  rcases accepts_starts h (by decide) with ⟨-, hserve⟩ | ⟨hservo, -⟩
  · refine htimed.meets ?_ ?_ hk hlast
    · rw [hserve]
      rfl
    · rw [hserve]
      rfl
  · cases hservo

/-! ## The request that waits -/

/-- The event neither overwrites the waiting request nor has it served. -/
def LeavesRequest : ControlEvent → Prop
  | .rxIsr m => ¬ IsDiagRequest m
  | .call _ c => c ≠ .udsUpdate1ms

instance (e : ControlEvent) : Decidable (LeavesRequest e) := by
  unfold LeavesRequest
  split <;> infer_instance

theorem leavesRequest_step (s : Act) {e : ControlEvent} (h : LeavesRequest e) :
    (controlStep s e).uds = s.uds := by
  cases e with
  | rxIsr m =>
      show (actCanRxIsrHandler m s).uds = s.uds
      rcases hc : accepted m with _ | c
      · rw [rxIsr_invalid hc h]
        rfl
      · rw [rxIsr_accepted hc]
        rfl
  | call inp c => exact loopCall_uds inp h s

/-- **A request waits** from its reception until it is served or overwritten. -/
theorem waiting_received {m : CanMessage} (hm : IsDiagRequest m) (s : Act)
    {es : List ControlEvent} (hes : ∀ e ∈ es, LeavesRequest e) :
    actWaiting (run controlStep s (.rxIsr m :: es)).uds = (requestOf (rxByte m)).toList := by
  have hfirst : actWaiting (actCanRxIsrHandler m s).uds = (requestOf (rxByte m)).toList := by
    rw [rxIsr_request hm]
    rfl
  have hsteps : AllSteps controlStep (fun _ e => LeavesRequest e) (actCanRxIsrHandler m s) es :=
    allSteps_of_mem fun _ e he => hes e he
  refine run_guarded (fun u => actWaiting u.uds = (requestOf (rxByte m)).toList) ?_ hfirst hsteps
  intro u e hu he
  rw [leavesRequest_step u he]
  exact hu

/-! ## Main result -/

/-- **THE ROUTINES KEEP THEIR SCHEDULE**, whatever is received and called between the calls of
    `UdsDiag_Update1ms`.  The `n`-th call, counted from the one that accepts the routine, leaves
    the output of the timetable; the last one, and no other, hands over the positive response,
    which a busy transmit buffer drops; and a request to start a routine that is waiting in the
    extended session is answered with the reason 0x21, unless the buffer is busy.  The request
    that waits is the last one received. -/
theorem routine_schedule (t₀ : Tick) (es : List ControlEvent) :
    (Accepts .servoTest t₀ → ∀ k t,
      (ticks t₀.before (.call t₀.inp .udsUpdate1ms :: es))[k]? = some t → k + 1 ≤ 2400 →
      servoRoutine.Meets (routineResults t₀.before) (k + 1) t) ∧
    (Accepts .motorTest t₀ → ∀ k t,
      (ticks t₀.before (.call t₀.inp .udsUpdate1ms :: es))[k]? = some t → k + 1 ≤ 1000 →
      (motorRoutine t₀.before.motor.dutyPercent).Meets (routineResults t₀.before) (k + 1) t) ∧
    (∀ (s : Act) (m : CanMessage), IsDiagRequest m → (∀ e ∈ es, LeavesRequest e) →
      actWaiting (run controlStep s (.rxIsr m :: es)).uds = (requestOf (rxByte m)).toList) := by
  refine ⟨?_, ?_, ?_⟩
  · intro h k t hk hlast
    exact servo_meets h hk hlast
  · intro h k t hk hlast
    exact motor_meets h hk hlast
  · intro s m hm hes
    exact waiting_received hm s hes

/-- Request to start the servo test. -/
def servoTestFrame : CanMessage :=
  fdMessage udsDiagReqCanId 8 [0x04, 0x31, 0x01, 0x01, 0x01]

/-- A request to start a routine is waiting, in the extended session. -/
def readyFor (m : CanMessage) : Act :=
  run controlStep (actCanInit (actReset restReset).act)
    [.rxIsr sessionFrame, .call restInputs .udsUpdate1ms, .rxIsr m]

/-- The second start of the servo test finds the first one running; the motor test starts; and a
    drive command does not overwrite a request. -/
theorem routine_schedule_start :
    servoRoutine.Meets (routineResults (readyFor servoTestFrame)) 2
        ⟨controlStep (udsDiagUpdate1ms restInputs (readyFor servoTestFrame))
          (.rxIsr servoTestFrame), restInputs⟩ ∧
      (motorRoutine (readyFor motorTestFrame).motor.dutyPercent).Meets
        (routineResults (readyFor motorTestFrame)) 1 ⟨readyFor motorTestFrame, restInputs⟩ ∧
      actWaiting (run controlStep (actReset restReset).act
          [.rxIsr servoTestFrame, .rxIsr driveLeftFrame]).uds =
        (requestOf (rxByte servoTestFrame)).toList :=
  ⟨(routine_schedule ⟨readyFor servoTestFrame, restInputs⟩
      [.rxIsr servoTestFrame, .call restInputs .udsUpdate1ms]).1 (by decide) 1 _ rfl (by decide),
    (routine_schedule ⟨readyFor motorTestFrame, restInputs⟩ []).2.1 (by decide) 0 _ rfl
      (by decide),
    (routine_schedule ⟨readyFor motorTestFrame, restInputs⟩ [.rxIsr driveLeftFrame]).2.2
      (actReset restReset).act servoTestFrame (by decide) (by decide)⟩

/-! ## Busy transmit buffers -/

/-- A hardware whose transmit buffers stay busy. -/
def busyInputs : ActInputs := { restInputs with responseTxBusy := true, routineTxBusy := true }

/-- So many calls, one after the other. -/
def calls (inp : ActInputs) (n : Nat) : List ControlEvent :=
  List.replicate n (.call inp .udsUpdate1ms)

/-- Each of them is a tick. -/
theorem ticks_calls (inp : ActInputs) (s : Act) {k n : Nat} (h : k < n) :
    ∃ t, (ticks s (calls inp n))[k]? = some t ∧ t.inp = inp := by
  induction n generalizing s k with
  | zero => exact absurd h (Nat.not_lt_zero k)
  | succ n ih =>
      cases k with
      | zero => exact ⟨⟨s, inp⟩, rfl, rfl⟩
      | succ k => exact ih (udsDiagUpdate1ms inp s) (Nat.lt_of_succ_lt_succ h)

/-- **The end of a routine is not reported** when the transmit buffer is busy in its last
    millisecond: after 2400 calls the key is back at the centre and no response has left. -/
theorem servo_unreported :
    Accepts .servoTest ⟨readyFor servoTestFrame, busyInputs⟩ ∧
      ∃ t, (ticks (readyFor servoTestFrame) (calls busyInputs 2400))[2399]? = some t ∧
        t.after.steering.steeringKey = .null ∧ t.after.uds.routineState = .none ∧
        routineResults t.after = [] := by
  have haccepts : Accepts .servoTest ⟨readyFor servoTestFrame, busyInputs⟩ := by decide
  obtain ⟨t, ht, hinp⟩ :=
    ticks_calls busyInputs (readyFor servoTestFrame) (show 2399 < 2399 + 1 by decide)
  have hrun : calls busyInputs (2399 + 1) =
      .call busyInputs .udsUpdate1ms :: calls busyInputs 2399 := List.replicate_succ
  have hmeets : servoRoutine.Meets (routineResults (readyFor servoTestFrame)) (2399 + 1) t :=
    servo_meets haccepts (hrun ▸ ht) (by decide)
  have hnone : servoRoutine.resultAt (2399 + 1) t.inp = [] := by
    rw [hinp]
    decide
  refine ⟨haccepts, t, ht, ?_, ?_, ?_⟩
  · rw [hmeets.output]
    decide
  · rw [hmeets.state]
    decide
  · rw [hmeets.results, hnone]
    decide

/-! ## What the motor routine gives back -/

/-- General duty and wheel duties are what they were. -/
def Restored (s t : Act) : Prop :=
  t.motor.dutyPercent = s.motor.dutyPercent ∧
    t.motor.leftDutyPercent = s.motor.leftDutyPercent ∧
    t.motor.rightDutyPercent = s.motor.rightDutyPercent

/-- Both wheels turn with the general duty. -/
def Straight (m : Motor) : Prop :=
  m.leftDutyPercent = m.dutyPercent ∧ m.rightDutyPercent = m.dutyPercent

instance (m : Motor) : Decidable (Straight m) := by
  unfold Straight
  infer_instance

/-- After its last millisecond the routine gives the saved duty to both wheels, whatever
    happened in between. -/
theorem motor_gives_back {t₀ t : Tick} (h : Accepts .motorTest t₀) {es : List ControlEvent}
    (ht : (ticks t₀.before (.call t₀.inp .udsUpdate1ms :: es))[999]? = some t) :
    t.after.motor.dutyPercent = t₀.before.motor.dutyPercent ∧
      t.after.motor.leftDutyPercent = t₀.before.motor.dutyPercent ∧
      t.after.motor.rightDutyPercent = t₀.before.motor.dutyPercent := by
  have hmeets := motor_meets h ht (by decide)
  have hout : MotorTested t₀.before.motor.dutyPercent (999 + 1) t.after.motor := hmeets.output
  rw [MotorTested, if_neg (by decide)] at hout
  exact hout.2

/-- **The motor routine restores the duties exactly when it was not started in a turn**: it
    saves the general duty only. -/
theorem duty_restored_iff {t₀ t : Tick} (h : Accepts .motorTest t₀) {es : List ControlEvent}
    (ht : (ticks t₀.before (.call t₀.inp .udsUpdate1ms :: es))[999]? = some t) :
    Restored t₀.before t.after ↔ Straight t₀.before.motor := by
  obtain ⟨hgeneral, hleft, hright⟩ := motor_gives_back h ht
  rw [Restored, Straight, hgeneral, hleft, hright]
  constructor
  · rintro ⟨-, hl, hr⟩
    exact ⟨hl.symm, hr.symm⟩
  · rintro ⟨hl, hr⟩
    exact ⟨rfl, hl.symm, hr.symm⟩

/-- A thousand calls and nothing else. -/
theorem last_call (t₀ : Tick) : ∃ t,
    (ticks t₀.before (.call t₀.inp .udsUpdate1ms :: calls t₀.inp 999))[999]? = some t := by
  obtain ⟨t, ht, -⟩ := ticks_calls t₀.inp t₀.before (show 999 < 999 + 1 by decide)
  have hrun : calls t₀.inp (999 + 1) =
      .call t₀.inp .udsUpdate1ms :: calls t₀.inp 999 := List.replicate_succ
  exact ⟨t, hrun ▸ ht⟩

/-- Started straight ahead, it restores them. -/
theorem duty_restored_straight : ∃ t,
    (ticks (readyFor motorTestFrame)
      (.call restInputs .udsUpdate1ms :: calls restInputs 999))[999]? = some t ∧
    (Restored (readyFor motorTestFrame) t.after ↔ Straight (readyFor motorTestFrame).motor) := by
  obtain ⟨t, ht⟩ := last_call ⟨readyFor motorTestFrame, restInputs⟩
  have haccepts : Accepts .motorTest ⟨readyFor motorTestFrame, restInputs⟩ := by decide
  exact ⟨t, ht, duty_restored_iff haccepts ht⟩

/-- A left turn at 30 and 100 percent, and the motor test is requested. -/
def turning : Act :=
  run controlStep (actCanInit (actReset restReset).act)
    [.rxIsr driveLeftFrame, .call restInputs .canUpdate100us, .rxIsr sessionFrame,
      .call restInputs .udsUpdate1ms, .rxIsr motorTestFrame]

/-- **After a motor test in a turn both wheels run at 90 percent**, although nothing but the
    routine has written a duty. -/
theorem duty_not_restored : Accepts .motorTest ⟨turning, restInputs⟩ ∧ ∃ t,
    (ticks turning (.call restInputs .udsUpdate1ms :: calls restInputs 999))[999]? = some t ∧
    turning.motor.leftDutyPercent = duty 30 ∧ turning.motor.rightDutyPercent = duty 100 ∧
    t.after.motor.leftDutyPercent = duty 90 ∧ t.after.motor.rightDutyPercent = duty 90 ∧
    ¬ Restored turning t.after := by
  have haccepts : Accepts .motorTest ⟨turning, restInputs⟩ := by decide
  obtain ⟨t, ht⟩ := last_call ⟨turning, restInputs⟩
  obtain ⟨-, hleft, hright⟩ := motor_gives_back haccepts ht
  have hgeneral : turning.motor.dutyPercent = duty 90 := by decide
  have hturn : turning.motor.leftDutyPercent = duty 30 := by decide
  refine ⟨haccepts, t, ht, hturn, by decide, hleft.trans hgeneral, hright.trans hgeneral, ?_⟩
  rintro ⟨-, hl, -⟩
  rw [hleft, hturn] at hl
  revert hl
  decide

end RoutineSchedule
