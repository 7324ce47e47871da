import RemoteVehicle.BodyCalls
import RemoteVehicle.BodyFrameProofs

/-!
# BODY makes runs of control calls

The main loop, the command path and the diagnostic services of BODY touch the outputs through
the public functions of `BodyControl.c` only.  So whatever the ECU does, its outputs are in a
state that some run of `ControlCall`s leads to (`bodyRun_calls`), and what holds after every
such run holds in BODY.
-/

namespace BodyControlRuns

open Runs CanFrame BodyState BodyControl BodyUds BodyCan BodySpec BodyCalls UdsFrame UdsAnswer
  UdsTrace BodyFrame

/-! ## Reached by calls -/

/-- A run of control calls leads from one state to the other. -/
def Calls (s t : BodyControlState) : Prop := ∃ cs, t = run controlStep s cs

theorem Calls.refl (s : BodyControlState) : Calls s s := ⟨[], rfl⟩

theorem Calls.one (s : BodyControlState) (c : ControlCall) : Calls s (controlStep s c) := ⟨[c], rfl⟩

theorem Calls.trans {s t u : BodyControlState} (h : Calls s t) (h' : Calls t u) : Calls s u := by
  obtain ⟨cs, rfl⟩ := h
  obtain ⟨ds, rfl⟩ := h'
  exact ⟨cs ++ ds, (run_append ..).symm⟩

/-! ## The command path -/

variable (inp : BodyInputs)

theorem calls_enterSafeState (s : Body) :
    Calls s.control (bodyCanEnterSafeState inp s).control :=
  Calls.one s.control (.allOff inp)

theorem calls_applyCommand (c : BodyCommand) (s : Body) :
    Calls s.control (bodyCanApplyBodyCommand inp c s).control := by
  rw [bodyCanApplyBodyCommand]
  split
  · exact calls_enterSafeState inp s
  · exact ⟨[.setHeadlamp (c.headlampRaw == bodyCanOn), .setTurnSignal c.turnSignalRaw,
      .setBrakeLamp (c.brakeLampRaw == bodyCanOn), .setHorn (c.hornRaw == bodyCanOn),
      .setCollisionWarningLamp (c.collisionWarningRaw == bodyCanOn)], rfl⟩

theorem calls_prepared (s : Body) : Calls s.control (bodyPrepared inp s).control := by
  have hcheck : Calls s.control (checkTimeout inp (BodyCan.countTimeout s)).control := by
    rw [checkTimeout]
    split
    · exact calls_enterSafeState inp (BodyCan.countTimeout s)
    · exact Calls.refl s.control
  rw [bodyPrepared, applyUpdated]
  split
  · exact hcheck.trans (calls_applyCommand inp _ _)
  · exact hcheck

/-! ## Diagnostic requests -/

theorem calls_served (req : List UInt8) (c : BodyControlState) :
    Calls c (bodyControlServed inp req c) := by
  rw [bodyControlServed]
  split_ifs
  · exact Calls.one c .clearDtcHistory
  · exact Calls.one c (.runUltrasonicDiagnosticRoutine inp.requestEcho)
  · exact Calls.one c .runBuzzerDiagnosticRoutine
  · exact Calls.one c .runLedDiagnosticRoutine
  · exact Calls.refl c

theorem calls_processUds (s : Body) :
    Calls s.control (processUdsRequestIfNeeded inp s).control := by
  obtain ⟨-, -, hcontrol⟩ | ⟨req, -, heq⟩ := processUds_eq inp s
  · rw [hcontrol]
    exact Calls.refl s.control
  · obtain ⟨resp, -, -, -, hserve⟩ := bodyServe_eq inp req (bodyTaken s)
    rw [heq, hserve, sendUdsPayload_control]
    exact calls_served inp req s.control

/-- **`BodyCan_Update1ms`**. -/
theorem calls_canUpdate (s : Body) : Calls s.control (bodyCanUpdate1ms inp s).control := by
  have hupdate : (bodyCanUpdate1ms inp s).control =
      (processUdsRequestIfNeeded inp (bodyPrepared inp s)).control :=
    (sendHeartbeat_control _ _).trans (sendCollision_control _ _)
  rw [hupdate]
  exact (calls_prepared inp s).trans (calls_processUds inp _)

/-! ## The main loop -/

theorem calls_bodyStep (s : Body) (e : BodyEvent) : Calls s.control (bodyStep s e).control := by
  cases e with
  | rxIsr m =>
      have hcontrol : (bodyCanRxIsrHandler m s).control = s.control := by
        simp only [bodyCanRxIsrHandler]
        split_ifs <;> rfl
      have hstep : (bodyStep s (.rxIsr m)).control = _ := hcontrol
      rw [hstep]
      exact Calls.refl s.control
  | call inp c =>
      cases c with
      | canUpdate1ms => exact calls_canUpdate inp s
      | controlUpdate1ms => exact Calls.one s.control (.update1ms inp)
      | reportCollision =>
          have hconsume : (reportCollisionIfPressed s).control =
              controlStep s.control .consumeCollisionButtonPressedEvent := by
            rw [reportCollisionIfPressed, controlStep, consumeCollisionButtonPressedEvent]
            cases s.control.button.eventPending <;> rfl
          exact ⟨[.consumeCollisionButtonPressedEvent], hconsume⟩
      | delay1ms => exact Calls.one s.control (.wait 1000)

/-- **The outputs of BODY after any list of events** are those after a run of control calls. -/
theorem bodyRun_calls (es : List BodyEvent) :
    ∃ cs, (run bodyStep (bodyReset inp) es).control = controlRun inp cs := by
  have hreset : Calls (init inp) (bodyReset inp).control := Calls.one _ (.allOff inp)
  obtain ⟨cs, hcs⟩ := run_invariant (fun s : Body => Calls (init inp) s.control)
    (fun s e hs => hs.trans (calls_bodyStep s e)) hreset es
  exact ⟨cs, hcs⟩

end BodyControlRuns
