import RemoteVehicle.ActFrameProofs

/-!
# The ACT command path refines the held-command specification

`ActSpec` states what ACT is for.  Here the source's own functions are shown to do it, for
every order of receive interrupts and main loop calls in which no diagnostic routine runs.

The relation `Follows` is the refinement relation of the library, read through the latch
inside ACT, together with the absence of a routine.  One event keeps it (`follows_step`),
so every run does (`follows_run`), and at a tick the library's `tick_output` turns it into
the equation of outputs.
-/

namespace ActCommand

open Runs CanFrame ActMotor ActServo ActState ActUdsDiag ActCan ActLoop ActSpec ActFrame
open HeldCommand

/-! ## Step and run -/

/-- ACT follows the specification and no routine runs. -/
structure Follows (s : Act) (h : Held ActCommand) : Prop where
  tracks : Tracks actCanCmdTimeout100usTicks actDecode (actLatch s) h
  idle : s.uds.routineState = .none

/-- A step that leaves CAN path and outputs alone leaves the latch alone. -/
theorem actLatch_congr {s t : Act} (hcan : t.can = s.can) (hout : actOutput t = actOutput s) :
    actLatch t = actLatch s := by
  simp only [actLatch, hcan, hout]

/-- The latch takes a stored command as an acceptance. -/
theorem actLatch_store (c : ActCommand) (s : Act) :
    actLatch (storeCommand c s) = (actLatch s).accept c := rfl

/-- Any other frame is no event for the latch. -/
theorem actLatch_rxIsr_none {m : CanMessage} (h : accepted m = none) (s : Act) :
    actLatch (actCanRxIsrHandler m s) = actLatch s := by
  rcases rxIsr_cases m s with ⟨c, hc, -⟩ | ⟨-, hs | hs⟩
  · rw [h] at hc
    exact absurd hc (by simp)
  · rw [hs]; rfl
  · rw [hs]; rfl

/-- **Step lemma.**  One event, seen by the specification as `controlOps` says. -/
theorem follows_step {s : Act} {h : Held ActCommand} (e : ControlEvent)
    (hf : Follows s h) (hok : NoRoutine s e) :
    Follows (controlStep s e) (run Held.step h (controlOps e)) := by
  refine ⟨?_, hok⟩
  cases e with
  | rxIsr m =>
      -- a refused frame is no event of the held command, an accepted one is its accept
      rcases hc : accepted m with _ | c
      · show Tracks _ _ (actLatch (actCanRxIsrHandler m s)) (run Held.step h (controlOps _))
        rw [actLatch_rxIsr_none hc]
        simp only [controlOps, hc]
        exact hf.tracks
      · show Tracks _ _ (actLatch (actCanRxIsrHandler m s)) (run Held.step h (controlOps _))
        rw [rxIsr_accepted hc, actLatch_store]
        simp only [controlOps, hc]
        exact tracks_step actSafe hf.tracks (.accept c)
  | call inp c =>
      by_cases hcan : c = .canUpdate100us
      · subst hcan
        show Tracks _ _ (actLatch (actCanUpdate100us s)) (h.step .tick)
        rw [actLatch_update]
        exact tracks_step actSafe hf.tracks .tick
      · have hops : controlOps (.call inp c) = [] := by
          cases c <;> first | rfl | exact absurd rfl hcan
        rw [hops]
        show Tracks _ _ (actLatch (loopCall inp c s)) h
        -- of the other calls only the diagnostic one can move the motor, by a routine
        by_cases huds : c = .udsUpdate1ms
        · subst huds
          show Tracks _ _ (actLatch (udsDiagUpdate1ms inp s)) h
          rw [actLatch_congr (udsUpdate_can inp s) (udsUpdate_idle inp s hf.idle hok)]
          exact hf.tracks
        · have hk := loopCall_quiet inp c s hcan huds
          rw [actLatch_congr hk.can hk.output]
          exact hf.tracks

/-- **Run lemma.** -/
theorem follows_run {s : Act} {h : Held ActCommand} (hf : Follows s h)
    {es : List ControlEvent} (hes : AllSteps controlStep NoRoutine s es) :
    Follows (run controlStep s es) (run Held.step h (es.flatMap controlOps)) := by
  have hpair := run_simulation (fun _ => controlOps) Follows
    (fun s h e hf hok => follows_step e hf hok) hf hes
  rw [run_withSpec_fst, run_withSpec_snd] at hpair
  exact hpair

/-- `ActCan_Init` establishes the relation. -/
theorem follows_init {s : Act} (h : s.uds.routineState = .none) :
    Follows (actCanInit s) Held.empty :=
  ⟨tracks_empty rfl, h⟩

/-! ## Commands that are never applied -/

/-- Storing a second command before an update overwrites the first one; only the count of
    accepted frames remembers it. -/
theorem storeCommand_storeCommand (c d : ActCommand) (s : Act) :
    storeCommand d (storeCommand c s) =
      { storeCommand d s with can := { (storeCommand d s).can with
          rxCount := s.can.rxCount + 1 + 1 } } := rfl

/-- Frames received one after the other. -/
def receiveAll (ms : List CanMessage) (s : Act) : Act :=
  ms.foldl (fun s m => actCanRxIsrHandler m s) s

/-- Of several accepted frames in a row only the last one is left, up to the count. -/
theorem receiveAll_last {ms : List CanMessage} (hms : ∀ m ∈ ms, (accepted m).isSome)
    {m : CanMessage} {c : ActCommand} (hm : accepted m = some c) (s : Act) :
    actCanRxIsrHandler m (receiveAll ms s) =
      { actCanRxIsrHandler m s with can := { (actCanRxIsrHandler m s).can with
          rxCount := s.can.rxCount + UInt32.ofNat ms.length + 1 } } := by
  induction ms generalizing s with
  | nil =>
      rw [rxIsr_accepted hm, rxIsr_accepted hm]
      simp [receiveAll, storeCommand]
  | cons d ms ih =>
      obtain ⟨b, hb⟩ := Option.isSome_iff_exists.mp (hms d (List.mem_cons_self ..))
      have htail := ih (fun k hk => hms k (List.mem_cons_of_mem d hk)) (actCanRxIsrHandler d s)
      show actCanRxIsrHandler m (receiveAll ms (actCanRxIsrHandler d s)) = _
      have hcount : s.can.rxCount + 1 + UInt32.ofNat ms.length + 1 =
          s.can.rxCount + UInt32.ofNat (ms.length + 1) + 1 := by
        rw [UInt32.ofNat_add, UInt32.add_comm (UInt32.ofNat _), ← UInt32.add_assoc]
        rfl
      rw [htail, rxIsr_accepted hb, rxIsr_accepted hm, rxIsr_accepted hm,
        storeCommand_storeCommand, List.length_cons, ← hcount]
      rfl

/-! ## Every run of the command path -/

/-- **THE ACT COMMAND PATH REFINES ITS SPECIFICATION.**  From `ActCan_Init`, over any
    interleaving of received frames and main loop calls that leaves no routine running:
    after every `ActCan_Update100us` the outputs are those of the command held, whatever
    happened before.  A frame that is neither an accepted command nor a well-formed
    diagnostic request only counts as invalid, and accepted commands that are followed by
    another one before the update leave nothing but their count. -/
theorem act_control_refines (s : Act) (hs : s.uds.routineState = .none) :
    (∀ (es : List ControlEvent) (inp : ActInputs),
      AllSteps controlStep NoRoutine (actCanInit s) es →
      actOutput (run controlStep (actCanInit s) (es ++ [.call inp .canUpdate100us])) =
        actSpecOutput (heldAfter (es ++ [.call inp .canUpdate100us]))) ∧
    (∀ (t : Act) (m : CanMessage), accepted m = none → ¬ IsDiagRequest m →
      actCanRxIsrHandler m t =
        { t with can := { t.can with invalidCount := t.can.invalidCount + 1 } }) ∧
    (∀ (t : Act) (ms : List CanMessage) (m : CanMessage),
      (∀ k ∈ ms, (accepted k).isSome) → (accepted m).isSome →
      actCanRxIsrHandler m (receiveAll ms t) =
        { actCanRxIsrHandler m t with can := { (actCanRxIsrHandler m t).can with
            rxCount := t.can.rxCount + UInt32.ofNat ms.length + 1 } }) := by
  refine ⟨?_, ?_, ?_⟩
  · intro es inp hes
    have hf := follows_run (follows_init hs) hes
    rw [run_snoc]
    have hheld : heldAfter (es ++ [.call inp .canUpdate100us]) =
        (run Held.step Held.empty (es.flatMap controlOps)).step .tick := by
      rw [heldAfter, List.flatMap_append, run_append]
      rfl
    rw [hheld, actSpecOutput, ← tick_output hf.tracks, ← actLatch_update]
    rfl
  · intro t m hc hr
    exact rxIsr_invalid hc hr t
  · intro t ms m hms hm
    obtain ⟨c, hc⟩ := Option.isSome_iff_exists.mp hm
    exact receiveAll_last hms hc t

/-- A drive command is applied at the next update, a frame of the wrong mode is not, and
    the first of two commands is lost. -/
theorem act_control_refines_drive :
    actOutput (run controlStep (actCanInit (actReset restReset).act)
        ([.rxIsr driveLeftFrame] ++ [.call restInputs .canUpdate100us])) =
      actSpecOutput (heldAfter
        ([.rxIsr driveLeftFrame] ++ [.call restInputs .canUpdate100us])) ∧
    actCanRxIsrHandler classicFrame (actReset restReset).act =
      { (actReset restReset).act with can := { (actReset restReset).act.can with
          invalidCount := (actReset restReset).act.can.invalidCount + 1 } } ∧
    actCanRxIsrHandler driveLeftFrame (receiveAll [driveLeftFrame] (actReset restReset).act) =
      { actCanRxIsrHandler driveLeftFrame (actReset restReset).act with can :=
        { (actCanRxIsrHandler driveLeftFrame (actReset restReset).act).can with
            rxCount := (actReset restReset).act.can.rxCount +
              UInt32.ofNat [driveLeftFrame].length + 1 } } :=
  ⟨(act_control_refines (actReset restReset).act rfl).1 _ restInputs
      ⟨(rxIsr_output driveLeftFrame (actCanInit (actReset restReset).act)).2.1, trivial⟩,
    (act_control_refines (actReset restReset).act rfl).2.1 (actReset restReset).act classicFrame
      (by decide) (by decide),
    (act_control_refines (actReset restReset).act rfl).2.2 (actReset restReset).act
      [driveLeftFrame] driveLeftFrame (by decide) (by decide)⟩

end ActCommand
