import RemoteVehicle.BodyCalls
import RemoteVehicle.Debounce

/-!
# The collision switch is debounced

`BodyControl_UpdateCollisionButton1ms` is a debounce filter that also counts the presses and
flags them.  Nothing else writes the switch, except that the flag is consumed (`button_step`).
-/

namespace ButtonDebounce

open Runs BodyState BodyControl BodyCalls Debounce

/-! ## The filter -/

/-- The filter of the switch. -/
def filterOf (b : CollisionButton) : Debouncer Bool :=
  ⟨b.lastRawPressed, b.stablePressed, b.debounceTimerMs⟩

theorem filterOf_update (raw : Bool) (b : CollisionButton) :
    filterOf (updateCollisionButton1ms raw b) =
      (filterOf b).sample collisionButtonDebounceMs raw := by
  by_cases hchange : raw ≠ b.lastRawPressed
  · rw [updateCollisionButton1ms, if_pos hchange]
    exact (if_pos hchange).symm
  · by_cases hroom : b.debounceTimerMs < collisionButtonDebounceMs
    · rw [updateCollisionButton1ms, if_neg hchange, if_pos hroom]
      exact ((if_neg hchange).trans (if_pos hroom)).symm
    · rw [updateCollisionButton1ms, if_neg hchange, if_neg hroom]
      refine Eq.trans ?_ ((if_neg hchange).trans (if_neg hroom)).symm
      split_ifs with hother
      · rw [setStablePressed]
        split_ifs
        · rfl
        · rfl
      · rw [not_not.mp hother]
        rfl

/-- The sample that a call takes. -/
def sampleOf : ControlCall → Option Bool
  | .update1ms inp => some inp.buttonHigh
  | _ => none

/-- The samples of a list of calls. -/
def samples (cs : List ControlCall) : List Bool := cs.filterMap sampleOf

/-! ## Who writes the switch -/

theorem button_update (inp : BodyInputs) (s : BodyControlState) :
    (update1ms inp s).button = updateCollisionButton1ms inp.buttonHigh s.button := by
  obtain ⟨u, w, horn, dtc, danger, mask, buzzer, led, stm, hbefore, -⟩ := beforeBlink_writes inp s
  rw [update1ms_eq, hbefore, updateDiagnosis1ms, updateBlink]
  split_ifs <;> rfl

theorem button_consume (s : BodyControlState) :
    (consumeCollisionButtonPressedEvent s).2.button =
      { s.button with eventPending := false } ∧
      (consumeCollisionButtonPressedEvent s).1 = s.button.eventPending := by
  rw [consumeCollisionButtonPressedEvent]
  split_ifs with hnone
  · exact ⟨by rw [← hnone], hnone.symm⟩
  · exact ⟨rfl, ((Bool.not_eq_false _).mp hnone).symm⟩

/-- The switch after a call. -/
def buttonAfter (c : ControlCall) (b : CollisionButton) : CollisionButton :=
  match c with
  | .update1ms inp => updateCollisionButton1ms inp.buttonHigh b
  | .consumeCollisionButtonPressedEvent => { b with eventPending := false }
  | _ => b

/-- **The switch is written by its update and by the consumer of its events only.** -/
theorem button_step (s : BodyControlState) (c : ControlCall) :
    (controlStep s c).button = buttonAfter c s.button := by
  cases c with
  | update1ms inp => exact button_update inp s
  | consumeCollisionButtonPressedEvent => exact (button_consume s).1
  | setTurnSignal m =>
      simp only [controlStep, setTurnSignal]
      split_ifs <;> rfl
  | setCollisionWarningLamp on =>
      obtain ⟨u, w, buzzer, hset⟩ := setWarningLamp_writes s on
      exact (congrArg BodyControlState.button hset).trans rfl
  | setHorn on =>
      obtain ⟨horn, buzzer, hset⟩ := setHorn_writes s on
      exact (congrArg BodyControlState.button hset).trans rfl
  | clearDtcHistory => rfl
  | runBuzzerDiagnosticRoutine =>
      obtain ⟨on, us, hrun⟩ := runBuzzer_writes s
      exact (congrArg BodyControlState.button hrun).trans rfl
  | runUltrasonicDiagnosticRoutine echo =>
      obtain ⟨cm, valid, mask, led, stm, hrun, -⟩ := runUltrasonic_writes s echo
      exact (congrArg BodyControlState.button hrun).trans rfl
  | _ => rfl

/-- The filter of the switch takes the samples of the calls. -/
theorem filterOf_run (s : BodyControlState) (cs : List ControlCall) :
    filterOf (run controlStep s cs).button =
      (samples cs).foldl (Debouncer.sample collisionButtonDebounceMs) (filterOf s.button) := by
  induction cs generalizing s with
  | nil => rfl
  | cons c cs ih =>
      rw [run_cons, ih]
      have hbutton := button_step s c
      cases c with
      | update1ms inp =>
          rw [hbutton, buttonAfter, filterOf_update]
          rfl
      | _ =>
          rw [hbutton]
          rfl

/-! ## Presses -/

/-- The call changes the stable state from released to pressed. -/
def Presses (s : BodyControlState) (c : ControlCall) : Prop :=
  s.button.stablePressed = false ∧ (controlStep s c).button.stablePressed = true

theorem update_events (raw : Bool) (b : CollisionButton) :
    b.stablePressed = false ∧ (updateCollisionButton1ms raw b).stablePressed = true ∧
        (updateCollisionButton1ms raw b).pressedEventCount = b.pressedEventCount + 1 ∧
        (updateCollisionButton1ms raw b).eventPending = true ∨
      ¬ (b.stablePressed = false ∧ (updateCollisionButton1ms raw b).stablePressed = true) ∧
        (updateCollisionButton1ms raw b).pressedEventCount = b.pressedEventCount ∧
        (updateCollisionButton1ms raw b).eventPending = b.eventPending := by
  have hsame (t : CollisionButton) (hstable : t.stablePressed = b.stablePressed) :
      ¬ (b.stablePressed = false ∧ t.stablePressed = true) := by
    rintro ⟨hreleased, hpressed⟩
    exact Bool.false_ne_true (hreleased.symm.trans (hstable.symm.trans hpressed))
  rw [updateCollisionButton1ms]
  split_ifs with hchange hroom hother
  · exact .inr ⟨hsame _ rfl, rfl, rfl⟩
  · exact .inr ⟨hsame _ rfl, rfl, rfl⟩
  · rw [setStablePressed]
    split_ifs with hpress
    · rw [hpress] at hother
      exact .inl ⟨(Bool.not_eq_true _).mp fun h => hother h.symm, hpress, rfl, rfl⟩
    · exact .inr ⟨fun h => hpress h.2, rfl, rfl⟩
  · exact .inr ⟨hsame _ rfl, rfl, rfl⟩

/-- **A press counts once and is flagged**; nothing else counts, and only the consumer takes a
    flag away. -/
theorem events_step (s : BodyControlState) (c : ControlCall) :
    (Presses s c → (controlStep s c).button.pressedEventCount = s.button.pressedEventCount + 1 ∧
      (controlStep s c).button.eventPending = true) ∧
    (¬ Presses s c →
      (controlStep s c).button.pressedEventCount = s.button.pressedEventCount ∧
      (c ≠ .consumeCollisionButtonPressedEvent →
        (controlStep s c).button.eventPending = s.button.eventPending)) := by
  have hbutton := button_step s c
  have hkept (hstable : (controlStep s c).button.stablePressed = s.button.stablePressed) :
      ¬ Presses s c := by
    rintro ⟨hreleased, hpressed⟩
    exact Bool.false_ne_true (hreleased.symm.trans (hstable.symm.trans hpressed))
  cases c with
  | update1ms inp =>
      rw [Presses, hbutton]
      obtain ⟨hreleased, hpressed, hcount, hflag⟩ | ⟨hno, hcount, hflag⟩ :=
        update_events inp.buttonHigh s.button
      · exact ⟨fun _ => ⟨hcount, hflag⟩, fun hno => absurd ⟨hreleased, hpressed⟩ hno⟩
      · exact ⟨fun hpresses => absurd hpresses hno, fun _ => ⟨hcount, fun _ => hflag⟩⟩
  | consumeCollisionButtonPressedEvent =>
      rw [hbutton] at hkept ⊢
      exact ⟨fun hpresses => absurd hpresses (hkept rfl), fun _ => ⟨rfl, fun h => absurd rfl h⟩⟩
  | _ =>
      rw [hbutton] at hkept ⊢
      exact ⟨fun hpresses => absurd hpresses (hkept rfl), fun _ => ⟨rfl, fun _ => rfl⟩⟩

/-- A flag stays until it is consumed. -/
theorem flag_step {s : BodyControlState} {c : ControlCall} (hs : s.button.eventPending = true)
    (hc : c ≠ .consumeCollisionButtonPressedEvent) :
    (controlStep s c).button.eventPending = true := by
  obtain ⟨hpress, hquiet⟩ := events_step s c
  by_cases hpresses : Presses s c
  · exact (hpress hpresses).2
  · rw [(hquiet hpresses).2 hc]
    exact hs

/-- **The collision switch is debounced.**  The stable state is the value of the most recent
    run of 22 equal samples, and the reading of `BodyControl_Init` as long as there is none.
    The event counter goes up by one at each change from released to pressed and at no other
    call.  The event that such a change flags is there for the consumer, however many other
    calls come first. -/
theorem switch_debounced (inp : BodyInputs) (cs : List ControlCall) :
    let s := controlRun inp cs
    (LastRun 22 (samples cs) s.button.stablePressed ∨
      NoRun 22 (samples cs) ∧ s.button.stablePressed = inp.buttonHigh) ∧
    ∀ c, let t := controlRun inp (cs ++ [c])
      (Presses s c → t.button.pressedEventCount = s.button.pressedEventCount + 1) ∧
      (¬ Presses s c → t.button.pressedEventCount = s.button.pressedEventCount) ∧
      (Presses s c → ∀ es, (∀ e ∈ es, e ≠ .consumeCollisionButtonPressedEvent) →
        (consumeCollisionButtonPressedEvent (controlRun inp (cs ++ [c] ++ es))).1 = true) := by
  refine ⟨?_, ?_⟩
  · have hfilter : filterOf (controlRun inp cs).button = _ := filterOf_run (init inp) cs
    have hstart : filterOf (init inp).button = Debouncer.start inp.buttonHigh := rfl
    have hfiltered := filtered_run collisionButtonDebounceMs inp.buttonHigh (samples cs)
    rw [← hstart, ← hfilter] at hfiltered
    exact hfiltered.stands
  · intro c
    have hsnoc : controlRun inp (cs ++ [c]) = controlStep (controlRun inp cs) c :=
      run_snoc controlStep (init inp) cs c
    obtain ⟨hpress, hquiet⟩ := events_step (controlRun inp cs) c
    refine ⟨?_, ?_, ?_⟩
    · intro hpresses
      rw [hsnoc]
      exact (hpress hpresses).1
    · intro hno
      rw [hsnoc]
      exact (hquiet hno).1
    · intro hpresses es hes
      have hflag :
          (run controlStep (controlRun inp (cs ++ [c])) es).button.eventPending = true := by
        refine run_guarded (fun s : BodyControlState => s.button.eventPending = true)
          (fun _ _ => flag_step) ?_ (allSteps_of_mem fun _ => hes)
        rw [hsnoc]
        exact (hpress hpresses).2
      rw [(button_consume _).2, controlRun, run_append]
      exact hflag

end ButtonDebounce
