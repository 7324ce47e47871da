import RemoteVehicle.BodyCalls

/-!
# The lamps of BODY — commands, blinking and diagnosis

Four lamps, each with a command, a pin, a feedback input, a timer of low feedback and a fault
bit.  `Lamps` is what `BodyControl.c` keeps about them, apart from the pins, and `LampOp` what
a call means for them; `lamps_step` says that each call does what it means.

The pins need no place in `Lamps`: between two calls they are what `BodyControl_ApplyOutputs`
would write (`applied_run`).
-/

namespace BodyLamps

open Runs BodyState BodyControl BodyCalls

/-! ## Lamps -/

inductive Lamp where
  | brake
  | head
  | left
  | right
deriving DecidableEq, Repr

/-- The command flag of a lamp. -/
def commandOn (r : Requests) : Lamp → Bool
  | .brake => r.brakeLampOn
  | .head => r.headlampOn
  | .left => r.leftTurnEnabled
  | .right => r.rightTurnEnabled

/-- The pin of a lamp. -/
def pinOn (p : BodyPins) : Lamp → Bool
  | .brake => p.brakeLamp
  | .head => p.headlamp
  | .left => p.leftTurn
  | .right => p.rightTurn

/-- The feedback input of a lamp. -/
def feedbackOn (f : LampFeedback) : Lamp → Bool
  | .brake => f.brake
  | .head => f.head
  | .left => f.left
  | .right => f.right

/-- `BODY_DIAG_*_BIT`. -/
def faultBit : Lamp → UInt8
  | .brake => diagBrakeLampBit
  | .head => diagHeadlampBit
  | .left => diagLeftTurnBit
  | .right => diagRightTurnBit

/-- How long a lamp may lack its feedback. -/
def confirmMs : Lamp → Nat
  | .brake => diagSteadyConfirmMs
  | .head => diagSteadyConfirmMs
  | .left => diagBlinkConfirmMs
  | .right => diagBlinkConfirmMs

/-- `g_diag*LowTimerMs`. -/
def lowTimerMs (d : LampDiag) : Lamp → Nat
  | .brake => d.brakeLowTimerMs
  | .head => d.headLowTimerMs
  | .left => d.leftLowTimerMs
  | .right => d.rightLowTimerMs

/-- The fault bit of a lamp is set. -/
def bitSet (mask : UInt8) (l : Lamp) : Bool := mask &&& faultBit l != 0

/-- The lamp has its fault latched. -/
def Faulty (s : BodyControlState) (l : Lamp) : Prop := bitSet s.diag.faultMask l = true

/-- Every lamp bit is a bit of `lampBits`. -/
theorem bitSet_lampBits (mask : UInt8) (l : Lamp) :
    bitSet (mask &&& lampBits) l = bitSet mask l := by
  have hbit : lampBits &&& faultBit l = faultBit l := by cases l <;> rfl
  rw [bitSet, bitSet, UInt8.and_assoc, hbit]

theorem bitSet_zero (l : Lamp) : bitSet 0 l = false := by cases l <;> rfl

theorem bitSet_or (mask more : UInt8) (l : Lamp) :
    bitSet (mask ||| more) l = (bitSet mask l || bitSet more l) := by
  have hdistrib : (mask ||| more) &&& faultBit l = mask &&& faultBit l ||| more &&& faultBit l := by
    rw [← UInt8.toBitVec_inj]
    exact BitVec.and_or_distrib_right
  rw [bitSet, bitSet, bitSet, hdistrib, Bool.eq_iff_iff]
  simp only [bne_iff_ne, ne_eq, UInt8.or_eq_zero_iff, Bool.or_eq_true, not_and_or]

/-! ## What the code keeps about the lamps -/

@[ext] structure Lamps where
  on : Lamp → Bool
  blink : Blink
  lowMs : Lamp → Nat
  faulty : Lamp → Bool

def lamps (s : BodyControlState) : Lamps where
  on := commandOn s.requests
  blink := s.blink
  lowMs := lowTimerMs s.diag
  faulty := bitSet s.diag.faultMask

/-- What a call means for the lamps. -/
inductive LampOp where
  | head (on : Bool)
  | brake (on : Bool)
  | sides (left right : Bool)
  | allOff
  | clear
  | tick (f : LampFeedback)

/-- A pair of turn signals, and the other lamps as they were. -/
def withSides (on : Lamp → Bool) (left right : Bool) : Lamp → Bool
  | .left => left
  | .right => right
  | l => on l

/-- The blink phase one tick later. -/
def blinkTick (on : Lamp → Bool) (b : Blink) : Blink :=
  if on .left = false ∧ on .right = false then ⟨false, 0⟩
  else if blinkHalfPeriodMs ≤ b.timerMs + 1 then ⟨!b.outputOn, 0⟩
  else ⟨b.outputOn, b.timerMs + 1⟩

/-- The blink phase after a command for the turn signals. -/
def blinkCommand (on : Lamp → Bool) (left right : Bool) (b : Blink) : Blink :=
  if left = false ∧ right = false then ⟨false, 0⟩
  else if on .left = left ∧ on .right = right then b
  else ⟨true, 0⟩

def Lamps.step (s : Lamps) : LampOp → Lamps
  | .head on => { s with on := fun l => if l = .head then on else s.on l }
  | .brake on => { s with on := fun l => if l = .brake then on else s.on l }
  | .sides left right =>
      { s with on := withSides s.on left right, blink := blinkCommand s.on left right s.blink }
  | .allOff => { s with on := fun _ => false, blink := ⟨false, 0⟩, lowMs := fun _ => 0 }
  | .clear => { s with lowMs := fun _ => 0, faulty := fun _ => false }
  | .tick f =>
      { s with
        blink := blinkTick s.on s.blink
        lowMs := fun l =>
          (updateDiagOneSignal (s.on l) (feedbackOn f l) (confirmMs l) (s.lowMs l)).1
        faulty := fun l => s.faulty l ||
          (updateDiagOneSignal (s.on l) (feedbackOn f l) (confirmMs l) (s.lowMs l)).2 }

/-! ## The diagnosis of one tick -/

/-- The feedback that a 1 ms update reads. -/
def readFeedback (inp : BodyInputs) (s : BodyControlState) : LampFeedback :=
  inp.feedback (updateBlink (beforeBlink inp s)).pins

theorem lowTimerMs_diagnose (r : Requests) (f : LampFeedback) (d : LampDiag) (l : Lamp) :
    lowTimerMs (diagnoseLamps r f d) l =
      (updateDiagOneSignal (commandOn r l) (feedbackOn f l) (confirmMs l) (lowTimerMs d l)).1 := by
  cases l <;> rfl

/-- A bit that is set or not is the bit of its own lamp only. -/
theorem bitSet_ite (b : Bool) (own l : Lamp) :
    bitSet (if b then faultBit own else 0) l = (b && decide (own = l)) := by
  cases b <;> cases own <;> cases l <;> rfl

/-- A diagnosis latches the fault of a lamp by the result of that lamp. -/
theorem bitSet_diagnose (r : Requests) (f : LampFeedback) (d : LampDiag) (l : Lamp) :
    bitSet (diagnoseLamps r f d).faultMask l = (bitSet d.faultMask l ||
      (updateDiagOneSignal (commandOn r l) (feedbackOn f l) (confirmMs l) (lowTimerMs d l)).2) := by
  have hbits (b h x y : Bool) : bitSet (d.faultMask ||| (if b then diagBrakeLampBit else 0) |||
      (if h then diagHeadlampBit else 0) ||| (if x then diagLeftTurnBit else 0) |||
      (if y then diagRightTurnBit else 0)) l = (bitSet d.faultMask l ||
        (b && decide (Lamp.brake = l) || h && decide (Lamp.head = l) ||
          x && decide (Lamp.left = l) || y && decide (Lamp.right = l))) := by
    have hbrake : bitSet (if b then diagBrakeLampBit else 0) l = _ := bitSet_ite b .brake l
    have hhead : bitSet (if h then diagHeadlampBit else 0) l = _ := bitSet_ite h .head l
    have hleft : bitSet (if x then diagLeftTurnBit else 0) l = _ := bitSet_ite x .left l
    have hright : bitSet (if y then diagRightTurnBit else 0) l = _ := bitSet_ite y .right l
    rw [bitSet_or, bitSet_or, bitSet_or, bitSet_or, hbrake, hhead, hleft, hright]
    simp only [Bool.or_assoc]
  rw [diagnoseLamps, hbits]
  cases l with
  | brake => simp [commandOn, feedbackOn, confirmMs, lowTimerMs]
  | head => simp [commandOn, feedbackOn, confirmMs, lowTimerMs]
  | left => simp [commandOn, feedbackOn, confirmMs, lowTimerMs]
  | right => simp [commandOn, feedbackOn, confirmMs, lowTimerMs]

/-! ## Every call does what it means -/

/-- What a call means for the lamps, in the state it is made in. -/
def lampOps (s : BodyControlState) : ControlCall → List LampOp
  | .setHeadlamp on => [.head on]
  | .setBrakeLamp on => [.brake on]
  | .setLeftTurn on => [.sides on s.requests.rightTurnEnabled]
  | .setRightTurn on => [.sides s.requests.leftTurnEnabled on]
  | .setTurnSignal m =>
      [.sides (m == turnLeft || m == turnHazard) (m == turnRight || m == turnHazard)]
  | .allOff _ => [.allOff]
  | .clearDiagFaults => [.clear]
  | .update1ms inp => [.tick (readFeedback inp s)]
  | _ => []

/-- A state with the same requests, blink phase and diagnosis has the same lamps. -/
theorem lamps_congr {s t : BodyControlState} (hon : commandOn t.requests = commandOn s.requests)
    (hblink : t.blink = s.blink) (hlow : lowTimerMs t.diag = lowTimerMs s.diag)
    (hmask : t.diag.faultMask &&& lampBits = s.diag.faultMask &&& lampBits) :
    lamps t = lamps s := by
  have hfaulty : bitSet t.diag.faultMask = bitSet s.diag.faultMask := by
    ext l
    rw [← bitSet_lampBits, hmask, bitSet_lampBits]
  rw [lamps, lamps, hon, hblink, hlow, hfaulty]

/-- The lamps and their pins are as they were. -/
structure LampsKept (s t : BodyControlState) : Prop where
  lamps : lamps t = lamps s
  pins : pinOn t.pins = pinOn s.pins

/-- The first part of the update leaves them alone. -/
theorem kept_beforeBlink (inp : BodyInputs) (s : BodyControlState) :
    LampsKept s (beforeBlink inp s) := by
  obtain ⟨u, w, horn, dtc, danger, mask, buzzer, led, stm, hbefore, hmask⟩ :=
    beforeBlink_writes inp s
  rw [hbefore]
  refine ⟨lamps_congr rfl rfl ?_ hmask, ?_⟩
  · ext l
    cases l <;> rfl
  · ext l
    cases l <;> rfl

/-- The calls that have nothing to do with the lamps. -/
def sparesLamps : ControlCall → Bool
  | .setCollisionWarningLamp _ => true
  | .setHorn _ => true
  | .consumeCollisionButtonPressedEvent => true
  | .clearDtcHistory => true
  | .runBuzzerDiagnosticRoutine => true
  | .runUltrasonicDiagnosticRoutine _ => true
  | .wait _ => true
  | _ => false

/-- **They leave the lamps and their pins alone.** -/
theorem kept_of_spares (s : BodyControlState) {c : ControlCall} (hc : sparesLamps c = true) :
    LampsKept s (controlStep s c) := by
  have hother (t : BodyControlState) (hon : commandOn t.requests = commandOn s.requests)
      (hpins : pinOn t.pins = pinOn s.pins) (hblink : t.blink = s.blink)
      (hlow : lowTimerMs t.diag = lowTimerMs s.diag)
      (hmask : t.diag.faultMask &&& lampBits = s.diag.faultMask &&& lampBits) : LampsKept s t :=
    ⟨lamps_congr hon hblink hlow hmask, hpins⟩
  cases c with
  | setCollisionWarningLamp on =>
      obtain ⟨u, w, buzzer, hset⟩ := setWarningLamp_writes s on
      rw [controlStep, hset]
      refine hother _ ?_ ?_ rfl rfl rfl
      · ext l
        cases l <;> rfl
      · ext l
        cases l <;> rfl
  | setHorn on =>
      obtain ⟨horn, buzzer, hset⟩ := setHorn_writes s on
      rw [controlStep, hset]
      refine hother _ ?_ ?_ rfl rfl rfl
      · ext l
        cases l <;> rfl
      · ext l
        cases l <;> rfl
  | consumeCollisionButtonPressedEvent =>
      rw [controlStep, consumeCollisionButtonPressedEvent]
      split_ifs
      · exact ⟨rfl, rfl⟩
      · exact ⟨rfl, rfl⟩
  | clearDtcHistory =>
      obtain ⟨dtc, danger, mask, led, hclear, hmask⟩ := clearDtc_writes s
      rw [controlStep, hclear]
      refine hother _ rfl ?_ rfl ?_ hmask
      · ext l
        cases l <;> rfl
      · ext l
        cases l <;> rfl
  | runBuzzerDiagnosticRoutine =>
      obtain ⟨on, us, hrun⟩ := runBuzzer_writes s
      rw [controlStep, hrun]
      refine hother _ rfl ?_ rfl rfl rfl
      ext l
      cases l <;> rfl
  | runUltrasonicDiagnosticRoutine echo =>
      obtain ⟨cm, valid, mask, led, stm, hrun, hmask⟩ := runUltrasonic_writes s echo
      rw [controlStep, hrun]
      refine hother _ rfl ?_ rfl ?_ hmask
      · ext l
        cases l <;> rfl
      · ext l
        cases l <;> rfl
  | wait us => exact ⟨rfl, rfl⟩
  | _ => exact absurd hc Bool.false_ne_true

theorem blinkAfterRequest_eq (r : Requests) (left right : Bool) (b : Blink) :
    blinkAfterRequest r left right b = blinkCommand (commandOn r) left right b := by
  obtain ⟨_, _, oldLeft, oldRight, _, _⟩ := r
  cases left <;> cases right <;> cases oldLeft <;> cases oldRight <;> rfl

theorem lamps_setBlinkRequest (left right : Bool) (s : BodyControlState) :
    lamps (setBlinkRequest left right s) = (lamps s).step (.sides left right) := by
  have hon : commandOn (setBlinkRequest left right s).requests =
      withSides (commandOn s.requests) left right := by
    ext l
    cases l <;> rfl
  exact Lamps.ext hon (blinkAfterRequest_eq ..) rfl rfl

/-- The blinking and the diagnosis are one tick of the lamps. -/
theorem lamps_diagnosis (inp : BodyInputs) (s : BodyControlState) :
    lamps (updateDiagnosis1ms inp (updateBlink s)) =
      (lamps s).step (.tick (inp.feedback (updateBlink s).pins)) := by
  have hrequests : (updateBlink s).requests = s.requests := by
    rw [updateBlink]
    split_ifs <;> rfl
  have hdiag : (updateBlink s).diag = s.diag := by
    rw [updateBlink]
    split_ifs <;> rfl
  have hblink : (updateBlink s).blink = blinkTick (commandOn s.requests) s.blink := by
    rw [updateBlink, blinkTick]
    by_cases hoff : s.requests.leftTurnEnabled = false ∧ s.requests.rightTurnEnabled = false
    · rw [if_pos hoff]
      exact (if_pos hoff).symm
    · rw [if_neg hoff]
      refine Eq.trans ?_ (if_neg hoff).symm
      split_ifs <;> rfl
  have hdiagnose : (updateDiagnosis1ms inp (updateBlink s)).diag =
      diagnoseLamps s.requests (inp.feedback (updateBlink s).pins) s.diag := by
    rw [← hrequests, ← hdiag]
    rfl
  refine Lamps.ext ?_ hblink ?_ ?_
  · exact congrArg commandOn hrequests
  · ext l
    exact (congrArg (lowTimerMs · l) hdiagnose).trans (lowTimerMs_diagnose ..)
  · ext l
    exact (congrArg (fun d => bitSet d.faultMask l) hdiagnose).trans (bitSet_diagnose ..)

/-- **Every call does to the lamps what it means.** -/
theorem lamps_step (s : BodyControlState) (c : ControlCall) :
    lamps (controlStep s c) = run Lamps.step (lamps s) (lampOps s c) := by
  cases c with
  | setHeadlamp on =>
      refine Lamps.ext ?_ rfl rfl rfl
      ext l
      cases l <;> rfl
  | setBrakeLamp on =>
      refine Lamps.ext ?_ rfl rfl rfl
      ext l
      cases l <;> rfl
  | setLeftTurn on => exact lamps_setBlinkRequest on s.requests.rightTurnEnabled s
  | setRightTurn on => exact lamps_setBlinkRequest s.requests.leftTurnEnabled on s
  | setTurnSignal m =>
      have hmode : setTurnSignal m s = setBlinkRequest (m == turnLeft || m == turnHazard)
          (m == turnRight || m == turnHazard) s := by
        rw [setTurnSignal]
        split_ifs with hleft hright hhazard
        · rw [hleft]; rfl
        · rw [hright]; rfl
        · rw [hhazard]; rfl
        · simp only [beq_eq_false_iff_ne.mpr hleft, beq_eq_false_iff_ne.mpr hright,
            beq_eq_false_iff_ne.mpr hhazard, Bool.or_self]
      exact (congrArg lamps hmode).trans (lamps_setBlinkRequest ..)
  | setCollisionWarningLamp on => exact (kept_of_spares s rfl).lamps
  | setHorn on => exact (kept_of_spares s rfl).lamps
  | consumeCollisionButtonPressedEvent => exact (kept_of_spares s rfl).lamps
  | allOff inp =>
      refine Lamps.ext ?_ rfl ?_ rfl
      · ext l
        cases l <;> rfl
      · ext l
        cases l <;> rfl
  | clearDiagFaults =>
      refine Lamps.ext rfl rfl ?_ ?_
      · ext l
        cases l <;> rfl
      · ext l
        exact bitSet_zero l
  | clearDtcHistory => exact (kept_of_spares s rfl).lamps
  | runBuzzerDiagnosticRoutine => exact (kept_of_spares s rfl).lamps
  | runLedDiagnosticRoutine => rfl
  | runUltrasonicDiagnosticRoutine echo => exact (kept_of_spares s rfl).lamps
  | wait us => exact (kept_of_spares s rfl).lamps
  | update1ms inp =>
      have htick := lamps_diagnosis inp (beforeBlink inp s)
      rw [(kept_beforeBlink inp s).lamps] at htick
      exact htick

/-! ## The pins -/

/-- The level at which a lamp is driven: a turn signal blinks. -/
def Lamps.driven (s : Lamps) : Lamp → Bool
  | .brake => s.on .brake
  | .head => s.on .head
  | .left => s.on .left && s.blink.outputOn
  | .right => s.on .right && s.blink.outputOn

/-- The lamp pins are what `BodyControl_ApplyOutputs` would write. -/
def Applied (s : BodyControlState) : Prop := ∀ l, pinOn s.pins l = (lamps s).driven l

theorem applied_applyOutputs (s : BodyControlState) : Applied (applyOutputs s) := by
  intro l
  cases l <;> rfl

theorem applied_init (inp : BodyInputs) : Applied (init inp) := applied_applyOutputs _

theorem applied_updateBlink {s : BodyControlState} (hs : Applied s) : Applied (updateBlink s) := by
  rw [updateBlink]
  split_ifs
  · exact applied_applyOutputs _
  · exact applied_applyOutputs _
  · intro l
    cases l with
    | brake => exact hs .brake
    | head => exact hs .head
    | left => exact hs .left
    | right => exact hs .right

/-- What keeps the lamp pins and what drives them keeps them applied. -/
theorem applied_congr {s t : BodyControlState} (hpins : pinOn t.pins = pinOn s.pins)
    (hon : commandOn t.requests = commandOn s.requests) (hblink : t.blink = s.blink)
    (hs : Applied s) : Applied t := by
  intro l
  have hdriven : (lamps t).driven l = (lamps s).driven l := by
    cases l <;> simp only [Lamps.driven, lamps, hon, hblink]
  rw [hpins, hdriven]
  exact hs l

theorem applied_kept {s t : BodyControlState} (h : LampsKept s t) (hs : Applied s) :
    Applied t :=
  applied_congr h.pins (congrArg Lamps.on h.lamps) (congrArg Lamps.blink h.lamps) hs

theorem applied_step (s : BodyControlState) (c : ControlCall) (hs : Applied s) :
    Applied (controlStep s c) := by
  cases c with
  | setHeadlamp on => exact applied_applyOutputs _
  | setBrakeLamp on => exact applied_applyOutputs _
  | setLeftTurn on => exact applied_applyOutputs _
  | setRightTurn on => exact applied_applyOutputs _
  | setTurnSignal m =>
      simp only [controlStep, setTurnSignal]
      split_ifs <;> exact applied_applyOutputs _
  | setCollisionWarningLamp on => exact applied_kept (kept_of_spares s rfl) hs
  | setHorn on => exact applied_kept (kept_of_spares s rfl) hs
  | consumeCollisionButtonPressedEvent => exact applied_kept (kept_of_spares s rfl) hs
  | allOff inp => exact applied_applyOutputs _
  | clearDiagFaults =>
      refine applied_congr ?_ rfl rfl hs
      ext l
      cases l <;> rfl
  | clearDtcHistory => exact applied_kept (kept_of_spares s rfl) hs
  | runBuzzerDiagnosticRoutine => exact applied_kept (kept_of_spares s rfl) hs
  | runLedDiagnosticRoutine => exact applied_applyOutputs _
  | runUltrasonicDiagnosticRoutine echo => exact applied_kept (kept_of_spares s rfl) hs
  | wait us => exact applied_kept (kept_of_spares s rfl) hs
  | update1ms inp =>
      have hblink := applied_updateBlink (applied_kept (kept_beforeBlink inp s) hs)
      rw [controlStep, update1ms_eq]
      refine applied_congr ?_ rfl rfl hblink
      ext l
      cases l <;> rfl

/-- The pins that an update reads the feedback at are those it leaves. -/
theorem pins_update (inp : BodyInputs) {s : BodyControlState} (hs : Applied s) (l : Lamp) :
    pinOn (updateBlink (beforeBlink inp s)).pins l =
      ((lamps s).step (.tick (readFeedback inp s))).driven l := by
  have hpins : pinOn (controlStep s (.update1ms inp)).pins l =
      pinOn (updateBlink (beforeBlink inp s)).pins l := by
    cases l <;> rfl
  rw [← hpins, applied_step s (.update1ms inp) hs l, lamps_step]
  rfl

end BodyLamps
