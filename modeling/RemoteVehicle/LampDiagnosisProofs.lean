import RemoteVehicle.BodyLamps
import RemoteVehicle.BodySpec

/-!
# The lamp diagnosis finds the broken lamps and no others

A lamp is faulty when its command is on and its feedback stays low.  A healthy turn signal
shows exactly that for half of every period, so the diagnosis waits longer than a half period,
and commands restart the half period all the time.

`quiet_step` is the reason why no command pattern fakes a fault: a dark turn signal has been
low for at most one call more than its half period lasts, and every command that changes the
turn signals lights them.  `lowFor_step` is the reason why a blink phase does not reset the
timer of a lamp that is really dead: only feedback and `BodyControl_AllOff` do.
-/

namespace LampDiagnosis

open Runs BodyState BodyControl BodyCalls BodyLamps BodySpec

/-! ## One signal -/

theorem signal_seen {on feedback : Bool} {confirmMs lowMs : Nat}
    (h : on = false ∨ feedback = true) :
    updateDiagOneSignal on feedback confirmMs lowMs = (0, false) := if_pos h

/-- A signal that follows its command is never low. -/
theorem signal_follows (on : Bool) (confirmMs lowMs : Nat) :
    updateDiagOneSignal on on confirmMs lowMs = (0, false) := by
  cases on with
  | false => exact signal_seen (.inl rfl)
  | true => exact signal_seen (.inr rfl)

/-- A signal that is low counts up to its limit, and is at fault there. -/
theorem signal_low (confirmMs lowMs : Nat) :
    updateDiagOneSignal true false confirmMs lowMs =
      (if lowMs < confirmMs then lowMs + 1 else lowMs, decide (confirmMs ≤ lowMs + 1)) := by
  rw [updateDiagOneSignal, if_neg (by decide)]
  by_cases hlow : lowMs < confirmMs
  · simp only [if_pos hlow]
  · have hfull : confirmMs ≤ lowMs := by omega
    have hmore : confirmMs ≤ lowMs + 1 := by omega
    simp only [if_neg hlow, hfull, hmore]

/-! ## No false alarm -/

/-- The lamp is a turn signal. -/
def Side (l : Lamp) : Prop := l = .left ∨ l = .right

/-- Nothing latched, and no turn signal low for longer than its half period lasts. -/
structure Quiet (s : Lamps) : Prop where
  none_faulty : ∀ l, s.faulty l = false
  steady : ∀ l, ¬ Side l → s.lowMs l = 0
  dark : ∀ l, Side l → s.on l = true → s.blink.outputOn = false →
    s.lowMs l ≤ s.blink.timerMs + 1
  lit : ∀ l, Side l → s.on l = true → s.blink.outputOn = true → 1 ≤ s.blink.timerMs →
    s.lowMs l = 0

/-- The feedback of a tick is the level at which the lamps are driven. -/
def HealthyOp (s : Lamps) : LampOp → Prop
  | .tick f => ∀ l, feedbackOn f l = (s.step (.tick f)).driven l
  | _ => True

theorem driven_steady (s : Lamps) {l : Lamp} (hl : ¬ Side l) : s.driven l = s.on l := by
  cases l with
  | brake => rfl
  | head => rfl
  | left => exact absurd (.inl rfl) hl
  | right => exact absurd (.inr rfl) hl

theorem driven_side (s : Lamps) {l : Lamp} (hl : Side l) :
    s.driven l = (s.on l && s.blink.outputOn) := by
  obtain rfl | rfl := hl
  · rfl
  · rfl

theorem confirmMs_side {l : Lamp} (hl : Side l) : confirmMs l = diagBlinkConfirmMs := by
  obtain rfl | rfl := hl
  · rfl
  · rfl

/-- The blink phase of a tick, while a turn signal is on. -/
theorem blinkTick_on {on : Lamp → Bool} {l : Lamp} (hl : Side l) (hon : on l = true) (b : Blink) :
    blinkTick on b = if blinkHalfPeriodMs ≤ b.timerMs + 1 then ⟨!b.outputOn, 0⟩
      else ⟨b.outputOn, b.timerMs + 1⟩ := by
  refine if_neg ?_
  rintro ⟨hleft, hright⟩
  obtain rfl | rfl := hl
  · exact absurd hon (by rw [hleft]; decide)
  · exact absurd hon (by rw [hright]; decide)

theorem blinkTick_phase (on : Lamp → Bool) (b : Blink) :
    (blinkTick on b).timerMs < blinkHalfPeriodMs := by
  rw [blinkTick]
  split_ifs with hoff hfull
  · exact Nat.zero_lt_succ _
  · exact Nat.zero_lt_succ _
  · exact Nat.lt_of_not_le hfull

/-- **A healthy tick**: a turn signal that is dark has been low for as long as the half period
    lasts, and for one call more. -/
theorem quiet_side {s : Lamps} (hs : Quiet s) {f : LampFeedback} (hf : HealthyOp s (.tick f))
    {l : Lamp} (hl : Side l) :
    ((s.step (.tick f)).lowMs l = 0 ∨
      (blinkTick s.on s.blink).outputOn = false ∧
        (s.step (.tick f)).lowMs l ≤ (blinkTick s.on s.blink).timerMs + 1) ∧
      (s.step (.tick f)).faulty l = false := by
  have hfaulty := hs.none_faulty l
  have hread : feedbackOn f l = (s.on l && (blinkTick s.on s.blink).outputOn) :=
    (hf l).trans (driven_side _ hl)
  simp only [Lamps.step, hfaulty, Bool.false_or]
  cases hon : s.on l with
  | false =>
      rw [signal_seen (.inl rfl)]
      exact ⟨.inl rfl, rfl⟩
  | true =>
      cases hout : (blinkTick s.on s.blink).outputOn with
      | true =>
          rw [hread, hon, hout]
          exact ⟨.inl (congrArg Prod.fst (signal_follows ..)),
            congrArg Prod.snd (signal_follows ..)⟩
      | false =>
          rw [hread, hon, hout, confirmMs_side hl, Bool.and_false, signal_low]
          -- A half period starts dark from a lit one, whose calls had feedback.
          have hlow : s.lowMs l ≤ (blinkTick s.on s.blink).timerMs := by
            rw [blinkTick_on hl hon] at hout ⊢
            split_ifs at hout ⊢ with hfull
            · have hlit : s.blink.outputOn = true := by simpa using hout
              have hone : 1 ≤ s.blink.timerMs := by rw [blinkHalfPeriodMs] at hfull; omega
              exact (hs.lit l hl hon hlit hone).le
            · exact hs.dark l hl hon hout
          have hnew := blinkTick_phase s.on s.blink
          rw [blinkHalfPeriodMs] at hnew
          rw [diagBlinkConfirmMs, if_pos (by omega)]
          exact ⟨.inr ⟨rfl, by omega⟩, decide_eq_false (by omega)⟩

theorem quiet_tick {s : Lamps} (hs : Quiet s) {f : LampFeedback} (hf : HealthyOp s (.tick f)) :
    Quiet (s.step (.tick f)) := by
  have hsteady : ∀ l, ¬ Side l →
      updateDiagOneSignal (s.on l) (feedbackOn f l) (confirmMs l) (s.lowMs l) = (0, false) := by
    intro l hl
    have hread : feedbackOn f l = s.on l := (hf l).trans (driven_steady _ hl)
    rw [hread]
    exact signal_follows ..
  constructor
  · intro l
    by_cases hl : Side l
    · exact (quiet_side hs hf hl).2
    · simp only [Lamps.step, hsteady l hl, hs.none_faulty l, Bool.or_self]
  · intro l hl
    simp only [Lamps.step, hsteady l hl]
  · intro l hl _ _
    obtain hzero | ⟨_, hlow⟩ := (quiet_side hs hf hl).1
    · rw [hzero]
      exact Nat.zero_le _
    · exact hlow
  · intro l hl _ hlit _
    obtain hzero | ⟨hdark, _⟩ := (quiet_side hs hf hl).1
    · exact hzero
    · exact absurd (hlit.symm.trans hdark) (by decide)

/-- What leaves the turn signals, the timers and the faults as they were keeps the quiet. -/
theorem Quiet.congr {s t : Lamps} (hs : Quiet s) (hon : ∀ l, Side l → t.on l = s.on l)
    (hblink : t.blink = s.blink) (hlow : t.lowMs = s.lowMs) (hfaulty : t.faulty = s.faulty) :
    Quiet t := by
  constructor
  · rw [hfaulty]
    exact hs.none_faulty
  · rw [hlow]
    exact hs.steady
  · intro l hl hl_on hdark
    rw [hon l hl] at hl_on
    rw [hblink] at hdark
    rw [hlow, hblink]
    exact hs.dark l hl hl_on hdark
  · intro l hl hl_on hlit hone
    rw [hon l hl] at hl_on
    rw [hblink] at hlit hone
    rw [hlow]
    exact hs.lit l hl hl_on hlit hone

/-- **No operation on healthy lamps fakes a fault.** -/
theorem quiet_step {s : Lamps} {op : LampOp} (hs : Quiet s) (hop : HealthyOp s op) :
    Quiet (s.step op) := by
  cases op with
  | head on =>
      refine hs.congr ?_ rfl rfl rfl
      rintro l (rfl | rfl)
      · rfl
      · rfl
  | brake on =>
      refine hs.congr ?_ rfl rfl rfl
      rintro l (rfl | rfl)
      · rfl
      · rfl
  | sides left right =>
      simp only [Lamps.step, blinkCommand]
      split_ifs with hoff hsame
      · obtain ⟨rfl, rfl⟩ := hoff
        refine ⟨hs.none_faulty, hs.steady, ?_, ?_⟩
        · rintro l (rfl | rfl) hon
          · exact absurd hon Bool.false_ne_true
          · exact absurd hon Bool.false_ne_true
        · rintro l (rfl | rfl) hon
          · exact absurd hon Bool.false_ne_true
          · exact absurd hon Bool.false_ne_true
      · obtain ⟨rfl, rfl⟩ := hsame
        refine hs.congr ?_ rfl rfl rfl
        rintro l (rfl | rfl)
        · rfl
        · rfl
      · refine ⟨hs.none_faulty, hs.steady, ?_, ?_⟩
        · intro l _ _ hdark
          exact absurd hdark.symm Bool.false_ne_true
        · intro l _ _ _ hone
          exact absurd hone (Nat.not_succ_le_zero 0)
  | allOff =>
      refine ⟨hs.none_faulty, fun _ _ => rfl, ?_, ?_⟩
      · intro l _ hon
        exact absurd hon Bool.false_ne_true
      · intro l _ hon
        exact absurd hon Bool.false_ne_true
  | clear =>
      refine ⟨fun _ => rfl, fun _ _ => rfl, ?_, ?_⟩
      · intro l _ _ _
        exact Nat.zero_le _
      · intro l _ _ _ _
        rfl
  | tick f => exact quiet_tick hs hop

/-! ## Healthy wiring -/

/-- Every feedback input shows the pin of its lamp. -/
def Healthy (inp : BodyInputs) : Prop :=
  ∀ p, inp.feedback p = ⟨p.brakeLamp, p.headlamp, p.leftTurn, p.rightTurn⟩

/-- Healthy wiring at a call. -/
def HealthyCall : ControlCall → Prop
  | .allOff inp => Healthy inp
  | .update1ms inp => Healthy inp
  | _ => True

theorem feedbackOn_healthy {inp : BodyInputs} (h : Healthy inp) (p : BodyPins) (l : Lamp) :
    feedbackOn (inp.feedback p) l = pinOn p l := by
  rw [h p]
  cases l <;> rfl

theorem quiet_init {inp : BodyInputs} (h : Healthy inp) : Quiet (lamps (init inp)) := by
  constructor
  · have hmask : (init inp).diag.faultMask = 0 := by
      have hnone : 0 ||| lampBits &&& ~~~ readDiagFeedbackMaskRaw ⟨true, true, true, true⟩ = 0 := by
        decide
      rw [init, runStartupSelfDiagnosis, h]
      exact hnone
    intro l
    rw [lamps, hmask]
    exact bitSet_zero l
  · intro l _
    cases l <;> rfl
  · intro l hl hon
    obtain rfl | rfl := hl
    · exact absurd hon Bool.false_ne_true
    · exact absurd hon Bool.false_ne_true
  · intro l hl hon
    obtain rfl | rfl := hl
    · exact absurd hon Bool.false_ne_true
    · exact absurd hon Bool.false_ne_true

/-- The lamp pins are applied and the lamps are quiet: no call ends this on healthy wiring. -/
theorem quiet_call {s : BodyControlState} {c : ControlCall} (hs : Applied s ∧ Quiet (lamps s))
    (hc : HealthyCall c) : Applied (controlStep s c) ∧ Quiet (lamps (controlStep s c)) := by
  obtain ⟨hpins, hquiet⟩ := hs
  refine ⟨applied_step s c hpins, ?_⟩
  have hops : AllSteps Lamps.step HealthyOp (lamps s) (lampOps s c) := by
    cases c with
    | update1ms inp =>
        refine ⟨?_, trivial⟩
        intro l
        rw [← pins_update inp hpins l]
        exact feedbackOn_healthy hc _ l
    | _ => first | exact trivial | exact ⟨trivial, trivial⟩
  rw [lamps_step]
  exact run_guarded Quiet (fun _ _ => quiet_step) hquiet hops

/-! ## No missed fault -/

/-- A call in the time in which a lamp lacks its feedback: an update finds the command on and
    the feedback low, and nothing resets the diagnosis. -/
def lowCall (l : Lamp) (s : BodyControlState) : ControlCall → Bool
  | .update1ms inp => commandOn s.requests l && !feedbackOn (readFeedback inp s) l
  | .allOff _ => false
  | .clearDiagFaults => false
  | _ => true

def LowCall (l : Lamp) (s : BodyControlState) (c : ControlCall) : Prop := lowCall l s c = true

instance (l : Lamp) (s : BodyControlState) (c : ControlCall) : Decidable (LowCall l s c) :=
  inferInstanceAs (Decidable (lowCall l s c = true))

/-- The timer of a lamp has counted `n` low calls, up to its limit. -/
def LowFor (l : Lamp) (n : Nat) (s : Lamps) : Prop :=
  min n (confirmMs l) ≤ s.lowMs l ∧ (confirmMs l ≤ n → s.faulty l = true)

theorem lowFor_tick {l : Lamp} {n : Nat} {s : Lamps} {f : LampFeedback} (hs : LowFor l n s)
    (hon : s.on l = true) (hlow : feedbackOn f l = false) :
    LowFor l (n + 1) (s.step (.tick f)) := by
  obtain ⟨hcount, -⟩ := hs
  simp only [LowFor, Lamps.step, hon, hlow, signal_low]
  constructor
  · split_ifs with hroom
    · omega
    · omega
  · intro hfull
    have hreached : confirmMs l ≤ s.lowMs l + 1 := by omega
    rw [decide_eq_true hreached, Bool.or_true]

/-- **A call counts**: no command and no blink phase resets the timer of a dead lamp. -/
theorem lowFor_step {l : Lamp} {n : Nat} {s : BodyControlState} {c : ControlCall}
    (hs : LowFor l n (lamps s)) (hc : LowCall l s c) :
    LowFor l (n + updates [c]) (lamps (controlStep s c)) := by
  rw [lamps_step]
  cases c with
  | update1ms inp =>
      obtain ⟨hon, hlow⟩ := (Bool.and_eq_true _ _).mp hc
      exact lowFor_tick hs hon ((Bool.not_eq_true' _).mp hlow)
  | allOff inp => exact absurd hc Bool.false_ne_true
  | clearDiagFaults => exact absurd hc Bool.false_ne_true
  | _ => exact hs

theorem lowFor_run {l : Lamp} {n : Nat} {s : BodyControlState} {fs : List ControlCall}
    (hs : LowFor l n (lamps s)) (hfs : AllSteps controlStep (LowCall l) s fs) :
    LowFor l (n + updates fs) (lamps (run controlStep s fs)) := by
  induction fs generalizing s n with
  | nil => exact hs
  | cons c fs ih =>
      obtain ⟨hc, hrest⟩ := hfs
      have hlow := ih (lowFor_step hs hc) hrest
      have hcount : n + updates [c] + updates fs = n + updates (c :: fs) := by
        rw [updates_cons c fs, Nat.add_assoc]
      rw [hcount] at hlow
      exact hlow

/-- A latched fault stays until `BodyControl_ClearDiagFaults`. -/
theorem faulty_step {l : Lamp} {s : BodyControlState} {c : ControlCall} (hs : Faulty s l)
    (hc : c ≠ .clearDiagFaults) : Faulty (controlStep s c) l := by
  have hkept : (lamps (controlStep s c)).faulty l = true := by
    rw [lamps_step]
    cases c with
    | clearDiagFaults => exact absurd rfl hc
    | update1ms inp =>
        have hlatched : (lamps s).faulty l = true := hs
        simp only [lampOps, run_cons, run_nil, Lamps.step, hlatched, Bool.true_or]
    | _ => exact hs
  exact hkept

/-- **The lamp diagnosis is sound and complete.**  As long as every feedback shows its pin,
    whatever is commanded, no fault is latched.  A lamp whose command is on and whose feedback
    is low at as many updates as its limit says is faulty, and remains so until its fault is
    cleared. -/
theorem lamp_diagnosis (inp : BodyInputs) (es : List ControlCall) :
    (Healthy inp → (∀ c ∈ es, HealthyCall c) → ∀ l, ¬ Faulty (controlRun inp es) l) ∧
      ∀ l fs gs, AllSteps controlStep (LowCall l) (controlRun inp es) fs →
        confirmMs l ≤ updates fs → (∀ c ∈ gs, c ≠ .clearDiagFaults) →
        Faulty (controlRun inp (es ++ fs ++ gs)) l := by
  constructor
  · intro hinp hes l hfaulty
    have hrun : Applied (controlRun inp es) ∧ Quiet (lamps (controlRun inp es)) :=
      run_guarded (fun s => Applied s ∧ Quiet (lamps s)) (fun _ _ => quiet_call)
        ⟨applied_init inp, quiet_init hinp⟩ (allSteps_of_mem fun _ => hes)
    exact absurd (hfaulty.symm.trans (hrun.2.none_faulty l)) (by decide)
  · intro l fs gs hfs hlong hgs
    have hstart : LowFor l 0 (lamps (controlRun inp es)) := by
      constructor
      · rw [Nat.zero_min]
        exact Nat.zero_le _
      · intro hlimit
        cases l <;> exact absurd hlimit (by decide)
    have hlow := lowFor_run hstart hfs
    rw [Nat.zero_add] at hlow
    have hlatched : Faulty (run controlStep (controlRun inp es) fs) l := hlow.2 hlong
    rw [controlRun, run_append, run_append]
    exact run_guarded (Faulty · l) (fun _ _ => faulty_step) hlatched (allSteps_of_mem fun _ => hgs)

/-- No lamp shows any feedback. -/
def unplugged : BodyInputs :=
  { restBodyInputs with feedback := fun _ => ⟨false, false, false, false⟩ }

/-- Hazard lights with healthy wiring are no fault; a headlamp that stays dark is one after
    100 updates, and still after all is switched off. -/
theorem headlamp_unplugged :
    ¬ Faulty (controlRun restBodyInputs [.setTurnSignal 3, .update1ms restBodyInputs]) .left ∧
      Faulty (controlRun restBodyInputs ([.setHeadlamp true] ++
        List.replicate 100 (.update1ms unplugged) ++ [.allOff restBodyInputs])) .head := by
  have hhealthy : ∀ c ∈ [ControlCall.setTurnSignal 3, .update1ms restBodyInputs],
      HealthyCall c := by
    intro c hc
    obtain rfl | hc := List.mem_cons.mp hc
    · trivial
    · rw [List.mem_singleton.mp hc]
      exact fun _ => rfl
  have hkept : ∀ c ∈ [ControlCall.allOff restBodyInputs], c ≠ .clearDiagFaults := by
    intro c hc
    rw [List.mem_singleton.mp hc]
    exact ControlCall.noConfusion
  have hlow : AllSteps controlStep (LowCall .head)
      (controlRun restBodyInputs [.setHeadlamp true])
      (List.replicate 100 (.update1ms unplugged)) := by
    decide +kernel
  exact ⟨(lamp_diagnosis restBodyInputs _).1 (fun _ => rfl) hhealthy .left,
    (lamp_diagnosis restBodyInputs [.setHeadlamp true]).2 .head _ _ hlow (by decide +kernel) hkept⟩

end LampDiagnosis
