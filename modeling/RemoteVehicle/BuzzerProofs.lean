import RemoteVehicle.BodyWarning

/-!
# The buzzer between horn and warning

One pin, two tones.  The horn has it first; the warning has it while its beep is on.

The beep of a level is a function of how long the level has been sounding: `beepActive level n`
at the `n`-th update without the horn since the level was entered.  `Beeping n` is what the
sound keeps for this; `beeping_call` is one call of it.
-/

namespace Buzzer

open Runs BodyState BodyControl BodyCalls BodyWarning

/-! ## The beep pattern -/

/-- The period of a beep. -/
def beepPeriodMs (level : Fin 4) : Nat := if level = 2 then 250 else 500

/-- The beep of a level at the `n`-th tick: 120 ms of every period, and all the time at the
    highest level. -/
def beepActive (level : Fin 4) (n : Nat) : Bool :=
  level == 3 || (level != 0 && decide (n % beepPeriodMs level < 120))

example (n : Nat) : beepActive 1 n = decide (n % 500 < 120) ∧
    beepActive 2 n = decide (n % 250 < 120) := ⟨rfl, rfl⟩

/-- The sound after `n` ticks of its level. -/
structure Beeping (n : Nat) (w : WarningSound) : Prop where
  last : w.lastLevel = w.level
  le_period : w.level ≠ 3 → w.patternTimerMs ≤ beepPeriodMs w.level
  pattern : w.level ≠ 3 → w.level ≠ 0 →
    w.patternTimerMs % beepPeriodMs w.level = n % beepPeriodMs w.level

theorem beeping_reset (n : Nat) : Beeping n resetCollisionWarningSound :=
  ⟨rfl, fun _ => Nat.zero_le _, fun _ h => absurd rfl h⟩

theorem beepPeriod_pos (level : Fin 4) : 0 < beepPeriodMs level := by
  rw [beepPeriodMs]
  split_ifs <;> decide

/-- The time in the period, when the timer may have run to its end. -/
theorem wrapped_eq {timer period n : Nat} (hle : timer ≤ period)
    (hmod : timer % period = n % period) :
    (if period ≤ timer then 0 else timer) = n % period := by
  split_ifs with hend
  · have hfull : timer = period := Nat.le_antisymm hle hend
    rw [← hmod, hfull, Nat.mod_self]
  · rw [← hmod, Nat.mod_eq_of_lt (Nat.not_le.mp hend)]

/-- **Whether the beep is on**, and the timer that is left. -/
theorem isActive_eq {n : Nat} {w : WarningSound} (hw : Beeping n w) (hlevel : w.level ≠ 0) :
    isCollisionWarningBeepActive w = (beepActive w.level n,
      if w.level = 3 then w else { w with patternTimerMs := n % beepPeriodMs w.level }) := by
  by_cases htop : w.level = 3
  · have hall : isCollisionWarningBeepActive w = (true, w) := (if_neg hlevel).trans (if_pos htop)
    have hactive : beepActive w.level n = true := by
      rw [htop]
      rfl
    rw [hall, if_pos htop, hactive]
  · have hwrap := wrapped_eq (hw.le_period htop) (hw.pattern htop hlevel)
    have htable : isCollisionWarningBeepActive w =
        (decide ((if beepPeriodMs w.level ≤ w.patternTimerMs then 0 else w.patternTimerMs) < 120),
          { w with patternTimerMs :=
              if beepPeriodMs w.level ≤ w.patternTimerMs then 0 else w.patternTimerMs }) :=
      (if_neg hlevel).trans (if_neg htop)
    have hactive : beepActive w.level n = decide (n % beepPeriodMs w.level < 120) := by
      rw [beepActive, beq_eq_false_iff_ne.mpr htop, bne_iff_ne.mpr hlevel, Bool.false_or,
        Bool.true_and]
    rw [htable, if_neg htop, hactive, hwrap]

/-- The beep is off: the tone is low, and the pattern goes on. -/
theorem beep_off {w v : WarningSound} (h : isCollisionWarningBeepActive w = (false, v)) :
    (updateWarningBeep w).1 = { v with
      toneOutputOn := false, toneTimerMs := 0, patternTimerMs := v.patternTimerMs + 1 } := by
  rw [updateWarningBeep, h]
  rfl

/-- The beep is on: the tone toggles, and the pattern goes on unless the beep never ends. -/
theorem beep_on {w v : WarningSound} (h : isCollisionWarningBeepActive w = (true, v)) :
    (updateWarningBeep w).1 = if v.level ≠ 3 then { v with
        toneTimerMs := 0, toneOutputOn := !v.toneOutputOn
        patternTimerMs := v.patternTimerMs + 1 }
      else { v with toneTimerMs := 0, toneOutputOn := !v.toneOutputOn } := by
  have htone : toggleWarningTone v =
      ({ v with toneTimerMs := 0, toneOutputOn := !v.toneOutputOn }, some (!v.toneOutputOn)) :=
    if_pos (Nat.le_add_left 1 _)
  rw [updateWarningBeep, h]
  simp only [htone, Bool.true_eq_false, if_false]
  split_ifs <;> rfl

/-- **One tick of the beep**: the tone toggles while the beep is on and is low otherwise. -/
theorem beep_tick {n : Nat} {w : WarningSound} (hw : Beeping n w) (hlevel : w.level ≠ 0) :
    Beeping (n + 1) (updateWarningBeep w).1 ∧
      (updateWarningBeep w).1.toneOutputOn = (beepActive w.level n && !w.toneOutputOn) := by
  have hactive := isActive_eq hw hlevel
  by_cases htop : w.level = 3
  · have hon : beepActive w.level n = true := by
      rw [htop]
      rfl
    rw [hon, if_pos htop] at hactive
    rw [beep_on hactive, if_neg (not_not.mpr htop), hon]
    exact ⟨⟨hw.last, fun h => absurd htop h, fun h => absurd htop h⟩, rfl⟩
  · have hle : n % beepPeriodMs w.level + 1 ≤ beepPeriodMs w.level :=
      Nat.mod_lt n (beepPeriod_pos w.level)
    have hmod : (n % beepPeriodMs w.level + 1) % beepPeriodMs w.level =
        (n + 1) % beepPeriodMs w.level := Nat.mod_add_mod ..
    rw [if_neg htop] at hactive
    cases hon : beepActive w.level n with
    | false =>
        rw [hon] at hactive
        rw [beep_off hactive]
        exact ⟨⟨hw.last, fun _ => hle, fun _ _ => hmod⟩, rfl⟩
    | true =>
        rw [hon] at hactive
        rw [beep_on hactive, if_pos htop]
        exact ⟨⟨hw.last, fun _ => hle, fun _ _ => hmod⟩, rfl⟩

/-! ## Levels -/

/-- The ticks of the level, when it may have changed. -/
def ticksOf (before after : Fin 4) (n : Nat) : Nat := if after = before then n else 0

/-- **A level is entered**: its pattern starts with the first tick. -/
theorem enter_beeping {n : Nat} {w : WarningSound} (hw : Beeping n w) (level : Fin 4) :
    Beeping (ticksOf w.level level n) (enterWarningLevel { w with level := level }) ∧
      (enterWarningLevel { w with level := level }).toneOutputOn =
        (decide (level = w.level) && w.toneOutputOn) := by
  by_cases hsame : level = w.level
  · subst hsame
    have hkeep : enterWarningLevel { w with level := w.level } = w :=
      if_neg (not_not.mpr hw.last.symm)
    rw [hkeep, ticksOf, if_pos rfl, decide_eq_true rfl, Bool.true_and]
    exact ⟨hw, rfl⟩
  · have hnew : level ≠ w.lastLevel := fun h => hsame (h.trans hw.last)
    have hstart : enterWarningLevel { w with level := level } = ⟨level, level, false, 0, 0⟩ :=
      if_pos hnew
    rw [hstart, ticksOf, if_neg hsame, decide_eq_false hsame, Bool.false_and]
    exact ⟨⟨rfl, fun _ => Nat.zero_le _, fun _ _ => rfl⟩, rfl⟩

/-! ## Calls -/

/-- The ticks of the level after a call: an update without the horn is one. -/
def nextTicks (s : BodyControlState) (c : ControlCall) (n : Nat) : Nat :=
  let t := controlStep s c
  let k := ticksOf s.sound.level t.sound.level n
  match c with
  | .update1ms _ => k + if t.requests.hornEnabled = false then 1 else 0
  | _ => k

/-- The ticks since the level was entered, in a run that comes `n` ticks after. -/
def beepTicks : BodyControlState → List ControlCall → Nat → Nat
  | _, [], n => n
  | s, c :: cs, n => beepTicks (controlStep s c) cs (nextTicks s c n)

theorem beepActive_zero (n : Nat) : beepActive 0 n = false := rfl

/-- What an update does to sound and buzzer, from `n` ticks of the level before it. -/
structure Ticked (n : Nat) (x y : Alarm) : Prop where
  hornOn : y.hornOn = x.hornOn
  off : y.lampOn = false → y.sound.level = 0
  beeping : Beeping (ticksOf x.sound.level y.sound.level n + if y.hornOn = false then 1 else 0)
    y.sound
  horn : y.hornOn = true → y.buzzer = y.horn.outputOn ∧ y.horn.outputOn = (!x.horn.outputOn) ∧
    (y.sound.level = x.sound.level → y.sound.level ≠ 0 → y.sound = x.sound)
  tone : y.hornOn = false → y.buzzer = y.sound.toneOutputOn ∧
    y.sound.toneOutputOn = (beepActive y.sound.level (ticksOf x.sound.level y.sound.level n) &&
      !(decide (y.sound.level = x.sound.level) && x.sound.toneOutputOn))

/-- The sensor part leaves a level, and no level without the enable. -/
structure Sensed (x a : Alarm) : Prop where
  hornOn : a.hornOn = x.hornOn
  horn : a.horn = x.horn
  sound : a.sound.level ≠ 0 → a.sound = { x.sound with level := a.sound.level }
  off : a.lampOn = false → a.sound.level = 0

section Tick

variable {n : Nat} {x a : Alarm}

/-- Without a level both tones are silent. -/
theorem ticked_quiet (ha : Sensed x a) (hquiet : a.lampOn = false ∨ a.sound.level = 0) :
    Ticked n x (soundTick (hornTick a)) := by
  cases hhorn : a.hornOn with
  | true =>
      have hsilent := soundTick_quiet (a := hornTick a) (by rw [hornTick_on hhorn]; exact hquiet)
      rw [hsilent, hornTick_on hhorn]
      refine ⟨ha.hornOn, fun _ => rfl, beeping_reset _, fun _ => ⟨?_, ?_, ?_⟩, fun hno => ?_⟩
      · exact (congrArg (· && !a.horn.outputOn) hhorn).trans (Bool.true_and _)
      · rw [ha.horn]
      · intro _ hsome
        exact absurd rfl hsome
      · exact absurd (hhorn.symm.trans hno) Bool.false_ne_true.symm
  | false =>
      have hsilent := soundTick_quiet (a := hornTick a) (by rw [hornTick_off hhorn]; exact hquiet)
      rw [hsilent, hornTick_off hhorn]
      refine ⟨ha.hornOn, fun _ => rfl, beeping_reset _, fun hyes => ?_, fun _ => ⟨?_, rfl⟩⟩
      · exact absurd (hhorn.symm.trans hyes) Bool.false_ne_true
      · exact Bool.and_false _

/-- A level under the horn: the horn sounds, and the pattern waits. -/
theorem ticked_horn (hx : Beeping n x.sound) (ha : Sensed x a) (hhorn : a.hornOn = true)
    (hloud : ¬ (a.lampOn = false ∨ a.sound.level = 0)) :
    Ticked n x (soundTick (hornTick a)) := by
  have hwaits := soundTick_horn (a := hornTick a) (by rw [hornTick_on hhorn]; exact hloud)
    (by rw [hornTick_on hhorn]; exact hhorn)
  have hsome : a.sound.level ≠ 0 := fun h => hloud (.inr h)
  obtain ⟨hbeeping, -⟩ := enter_beeping hx a.sound.level
  rw [← ha.sound hsome] at hbeeping
  have hlevel := enter_level a.sound
  rw [hwaits, hornTick_on hhorn]
  refine ⟨ha.hornOn, fun hlamp => absurd (.inl hlamp) hloud, ?_, fun _ => ⟨rfl, ?_, ?_⟩, ?_⟩
  · have hnone : (if a.hornOn = false then 1 else 0) = 0 := if_neg (ne_false_of_eq_true hhorn)
    simp only [hlevel, hnone, Nat.add_zero]
    exact hbeeping
  · rw [ha.horn]
  · intro hsame _
    have hkept : a.sound = x.sound := by
      rw [ha.sound hsome, ← hlevel, hsame]
    have hold : x.sound.level = x.sound.lastLevel := hx.last.symm
    have hstays : enterWarningLevel a.sound = a.sound := by
      rw [hkept]
      exact if_neg (not_not.mpr hold)
    exact hstays.trans hkept
  · intro hno
    exact absurd (hhorn.symm.trans hno) Bool.false_ne_true.symm

/-- A level without the horn: one tick of its beep. -/
theorem ticked_play (hx : Beeping n x.sound) (ha : Sensed x a) (hhorn : a.hornOn = false)
    (hloud : ¬ (a.lampOn = false ∨ a.sound.level = 0)) :
    Ticked n x (soundTick (hornTick a)) := by
  have hplays := soundTick_play (a := hornTick a) (by rw [hornTick_off hhorn]; exact hloud)
    (by rw [hornTick_off hhorn]; exact hhorn)
  have hsome : a.sound.level ≠ 0 := fun h => hloud (.inr h)
  obtain ⟨hbeeping, htone⟩ := enter_beeping hx a.sound.level
  rw [← ha.sound hsome] at hbeeping htone
  have hlevel := enter_level a.sound
  obtain ⟨hnext, hplayed⟩ := beep_tick hbeeping (by rw [hlevel]; exact hsome)
  have hafter := (beep_level (enterWarningLevel a.sound)).trans hlevel
  rw [hlevel, htone] at hplayed
  rw [hplays, hornTick_off hhorn]
  refine ⟨ha.hornOn, fun hlamp => absurd (.inl hlamp) hloud, ?_, fun hyes => ?_,
    fun _ => ⟨rfl, ?_⟩⟩
  · have hone : (if a.hornOn = false then 1 else 0) = 1 := if_pos hhorn
    simp only [hafter, hone]
    exact hnext
  · exact absurd (hhorn.symm.trans hyes) Bool.false_ne_true
  · simp only [hafter]
    exact hplayed

/-- **One update** of sound and buzzer. -/
theorem ticked (hx : Beeping n x.sound) (ha : Sensed x a) :
    Ticked n x (soundTick (hornTick a)) := by
  by_cases hquiet : a.lampOn = false ∨ a.sound.level = 0
  · exact ticked_quiet ha hquiet
  · cases hhorn : a.hornOn with
    | true => exact ticked_horn hx ha hhorn hquiet
    | false => exact ticked_play hx ha hhorn hquiet

end Tick

theorem sensed_alarm (now : BodyInputs) (s : BodyControlState) :
    Sensed (alarm s) (alarm (sensed now s)) := by
  obtain ⟨hrequests, hhorn, hsound⟩ := sensed_writes now s
  refine ⟨congrArg Requests.hornEnabled hrequests, hhorn, ?_, ?_⟩
  · intro hsome
    refine hsound.resolve_right fun hreset => hsome ?_
    exact congrArg WarningSound.level hreset
  · intro hlamp
    have hoff : s.requests.collisionWarningLampOn = false := by
      rw [← hrequests]
      exact hlamp
    exact congrArg WarningSound.level (sensed_off hoff)

theorem ticked_update {n : Nat} {s : BodyControlState} (hs : Beeping n s.sound)
    (now : BodyInputs) : Ticked n (alarm s) (alarm (update1ms now s)) := by
  rw [alarm_update]
  exact ticked hs (sensed_alarm now s)

/-- **One call** of the beep. -/
theorem beeping_call {n : Nat} {s : BodyControlState} (hs : Beeping n s.sound)
    (c : ControlCall) : Beeping (nextTicks s c n) (controlStep s c).sound := by
  by_cases hupdate : c.isUpdate = true
  · cases c with
    | update1ms now => exact (ticked_update hs now).beeping
    | _ => exact absurd hupdate Bool.false_ne_true
  · have hother := (Bool.not_eq_true _).mp hupdate
    have hticks : nextTicks s c n = ticksOf s.sound.level (controlStep s c).sound.level n := by
      cases c with
      | update1ms now => exact absurd rfl hupdate
      | _ => rfl
    rw [hticks]
    obtain ⟨hreset, -⟩ | ⟨hkept, -, -⟩ := between_updates s hother
    · rw [hreset]
      exact beeping_reset _
    · rw [hkept, ticksOf, if_pos rfl]
      exact hs

theorem beeping_run {n : Nat} {s : BodyControlState} (hs : Beeping n s.sound)
    (cs : List ControlCall) : Beeping (beepTicks s cs n) (run controlStep s cs).sound := by
  induction cs generalizing s n with
  | nil => exact hs
  | cons c cs ih => exact ih (beeping_call hs c)

/-- **Buzzer arbitration.**  After any run and one more update the pin is the output of the
    horn, if the horn is enabled, and otherwise the tone of the warning while its beep is on.
    The beep depends on the level and on the number of updates without the horn since the
    level was entered; it is what `BodyControl_IsCollisionWarningBeepActive` returns.  Each tone
    toggles while it has the pin, and a level that stays the same under the horn keeps its whole
    sound. -/
theorem buzzer_arbitration (inp now : BodyInputs) (cs : List ControlCall) :
    let s := controlRun inp cs
    let t := controlRun inp (cs ++ [.update1ms now])
    let n := ticksOf s.sound.level t.sound.level (beepTicks (init inp) cs 0)
    let beep := t.requests.collisionWarningLampOn && beepActive t.sound.level n
    t.pins.buzzer = (if t.requests.hornEnabled then t.horn.outputOn
        else beep && t.sound.toneOutputOn) ∧
      (t.requests.hornEnabled = true → t.horn.outputOn = !s.horn.outputOn) ∧
      (t.requests.hornEnabled = false → t.sound.toneOutputOn =
        (beep && !(decide (t.sound.level = s.sound.level) && s.sound.toneOutputOn))) ∧
      (t.requests.hornEnabled = true → t.sound.level = s.sound.level → t.sound.level ≠ 0 →
        t.sound = s.sound) ∧
      (t.sound.level ≠ 0 → (isCollisionWarningBeepActive
        (enterWarningLevel { s.sound with level := t.sound.level })).1 =
          beepActive t.sound.level n) := by
  intro s t n beep
  have hsnoc : t = update1ms now s := run_snoc controlStep (init inp) cs (.update1ms now)
  have hbefore : Beeping (beepTicks (init inp) cs 0) s.sound := beeping_run (beeping_reset 0) cs
  have hticked : Ticked (beepTicks (init inp) cs 0) (alarm s) (alarm t) := by
    rw [hsnoc]
    exact ticked_update hbefore now
  have hbeep : beep = beepActive t.sound.level n := by
    cases hlamp : t.requests.collisionWarningLampOn with
    | true => simp only [beep, hlamp, Bool.true_and]
    | false =>
        have hzero : t.sound.level = 0 := hticked.off hlamp
        simp only [beep, hlamp, Bool.false_and, hzero, beepActive_zero]
  rw [hbeep]
  refine ⟨?_, fun hon => (hticked.horn hon).2.1, fun hoff => (hticked.tone hoff).2,
    fun hon => (hticked.horn hon).2.2, ?_⟩
  · cases hhorn : t.requests.hornEnabled with
    | true => exact (hticked.horn hhorn).1
    | false =>
        obtain ⟨hbuzzer, htone⟩ := hticked.tone hhorn
        have hpin : t.pins.buzzer = t.sound.toneOutputOn := hbuzzer
        have hsilent : t.sound.toneOutputOn = (beepActive t.sound.level n && _) := htone
        rw [hpin]
        cases hactive : beepActive t.sound.level n with
        | true => rfl
        | false =>
            rw [hsilent, hactive]
            rfl
  · intro hsome
    have hlevel := enter_level { s.sound with level := t.sound.level }
    have hentered := (enter_beeping hbefore t.sound.level).1
    have hactive := isActive_eq hentered (by rw [hlevel]; exact hsome)
    rw [hactive, hlevel]

end Buzzer
