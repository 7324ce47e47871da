import RemoteVehicle.EncoderWindowProofs

/-!
# The pulse rate of every window

A window opens with `Encoder_Init` or with the hundredth `Encoder_Update1ms` since it opened
before, and no sample is lost in between: `watch_opens` and `watch_goes_on` say which samples
belong to it, whatever polls come between the updates.

The two edge counts of a window alternate, so they differ by at most one, and the larger is half
the transitions, rounded up.  The rate is that count times 1000 by 100 in 32 bits: the product
wraps from 4294968 pulses on, long before a counter does (`rate_published`).
-/

namespace EncoderRate

open Runs Signal ActSensors EncoderWindow

/-! ## Windows and updates -/

/-- The call is `Encoder_Update1ms`. -/
def isUpdate : EncoderCall → Bool
  | .poll _ => false
  | .update1ms _ => true

/-- How many of the calls are. -/
def updates (cs : List EncoderCall) : Nat := cs.countP isUpdate

/-- The samples that the calls take. -/
def levels (cs : List EncoderCall) : List Bool := cs.map EncoderCall.level

/-- A window opens after these calls: there were none, or the last one is a hundredth update. -/
def OpensWindow (before : List EncoderCall) : Prop :=
  before = [] ∨ ∃ earlier nowA, before = earlier ++ [.update1ms nowA] ∧ updates before % 100 = 0

/-- The encoder after `Encoder_Init` and these calls. -/
def encoderAfter (nowA : Bool) (cs : List EncoderCall) : Encoder :=
  run encoderStep (encoderInit nowA) cs

theorem updates_snoc (cs : List EncoderCall) (c : EncoderCall) :
    updates (cs ++ [c]) = updates cs + if isUpdate c then 1 else 0 := by
  rw [updates, List.countP_append, List.countP_singleton]
  rfl

/-- The watch runs beside the encoder. -/
theorem enc_watch (nowA : Bool) (cs : List EncoderCall) :
    (run watchStep (watchInit nowA) cs).enc = encoderAfter nowA cs := by
  induction cs using List.reverseRecOn with
  | nil => rfl
  | append_singleton cs c ih =>
      rw [run_snoc, encoderAfter, run_snoc]
      exact congrArg (encoderStep · c) ih

theorem toNat_succ {k : Nat} (hk : k < 100) :
    (UInt32.ofNat k + 1).toNat = k + 1 := by
  have hone : (1 : UInt32).toNat = 1 := rfl
  rw [UInt32.toNat_add, UInt32.toNat_ofNat', hone]
  omega

/-- A call closes a window in the hundredth millisecond. -/
theorem closes_iff {e : Encoder} {k : Nat} (he : e.elapsedMs = UInt32.ofNat k) (hk : k < 100)
    (c : EncoderCall) : Closes e c ↔ isUpdate c = true ∧ k = 99 := by
  cases c with
  | poll nowA => exact ⟨fun h => h.elim, fun h => absurd h.1 Bool.false_ne_true⟩
  | update1ms nowA =>
      show encoderSpeedWindowMs ≤ e.elapsedMs + 1 ↔ true = true ∧ k = 99
      rw [UInt32.le_iff_toNat_le, he, toNat_succ hk]
      show 100 ≤ k + 1 ↔ true = true ∧ k = 99
      exact ⟨fun h => ⟨rfl, by omega⟩, fun h => by omega⟩

/-- **The window timer** counts the updates. -/
theorem elapsed_step {e : Encoder} {k : Nat} (he : e.elapsedMs = UInt32.ofNat (k % 100))
    (c : EncoderCall) : (encoderStep e c).elapsedMs =
      UInt32.ofNat ((k + if isUpdate c then 1 else 0) % 100) := by
  have hcloses := closes_iff he (Nat.mod_lt k (by decide)) c
  cases c with
  | poll nowA => exact he
  | update1ms nowA =>
      show _ = UInt32.ofNat ((k + 1) % 100)
      by_cases hlast : k % 100 = 99
      · have hclosed : encoderSpeedWindowMs ≤ (encoderPoll nowA e).elapsedMs + 1 :=
          hcloses.mpr ⟨rfl, hlast⟩
        have hzero : (k + 1) % 100 = 0 := by omega
        rw [hzero]
        exact congrArg Encoder.elapsedMs (if_pos hclosed)
      · have hopen : ¬ encoderSpeedWindowMs ≤ (encoderPoll nowA e).elapsedMs + 1 :=
          fun h => hlast (hcloses.mp h).2
        have hnext : (k + 1) % 100 = k % 100 + 1 := by omega
        refine (congrArg Encoder.elapsedMs (if_neg hopen)).trans ?_
        show e.elapsedMs + 1 = _
        rw [he, hnext, UInt32.ofNat_add]
        rfl

theorem elapsed_run (nowA : Bool) (cs : List EncoderCall) :
    (encoderAfter nowA cs).elapsedMs = UInt32.ofNat (updates cs % 100) := by
  induction cs using List.reverseRecOn with
  | nil => rfl
  | append_singleton cs c ih =>
      rw [encoderAfter, run_snoc, updates_snoc]
      exact elapsed_step ih c

/-- The closed windows have a hundred updates each, so the open one has the rest. -/
theorem updates_window {before window : List EncoderCall} (h : OpensWindow before)
    (hwindow : updates window < 100) : updates (before ++ window) % 100 = updates window := by
  have hopened : updates before % 100 = 0 := by
    rcases h with rfl | ⟨_, _, -, hcount⟩
    · rfl
    · exact hcount
  have hcount : updates (before ++ window) = updates before + updates window :=
    List.countP_append
  omega

theorem elapsed_window (nowA : Bool) {before window : List EncoderCall} (h : OpensWindow before)
    (hwindow : updates window < 100) :
    (encoderAfter nowA (before ++ window)).elapsedMs = UInt32.ofNat (updates window) :=
  updates_window h hwindow ▸ elapsed_run nowA (before ++ window)

/-! ## The samples of a window -/

/-- **Where a window opens**, it has no samples, and begins with the last level. -/
theorem watch_opens (nowA : Bool) {before : List EncoderCall} (h : OpensWindow before) :
    (run watchStep (watchInit nowA) before).start = final nowA (levels before) ∧
      (run watchStep (watchInit nowA) before).levels = [] := by
  rcases h with rfl | ⟨earlier, level, rfl, hcount⟩
  · exact ⟨rfl, rfl⟩
  · rw [updates_snoc] at hcount
    have hninetynine : updates earlier % 100 = 99 := by
      simp only [isUpdate, if_true] at hcount
      omega
    have helapsed := elapsed_run nowA earlier
    rw [hninetynine, ← enc_watch] at helapsed
    have hcloses : Closes (run watchStep (watchInit nowA) earlier).enc (.update1ms level) :=
      (closes_iff helapsed (by decide) _).mpr ⟨rfl, rfl⟩
    rw [run_snoc]
    refine ⟨(if_pos hcloses).trans ?_, if_pos hcloses⟩
    rw [levels, List.map_append]
    exact (final_snoc ..).symm

/-- **While it is open**, every call adds its sample. -/
theorem watch_goes_on (nowA : Bool) {before window : List EncoderCall} (h : OpensWindow before)
    (hwindow : updates window < 100) :
    (run watchStep (watchInit nowA) (before ++ window)).start = final nowA (levels before) ∧
      (run watchStep (watchInit nowA) (before ++ window)).levels = levels window := by
  induction window using List.reverseRecOn with
  | nil =>
      rw [List.append_nil]
      exact watch_opens nowA h
  | append_singleton window c ih =>
      rw [updates_snoc] at hwindow
      have hshort : updates window < 100 := by omega
      obtain ⟨hstart, hlevels⟩ := ih hshort
      have helapsed := elapsed_window nowA h hshort
      rw [← enc_watch] at helapsed
      have hstays : ¬ Closes (run watchStep (watchInit nowA) (before ++ window)).enc c := by
        rw [closes_iff helapsed hshort]
        rintro ⟨hupdate, hlast⟩
        rw [if_pos hupdate] at hwindow
        omega
      rw [← List.append_assoc, run_snoc]
      refine ⟨(if_neg hstays).trans hstart, (if_neg hstays).trans ?_⟩
      rw [hlevels, levels, levels, List.map_append]
      rfl

/-- The encoder follows the samples of the open window. -/
theorem follows_window (nowA : Bool) {before window : List EncoderCall} (h : OpensWindow before)
    (hwindow : updates window < 100) :
    Follows (encoderAfter nowA (before ++ window)) (final nowA (levels before))
      (levels window) := by
  obtain ⟨hstart, hlevels⟩ := watch_goes_on nowA h hwindow
  have hgood := good_run (good_init nowA) (before ++ window)
  rw [Watch.Good, hstart, hlevels, enc_watch] at hgood
  exact hgood

/-! ## The rate -/

/-- The calls are those of the closed windows, and then those of the open one. -/
structure Splits (cs before window : List EncoderCall) : Prop where
  calls : cs = before ++ window
  opens : OpensWindow before
  under : updates window < 100

/-- Every sequence of calls has an open window. -/
theorem splits (cs : List EncoderCall) : ∃ before window, Splits cs before window := by
  induction cs using List.reverseRecOn with
  | nil => exact ⟨[], [], rfl, Or.inl rfl, by decide⟩
  | append_singleton cs c ih =>
      obtain ⟨before, window, rfl, hopens, hunder⟩ := ih
      have hmod := updates_window hopens hunder
      by_cases hlast : isUpdate c = true ∧ updates window = 99
      · obtain ⟨hupdate, hcount⟩ := hlast
        cases c with
        | poll level => cases hupdate
        | update1ms level =>
            refine ⟨before ++ window ++ [.update1ms level], [], (List.append_nil _).symm,
              Or.inr ⟨before ++ window, level, rfl, ?_⟩, by decide⟩
            rw [updates_snoc, isUpdate, if_pos rfl]
            omega
      · refine ⟨before, window ++ [c], List.append_assoc .., hopens, ?_⟩
        rw [updates_snoc]
        split
        · rename_i hupdate
          have hne : updates window ≠ 99 := fun h => hlast ⟨hupdate, h⟩
          omega
        · exact hunder

/-- The transitions of a window with these samples. -/
def transitionsIn (nowA : Bool) (before : List EncoderCall) (samples : List Bool) : Nat :=
  changes (final nowA (levels before)) samples

/-- Neither edge counter of a window with these samples wraps. -/
def Fits (nowA : Bool) (before : List EncoderCall) (samples : List Bool) : Prop :=
  rises (final nowA (levels before)) samples < 2 ^ 32 ∧
    falls (final nowA (levels before)) samples < 2 ^ 32

/-- The two edge counts differ by at most one. -/
def Balanced (e : Encoder) : Prop :=
  e.windowRisingEdgeCount.toNat ≤ e.windowFallingEdgeCount.toNat + 1 ∧
    e.windowFallingEdgeCount.toNat ≤ e.windowRisingEdgeCount.toNat + 1

/-- The pulses of a window: half its transitions, rounded up. -/
def pulsesIn (nowA : Bool) (before : List EncoderCall) (samples : List Bool) : Nat :=
  (transitionsIn nowA before samples + 1) / 2

/-- The hundredth update publishes ten times the pulses of the window it closes. -/
def RateExact (nowA : Bool) (before window : List EncoderCall) (level : Bool) : Prop :=
  (encoderAfter nowA (before ++ window ++ [.update1ms level])).pulsePerSecond.toNat =
    10 * pulsesIn nowA before (levels window ++ [level])

/-- **The counts alternate.** -/
theorem balanced_of_follows {e : Encoder} {nowA : Bool} {before : List EncoderCall}
    {samples : List Bool} (h : Follows e (final nowA (levels before)) samples)
    (hfits : Fits nowA before samples) : Balanced e := by
  have halternate := start_add_rises (final nowA (levels before)) samples
  have hstart := Bool.toNat_le (final nowA (levels before))
  have hlast := Bool.toNat_le (final (final nowA (levels before)) samples)
  obtain ⟨hrises, hfalls⟩ := hfits
  rw [Balanced, h.rising, h.falling, UInt32.toNat_ofNat', UInt32.toNat_ofNat',
    Nat.mod_eq_of_lt hrises, Nat.mod_eq_of_lt hfalls]
  omega

/-- The pulse count of a poll is half the transitions, rounded up. -/
theorem pulses_of_follows {e : Encoder} {nowA : Bool} {before : List EncoderCall}
    {samples : List Bool} (h : Follows e (final nowA (levels before)) samples) (level : Bool)
    (hfits : Fits nowA before (samples ++ [level])) :
    (encoderPoll level e).windowPulseCount.toNat =
      pulsesIn nowA before (samples ++ [level]) := by
  obtain ⟨-, hrising, hfalling⟩ := follows_poll h level
  have hmax := two_mul_max (final nowA (levels before)) (samples ++ [level])
  have hsum := changes_eq (final nowA (levels before)) (samples ++ [level])
  rw [poll_pulses, hrising, hfalling, UInt32.toNat_ofNat', UInt32.toNat_ofNat',
    Nat.mod_eq_of_lt hfits.1, Nat.mod_eq_of_lt hfits.2, pulsesIn, transitionsIn]
  -- an odd number of transitions rounds up, and ends the window at another level
  split at hmax <;> omega

/-- **The rate published** at the end of a window is computed in 32 bits. -/
theorem rate_published (nowA : Bool) {before window : List EncoderCall} (h : OpensWindow before)
    (hcount : updates window = 99) (level : Bool)
    (hfits : Fits nowA before (levels window ++ [level])) :
    (encoderAfter nowA (before ++ window ++ [.update1ms level])).pulsePerSecond.toNat =
      pulsesIn nowA before (levels window ++ [level]) * 1000 % 2 ^ 32 / 100 := by
  have hshort : updates window < 100 := by omega
  have hpulses := pulses_of_follows (follows_window nowA h hshort) level hfits
  have helapsed := elapsed_window nowA h hshort
  rw [hcount] at helapsed
  have hcloses : encoderSpeedWindowMs ≤
      (encoderPoll level (encoderAfter nowA (before ++ window))).elapsedMs + 1 :=
    (closes_iff helapsed (by decide) (.update1ms level)).mpr ⟨rfl, rfl⟩
  have hhundred :
      (encoderPoll level (encoderAfter nowA (before ++ window))).elapsedMs + 1 = 100 :=
    congrArg (· + 1) helapsed
  have hrate : (encoderAfter nowA (before ++ window ++ [.update1ms level])).pulsePerSecond =
      (encoderPoll level (encoderAfter nowA (before ++ window))).windowPulseCount * 1000 /
        ((encoderPoll level (encoderAfter nowA (before ++ window))).elapsedMs + 1) := by
    rw [encoderAfter, run_snoc]
    exact congrArg Encoder.pulsePerSecond (if_pos hcloses)
  rw [hrate, hhundred, UInt32.toNat_div, UInt32.toNat_mul, hpulses]
  rfl

/-- **The two counts and the rate, in every window**: the counts differ by at most one, and the
    rate is ten times the pulses exactly when there are fewer than 4294968 of them. -/
theorem encoder_rate (nowA : Bool) (cs : List EncoderCall) :
    (∃ before window, Splits cs before window) ∧
    ∀ before window, Splits cs before window →
      (Fits nowA before (levels window) → Balanced (encoderAfter nowA cs)) ∧
      ∀ level, updates window = 99 → Fits nowA before (levels window ++ [level]) →
        (RateExact nowA before window level ↔
          pulsesIn nowA before (levels window ++ [level]) < 4294968) := by
  refine ⟨splits cs, ?_⟩
  rintro before window ⟨rfl, hopens, hunder⟩
  refine ⟨balanced_of_follows (follows_window nowA hopens hunder), ?_⟩
  intro level hcount hfits
  rw [RateExact, rate_published nowA hopens hcount level hfits]
  omega

/-- A pulse between two updates, and the rest of its window but for the last update. -/
def onePulse : List EncoderCall :=
  .update1ms false :: .poll true :: List.replicate 98 (.update1ms false)

/-- One pulse is a rate of 10. -/
theorem encoder_rate_pulse :
    Balanced (encoderAfter false onePulse) ∧ RateExact false [] onePulse false := by
  have hcount : updates onePulse = 99 := by decide +kernel
  obtain ⟨hbalanced, hrate⟩ := (encoder_rate false onePulse).2 [] onePulse
    ⟨rfl, Or.inl rfl, by rw [hcount]; decide⟩
  refine ⟨hbalanced ⟨by decide +kernel, by decide +kernel⟩, ?_⟩
  exact (hrate false hcount ⟨by decide +kernel, by decide +kernel⟩).mpr (by decide +kernel)

/-! ## Too many pulses -/

/-- Pulses that polls see, and no update. -/
def polls : Nat → List EncoderCall
  | 0 => []
  | n + 1 => .poll true :: .poll false :: polls n

/-- These pulses, and then the updates of a window at a low level but for the last. -/
def burst (n : Nat) : List EncoderCall := polls n ++ List.replicate 99 (.update1ms false)

theorem polls_edges (n : Nat) : updates (polls n) = 0 ∧
    final false (levels (polls n)) = false ∧ changes false (levels (polls n)) = 2 * n := by
  induction n with
  | zero => exact ⟨rfl, rfl, rfl⟩
  | succ n ih =>
      obtain ⟨hupdates, hfinal, hchanges⟩ := ih
      refine ⟨hupdates, hfinal, ?_⟩
      show 1 + (1 + changes false (levels (polls n))) = 2 * (n + 1)
      omega

/-- A burst fills a window, up to its last update. -/
theorem burst_window (n : Nat) : updates (burst n) = 99 ∧
    pulsesIn false [] (levels (burst n) ++ [false]) = n ∧
    (n < 2 ^ 32 → Fits false [] (levels (burst n) ++ [false])) := by
  obtain ⟨hupdates, hfinal, hchanges⟩ := polls_edges n
  have hsamples : levels (burst n) ++ [false] =
      levels (polls n) ++ List.replicate 100 false := by
    rw [burst, levels, List.map_append, List.append_assoc]
    rfl
  have hall : changes false (levels (polls n) ++ List.replicate 100 false) = 2 * n := by
    rw [changes_append, hfinal, hchanges]
    rfl
  have hlast : final false (levels (polls n) ++ List.replicate 100 false) = false := by
    rw [final_append, hfinal]
    rfl
  have hbalance := start_add_rises false (levels (polls n) ++ List.replicate 100 false)
  have hsum := changes_eq false (levels (polls n) ++ List.replicate 100 false)
  rw [hlast] at hbalance
  refine ⟨?_, ?_, fun hn => ?_⟩
  · rw [updates] at hupdates
    rw [burst, updates, List.countP_append, hupdates, List.countP_replicate]
    rfl
  · rw [hsamples]
    show (changes false _ + 1) / 2 = n
    omega
  · rw [hsamples]
    show rises false _ < 2 ^ 32 ∧ falls false _ < 2 ^ 32
    omega

/-- **The rate of too many pulses is wrong**: with 4294968 pulses in the first window no counter
    wraps, but the product does, and the rate is 7. -/
theorem rate_wraps :
    (encoderAfter false ([] ++ burst 4294968 ++ [.update1ms false])).pulsePerSecond.toNat = 7 ∧
    ¬ ∀ (nowA : Bool) (before window : List EncoderCall) (level : Bool),
      OpensWindow before → updates window = 99 →
      Fits nowA before (levels window ++ [level]) → RateExact nowA before window level := by
  obtain ⟨n, hn⟩ : ∃ n, n = 4294968 := ⟨_, rfl⟩
  rw [← hn]
  obtain ⟨hcount, hpulses, hfits⟩ := burst_window n
  have hrate := rate_published false (Or.inl rfl) hcount false (hfits (by omega))
  rw [hpulses] at hrate
  refine ⟨by omega, fun h => ?_⟩
  have hexact := h false [] (burst n) false (Or.inl rfl) hcount (hfits (by omega))
  rw [RateExact, hpulses] at hexact
  omega

end EncoderRate
