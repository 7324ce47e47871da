import RemoteVehicle.ActSensors
import RemoteVehicle.Runs
import RemoteVehicle.Signal

/-!
# Encoder pulses over many windows

`Encoder_Update1ms` closes a window every 100 ms and takes the larger of its rising and its
falling edges as its pulses, so that a pulse with both edges counts once.  `Watch` runs beside
the encoder and remembers the level the window began with and the samples since.

A window in which the level at the end is that of the beginning has as many pulses as half its
edges.  A window that ends at another level (`Window.straddled`) has half a pulse too many: the
pulse whose edge it counts has its other edge in a later window, and is counted there again.
`pulses_counted_once` says that no pulse is counted twice as long as at most one window is
straddled.
-/

namespace EncoderWindow

open Runs Signal ActSensors

/-! ## Calls and windows -/

/-- The calls of `Encoder.c`, with the level they sample. -/
inductive EncoderCall where
  | poll (nowA : Bool)
  | update1ms (nowA : Bool)
deriving DecidableEq, Repr

def EncoderCall.level : EncoderCall → Bool
  | .poll nowA => nowA
  | .update1ms nowA => nowA

def encoderStep (e : Encoder) : EncoderCall → Encoder
  | .poll nowA => encoderPoll nowA e
  | .update1ms nowA => encoderUpdate1ms nowA e

/-- The call completes a window. -/
def Closes (e : Encoder) : EncoderCall → Prop
  | .poll _ => False
  | .update1ms _ => encoderSpeedWindowMs ≤ e.elapsedMs + 1

instance (e : Encoder) : (c : EncoderCall) → Decidable (Closes e c)
  | .poll _ => inferInstanceAs (Decidable False)
  | .update1ms _ => inferInstanceAs (Decidable (_ ≤ _))

/-- A completed window: the level before it, its samples, and the pulse count that
    `Encoder_Update1ms` makes the rate from. -/
structure Window where
  start : Bool
  levels : List Bool
  pulses : Nat
deriving DecidableEq, Repr

/-- The encoder, the level before the open window and its samples. -/
structure Watch where
  enc : Encoder
  start : Bool
  levels : List Bool
deriving DecidableEq, Repr

/-- `Encoder_Init` opens the first window. -/
def watchInit (nowA : Bool) : Watch := ⟨encoderInit nowA, nowA, []⟩

def watchStep (w : Watch) (c : EncoderCall) : Watch where
  enc := encoderStep w.enc c
  start := if Closes w.enc c then c.level else w.start
  levels := if Closes w.enc c then [] else w.levels ++ [c.level]

/-- The window that a call completes. -/
def closedWindow (w : Watch) (c : EncoderCall) : List Window :=
  if Closes w.enc c then
    [⟨w.start, w.levels ++ [c.level], (encoderPoll c.level w.enc).windowPulseCount.toNat⟩]
  else []

/-- The completed windows, in order. -/
def windows (w : Watch) (cs : List EncoderCall) : List Window :=
  trace watchStep closedWindow w cs

/-- The transitions in a window. -/
def Window.edges (x : Window) : Nat := changes x.start x.levels

/-- The window ends at another level than it began with. -/
def Window.straddled (x : Window) : Bool := final x.start x.levels != x.start

/-- The pulses of all completed windows. -/
def counted (nowA : Bool) (cs : List EncoderCall) : Nat :=
  ((windows (watchInit nowA) cs).map Window.pulses).sum

/-- How many completed windows end at another level than they began with. -/
def straddled (nowA : Bool) (cs : List EncoderCall) : Nat :=
  (windows (watchInit nowA) cs).countP Window.straddled

/-- The level transitions seen. -/
def transitions (nowA : Bool) (cs : List EncoderCall) : Nat :=
  changes nowA (cs.map EncoderCall.level)

/-! ## One window -/

/-- The encoder counts the edges of the open window, modulo 2^32. -/
structure Follows (e : Encoder) (start : Bool) (levels : List Bool) : Prop where
  lastA : e.lastA = final start levels
  rising : e.windowRisingEdgeCount = UInt32.ofNat (rises start levels)
  falling : e.windowFallingEdgeCount = UInt32.ofNat (falls start levels)

theorem follows_open {e : Encoder} {nowA : Bool} (hlast : e.lastA = nowA)
    (hrising : e.windowRisingEdgeCount = 0) (hfalling : e.windowFallingEdgeCount = 0) :
    Follows e nowA [] := ⟨hlast, hrising, hfalling⟩

/-- **A poll** counts its edge. -/
theorem follows_poll {e : Encoder} {start : Bool} {levels : List Bool}
    (h : Follows e start levels) (nowA : Bool) :
    Follows (encoderPoll nowA e) start (levels ++ [nowA]) := by
  obtain ⟨hlast, hrising, hfalling⟩ := h
  refine ⟨(final_snoc start levels nowA).symm, ?_, ?_⟩
  · rw [rises_snoc, encoderPoll, hlast, hrising]
    dsimp only
    split
    · rw [UInt32.ofNat_add]
      rfl
    · rw [Nat.add_zero]
  · rw [falls_snoc, encoderPoll, hlast, hfalling]
    dsimp only
    split
    · rw [UInt32.ofNat_add]
      rfl
    · rw [Nat.add_zero]

/-- The count of a poll is the larger of its two edge counts. -/
theorem poll_pulses (nowA : Bool) (e : Encoder) :
    (encoderPoll nowA e).windowPulseCount.toNat =
      max (encoderPoll nowA e).windowRisingEdgeCount.toNat
        (encoderPoll nowA e).windowFallingEdgeCount.toNat := by
  rw [encoderPoll]
  dsimp only
  generalize (if e.lastA = false ∧ nowA = true then e.windowRisingEdgeCount + 1
    else e.windowRisingEdgeCount) = rising
  generalize (if e.lastA = true ∧ nowA = false then e.windowFallingEdgeCount + 1
    else e.windowFallingEdgeCount) = falling
  split
  · rename_i hle
    rw [UInt32.le_iff_toNat_le] at hle
    exact (max_eq_left hle).symm
  · rename_i hlt
    rw [UInt32.le_iff_toNat_le, Nat.not_le] at hlt
    exact (max_eq_right hlt.le).symm

/-- What a completed window counts: half its edges, half a pulse more when it is straddled,
    and nothing but a counter that wraps makes it less. -/
structure Window.Counts (x : Window) : Prop where
  le : 2 * x.pulses ≤ x.edges + if x.straddled then 1 else 0
  eq : x.edges < 2 ^ 32 → 2 * x.pulses = x.edges + if x.straddled then 1 else 0

theorem counts_of_follows {e : Encoder} {start : Bool} {levels : List Bool}
    (h : Follows e start levels) (nowA : Bool) :
    Window.Counts ⟨start, levels ++ [nowA], (encoderPoll nowA e).windowPulseCount.toNat⟩ := by
  obtain ⟨-, hrising, hfalling⟩ := follows_poll h nowA
  have hpulses := poll_pulses nowA e
  rw [hrising, hfalling, UInt32.toNat_ofNat', UInt32.toNat_ofNat'] at hpulses
  have hmax := two_mul_max start (levels ++ [nowA])
  have hsum := changes_eq start (levels ++ [nowA])
  have hodd : (if Window.straddled ⟨start, levels ++ [nowA],
      (encoderPoll nowA e).windowPulseCount.toNat⟩ then 1 else 0) =
      if final start (levels ++ [nowA]) ≠ start then 1 else 0 := by
    simp only [Window.straddled, bne_iff_ne]
  have hr := Nat.mod_le (rises start (levels ++ [nowA])) (2 ^ 32)
  have hf := Nat.mod_le (falls start (levels ++ [nowA])) (2 ^ 32)
  constructor
  · rw [hodd]
    simp only [Window.edges]
    omega
  · intro hlt
    rw [hodd]
    simp only [Window.edges] at hlt ⊢
    rw [Nat.mod_eq_of_lt (by omega), Nat.mod_eq_of_lt (by omega)] at hpulses
    omega

/-! ## All windows -/

/-- The watch and the encoder agree. -/
def Watch.Good (w : Watch) : Prop := Follows w.enc w.start w.levels

theorem good_init (nowA : Bool) : (watchInit nowA).Good := follows_open rfl rfl rfl

/-- **One call**: a window goes on, or it is completed and the next one opened. -/
theorem watchStep_cases {w : Watch} (h : w.Good) (c : EncoderCall) :
    (watchStep w c).Good ∧
    ((closedWindow w c = [] ∧ (watchStep w c).start = w.start ∧
        (watchStep w c).levels = w.levels ++ [c.level]) ∨
      ∃ x, closedWindow w c = [x] ∧ x.Counts ∧ x.start = w.start ∧
        x.levels = w.levels ++ [c.level] ∧ (watchStep w c).start = c.level ∧
        (watchStep w c).levels = []) := by
  by_cases hcloses : Closes w.enc c
  · cases c with
    | poll nowA => exact hcloses.elim
    | update1ms nowA =>
        have hlast : (encoderPoll nowA w.enc).lastA = nowA := rfl
        have hupdate : encoderUpdate1ms nowA w.enc = { encoderPoll nowA w.enc with
            pulsePerSecond := (encoderPoll nowA w.enc).windowPulseCount * 1000 /
              ((encoderPoll nowA w.enc).elapsedMs + 1)
            windowPulseCount := 0, windowRisingEdgeCount := 0, windowFallingEdgeCount := 0
            elapsedMs := 0 } := if_pos hcloses
        have hgood : Follows (encoderUpdate1ms nowA w.enc) nowA [] := by
          rw [hupdate]
          exact follows_open hlast rfl rfl
        refine ⟨?_, Or.inr ⟨_, if_pos hcloses, counts_of_follows h nowA, rfl, rfl, ?_, ?_⟩⟩
        · simp only [Watch.Good, watchStep, encoderStep, if_pos hcloses]
          exact hgood
        · exact if_pos hcloses
        · exact if_pos hcloses
  · have hfollows : Follows (encoderStep w.enc c) w.start (w.levels ++ [c.level]) := by
      cases c with
      | poll nowA => exact follows_poll h nowA
      | update1ms nowA =>
          have hupdate : encoderUpdate1ms nowA w.enc = { encoderPoll nowA w.enc with
              elapsedMs := (encoderPoll nowA w.enc).elapsedMs + 1 } := if_neg hcloses
          obtain ⟨hlast, hrising, hfalling⟩ := follows_poll h nowA
          show Follows (encoderUpdate1ms nowA w.enc) w.start (w.levels ++ [nowA])
          rw [hupdate]
          exact ⟨hlast, hrising, hfalling⟩
    refine ⟨?_, Or.inl ⟨if_neg hcloses, if_neg hcloses, if_neg hcloses⟩⟩
    simp only [Watch.Good, watchStep, if_neg hcloses]
    exact hfollows

theorem good_run {w : Watch} (h : w.Good) (cs : List EncoderCall) :
    (run watchStep w cs).Good :=
  run_invariant Watch.Good (fun _ c hw => (watchStep_cases hw c).1) h cs

/-- **Every completed window** counts its edges. -/
theorem counts_windows {w : Watch} (h : w.Good) (cs : List EncoderCall) :
    ∀ x ∈ windows w cs, x.Counts := by
  induction cs generalizing w with
  | nil =>
      intro x hx
      cases hx
  | cons c cs ih =>
      intro x hx
      obtain ⟨hgood, hcases⟩ := watchStep_cases h c
      rcases List.mem_append.mp hx with hx | hx
      · rcases hcases with ⟨hnone, -⟩ | ⟨y, hone, hcounts, -⟩
        · rw [hnone] at hx
          cases hx
        · rw [hone] at hx
          obtain rfl := List.mem_singleton.mp hx
          exact hcounts
      · exact ih hgood x hx

/-- **The transitions of a run** are those of the completed windows and those of the open
    one. -/
theorem changes_windows {w : Watch} (h : w.Good) (cs : List EncoderCall) :
    changes w.start (w.levels ++ cs.map EncoderCall.level) =
      ((windows w cs).map Window.edges).sum +
        changes (run watchStep w cs).start (run watchStep w cs).levels := by
  induction cs generalizing w with
  | nil =>
      rw [List.map_nil, List.append_nil]
      exact (Nat.zero_add _).symm
  | cons c cs ih =>
      obtain ⟨hgood, hcases⟩ := watchStep_cases h c
      have hrest := ih hgood
      rw [List.map_cons, List.append_cons, run_cons]
      rw [windows, trace_cons]
      rcases hcases with ⟨hnone, hstart, hlevels⟩ | ⟨x, hone, -, hxs, hxl, hstart, hlevels⟩
      · rw [hstart, hlevels] at hrest
        rw [hnone, hrest]
        rfl
      · rw [hstart, hlevels, List.nil_append] at hrest
        rw [hone, changes_append, final_snoc, hrest, List.singleton_append, List.map_cons,
          List.sum_cons, Window.edges, hxs, hxl, windows, Nat.add_assoc]

theorem transitions_eq (nowA : Bool) (cs : List EncoderCall) :
    transitions nowA cs = ((windows (watchInit nowA) cs).map Window.edges).sum +
      changes (run watchStep (watchInit nowA) cs).start
        (run watchStep (watchInit nowA) cs).levels :=
  changes_windows (good_init nowA) cs

/-! ## Sums over windows -/

theorem sum_pulses_le {xs : List Window} (h : ∀ x ∈ xs, x.Counts) :
    2 * (xs.map Window.pulses).sum ≤
      (xs.map Window.edges).sum + xs.countP Window.straddled := by
  induction xs with
  | nil => exact Nat.le_refl 0
  | cons x xs ih =>
      have hx := (h x List.mem_cons_self).le
      have hxs := ih fun y hy => h y (List.mem_cons_of_mem x hy)
      rw [List.map_cons, List.map_cons, List.sum_cons, List.sum_cons, List.countP_cons]
      omega

theorem sum_pulses_eq {xs : List Window} (h : ∀ x ∈ xs, x.Counts)
    (hwrap : ∀ x ∈ xs, x.edges < 2 ^ 32) :
    2 * (xs.map Window.pulses).sum =
      (xs.map Window.edges).sum + xs.countP Window.straddled := by
  induction xs with
  | nil => rfl
  | cons x xs ih =>
      have hx := (h x List.mem_cons_self).eq (hwrap x List.mem_cons_self)
      have hxs := ih (fun y hy => h y (List.mem_cons_of_mem x hy))
        fun y hy => hwrap y (List.mem_cons_of_mem x hy)
      rw [List.map_cons, List.map_cons, List.sum_cons, List.sum_cons, List.countP_cons]
      omega

/-! ## No pulse in two windows -/

/-- No window has so many edges that a 32-bit counter wraps. -/
def NoWrap (nowA : Bool) (cs : List EncoderCall) : Prop :=
  ∀ x ∈ windows (watchInit nowA) cs, x.edges < 2 ^ 32

theorem windows_append (w : Watch) (cs ds : List EncoderCall) :
    windows w (cs ++ ds) = windows w cs ++ windows (run watchStep w cs) ds :=
  trace_append watchStep closedWindow w cs ds

/-- The call that completes the second straddled window leaves a pulse counted twice. -/
theorem two_straddled {nowA : Bool} {cs : List EncoderCall} (hwrap : NoWrap nowA cs)
    (h : 2 ≤ straddled nowA cs) :
    ∃ ds, ds <+: cs ∧ transitions nowA ds + 1 < 2 * counted nowA ds := by
  induction cs using List.reverseRecOn with
  | nil => exact absurd h (by simp [straddled, windows])
  | append_singleton cs c ih =>
      have hall := windows_append (watchInit nowA) cs [c]
      have hwrap' : NoWrap nowA cs := by
        intro x hx
        refine hwrap x ?_
        rw [hall]
        exact List.mem_append_left _ hx
      by_cases hcs : 2 ≤ straddled nowA cs
      · obtain ⟨ds, hds, hcount⟩ := ih hwrap' hcs
        exact ⟨ds, hds.trans (List.prefix_append cs [c]), hcount⟩
      · refine ⟨cs ++ [c], List.prefix_rfl, ?_⟩
        have hgood := good_run (good_init nowA) cs
        have hone : windows (run watchStep (watchInit nowA) cs) [c] =
            closedWindow (run watchStep (watchInit nowA) cs) c := List.append_nil _
        rcases (watchStep_cases hgood c).2 with ⟨hnone, -⟩ | ⟨x, hx, -, -, -, -, hlevels⟩
        · rw [straddled, hall, hone, hnone, List.append_nil] at h
          exact absurd h hcs
        · -- the window is complete, so the open one has no transitions yet
          have hopen : (run watchStep (watchInit nowA) (cs ++ [c])).levels = [] := by
            rw [run_snoc]
            exact hlevels
          have hsum := sum_pulses_eq (counts_windows (good_init nowA) (cs ++ [c])) hwrap
          have htrans := transitions_eq nowA (cs ++ [c])
          rw [hopen] at htrans
          have hnone : changes (run watchStep (watchInit nowA) (cs ++ [c])).start [] = 0 := rfl
          rw [hnone, Nat.add_zero] at htrans
          rw [counted, hsum, htrans]
          rw [straddled] at h
          omega

/-- **Each pulse is counted once** when at most one completed window ends at another level
    than it began with; and as long as no edge counter wraps, only then. -/
theorem pulses_counted_once (nowA : Bool) (cs : List EncoderCall) :
    (straddled nowA cs ≤ 1 → 2 * counted nowA cs ≤ transitions nowA cs + 1) ∧
    (NoWrap nowA cs →
      ((∀ ds, ds <+: cs → 2 * counted nowA ds ≤ transitions nowA ds + 1) ↔
        straddled nowA cs ≤ 1)) := by
  have hle : ∀ ds, straddled nowA ds ≤ 1 →
      2 * counted nowA ds ≤ transitions nowA ds + 1 := by
    intro ds hds
    have hsum := sum_pulses_le (counts_windows (good_init nowA) ds)
    rw [transitions_eq, counted]
    rw [straddled] at hds
    omega
  refine ⟨hle cs, fun hwrap => ⟨fun hall => ?_, fun hcs ds hds => hle ds ?_⟩⟩
  · by_contra hmany
    obtain ⟨ds, hds, hcount⟩ := two_straddled hwrap (by omega)
    have := hall ds hds
    omega
  · obtain ⟨es, rfl⟩ := hds
    rw [straddled, windows_append, List.countP_append] at hcs
    exact (Nat.le_add_right _ _).trans hcs

/-! ## A pulse in two windows -/

/-- One pulse, from the middle of the first window to the middle of the second. -/
def straddlingPulse : List EncoderCall :=
  List.replicate 50 (.update1ms false) ++ List.replicate 100 (.update1ms true) ++
    List.replicate 50 (.update1ms false)

/-- **One pulse is counted twice**: two transitions, and a pulse in each of two windows. -/
theorem pulse_counted_twice :
    transitions false straddlingPulse = 2 ∧ counted false straddlingPulse = 2 ∧
      ¬ ∀ (nowA : Bool) (cs : List EncoderCall),
        2 * counted nowA cs ≤ transitions nowA cs + 1 := by
  have htrans : transitions false straddlingPulse = 2 := by decide +kernel
  have hcounted : counted false straddlingPulse = 2 := by decide +kernel
  refine ⟨htrans, hcounted, fun h => ?_⟩
  have hboth := h false straddlingPulse
  rw [htrans, hcounted] at hboth
  exact absurd hboth (by decide)

end EncoderWindow
