import Mathlib.Tactic

/-!
# Beats of a loop that waits

A loop sends a beat every so many passes, counts passes instead of time, and may wait at
several places of a pass for very different times.  Its log lists the waits and the beats.

1. **The gauge** cuts a log at its beats; a `Window` is two consecutive beats with the
   waits between them.

2. **Exact logs.**  If every beat shows the time of the waits before it and comes after the
   right number of laps, then every window is as long as its waits, and has that many laps.

3. **Slack.**  When all laps take the same time, a window is shorter than a limit exactly
   when its other waits stay below what the laps leave.
-/

namespace BeatGauge

variable {W : Type}

/-! ## Windows -/

/-- An entry of a log. -/
inductive Entry (W : Type) where
  | wait (w : W)
  | beat (time : Nat)
deriving DecidableEq, Repr

/-- Two consecutive beats, and the waits between them. -/
structure Window (W : Type) where
  start : Nat
  waits : List W
  stop : Nat
deriving DecidableEq, Repr

/-- The last beat with the waits since, and the windows so far. -/
structure Gauge (W : Type) where
  opened : Option (Nat × List W)
  closed : List (Window W)

/-- Nothing is measured before the first beat. -/
def Gauge.start : Gauge W := ⟨none, []⟩

def Gauge.step (g : Gauge W) : Entry W → Gauge W
  | .wait w => { g with opened := g.opened.map fun p => (p.1, p.2 ++ [w]) }
  | .beat time =>
      { opened := some (time, [])
        closed := g.closed ++ (g.opened.map fun p => ⟨p.1, p.2, time⟩).toList }

def gauge (log : List (Entry W)) : Gauge W := log.foldl Gauge.step Gauge.start

theorem gauge_append (log more : List (Entry W)) :
    gauge (log ++ more) = more.foldl Gauge.step (gauge log) := List.foldl_append

/-- The pairs of consecutive beats. -/
def windows (log : List (Entry W)) : List (Window W) := (gauge log).closed

/-! ## Exact logs -/

/-- How long a wait takes, which waits end a lap, and after how many laps a beat is due. -/
structure Rate (W : Type) where
  dur : W → Nat
  isLap : W → Bool
  lapsPerBeat : Nat

def Rate.total (r : Rate W) (ws : List W) : Nat := (ws.map r.dur).sum

def Rate.laps (r : Rate W) (ws : List W) : Nat := ws.countP r.isLap

variable {r : Rate W} {g : Gauge W} {now n : Nat}

theorem total_snoc (r : Rate W) (ws : List W) (w : W) :
    r.total (ws ++ [w]) = r.total ws + r.dur w := by
  simp [Rate.total]

theorem laps_snoc (r : Rate W) (ws : List W) (w : W) :
    r.laps (ws ++ [w]) = r.laps ws + r.laps [w] := List.countP_append

/-- The gauge is right at the time `now`, `n` laps after the last beat. -/
structure Exact (r : Rate W) (g : Gauge W) (now n : Nat) : Prop where
  opened : ∀ p, g.opened = some p → now = p.1 + r.total p.2 ∧ r.laps p.2 = n
  closed : ∀ w ∈ g.closed, w.stop = w.start + r.total w.waits ∧ r.laps w.waits = r.lapsPerBeat

theorem exact_start (r : Rate W) (now n : Nat) : Exact r Gauge.start now n := by
  constructor
  · intro p hp
    cases hp
  · intro w hw
    cases hw

/-- A wait takes its time. -/
theorem exact_wait (h : Exact r g now n) (w : W) :
    Exact r (g.step (.wait w)) (now + r.dur w) (n + r.laps [w]) := by
  refine ⟨?_, h.closed⟩
  intro p hp
  obtain ⟨q, hq, rfl⟩ := Option.map_eq_some_iff.mp hp
  obtain ⟨hnow, hlaps⟩ := h.opened q hq
  constructor
  · rw [total_snoc, hnow, Nat.add_assoc]
  · rw [laps_snoc, hlaps]

/-- So do several waits in a row. -/
theorem exact_waits (h : Exact r g now n) (ws : List W) :
    Exact r ((ws.map Entry.wait).foldl Gauge.step g) (now + r.total ws) (n + r.laps ws) := by
  induction ws generalizing g now n with
  | nil => exact h
  | cons w ws ih =>
      have hrest := ih (exact_wait h w)
      have htotal : r.total (w :: ws) = r.dur w + r.total ws := List.sum_cons
      have hlaps : r.laps ([w] ++ ws) = r.laps [w] + r.laps ws := List.countP_append
      rw [← List.singleton_append, hlaps, List.singleton_append, htotal, ← Nat.add_assoc,
        ← Nat.add_assoc]
      exact hrest

/-- A beat after the right number of laps closes a window. -/
theorem exact_beat (h : Exact r g now r.lapsPerBeat) : Exact r (g.step (.beat now)) now 0 := by
  constructor
  · intro p hp
    obtain rfl := Option.some.inj hp
    exact ⟨rfl, rfl⟩
  · intro w hw
    rcases List.mem_append.mp hw with hw | hw
    · exact h.closed w hw
    · obtain ⟨p, hp, rfl⟩ := Option.map_eq_some_iff.mp (Option.mem_toList.mp hw)
      exact h.opened p hp

/-! ## Slack -/

/-- The waits that end no lap. -/
def Rate.extra (r : Rate W) (ws : List W) : Nat := r.total (ws.filter fun w => !r.isLap w)

/-- Laps of one length, and the rest. -/
theorem total_eq {lap : Nat} (hlap : ∀ w, r.isLap w = true → r.dur w = lap) (ws : List W) :
    r.total ws = lap * r.laps ws + r.extra ws := by
  induction ws with
  | nil => rfl
  | cons w ws ih =>
      have htotal : r.total (w :: ws) = r.dur w + r.total ws := List.sum_cons
      rw [htotal, ih]
      cases hw : r.isLap w with
      | true =>
          have hlaps : r.laps (w :: ws) = r.laps ws + 1 := List.countP_cons_of_pos hw
          have hextra : r.extra (w :: ws) = r.extra ws :=
            congrArg r.total (List.filter_cons_of_neg (by simp [hw]))
          rw [hlaps, hextra, hlap w hw, Nat.mul_succ]
          omega
      | false =>
          have hlaps : r.laps (w :: ws) = r.laps ws := List.countP_cons_of_neg (by simp [hw])
          have hextra : r.extra (w :: ws) = r.dur w + r.extra ws :=
            (congrArg r.total (List.filter_cons_of_pos (by simp [hw]))).trans List.sum_cons
          rw [hlaps, hextra]
          omega

/-- **A window is short enough** exactly when the laps leave room for its other waits. -/
theorem window_lt_iff {lap limit slack : Nat} (hlap : ∀ w, r.isLap w = true → r.dur w = lap)
    (hslack : limit = lap * r.lapsPerBeat + slack) (h : Exact r g now n) {w : Window W}
    (hw : w ∈ g.closed) : w.stop - w.start < limit ↔ r.extra w.waits < slack := by
  obtain ⟨hstop, hlaps⟩ := h.closed w hw
  rw [hstop, Nat.add_sub_cancel_left, total_eq hlap, hlaps, hslack]
  omega

end BeatGauge
