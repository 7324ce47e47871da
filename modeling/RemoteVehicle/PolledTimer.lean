import RemoteVehicle.TickClock

/-!
# A timer that is polled

A component keeps the stamp of the last time it was due, and at every poll compares it with the
counter: when the period has passed it notes the time and does its work.  `Timer` names the four
things this needs, `Obeyed` what a step must do with the stamp.

When polls are never more than `gap` apart, the times at which the timer fires are at least the
period and less than the period and `gap` apart (`firings_run`), for ever: the counter may wrap as
often as it likes, as long as it does not wrap between two firings.
-/

namespace PolledTimer

open Runs TickClock

variable {S E : Type}

structure Timer (S E : Type) where
  period : UInt32
  time : E → Nat
  polls : E → Bool
  last : S → UInt32

/-- The event is a poll that finds the period over. -/
def Timer.fires (T : Timer S E) (s : S) (e : E) : Bool :=
  T.polls e && decide (T.period ≤ stamp (T.time e) - T.last s)

/-- The stamp is renewed when the timer fires, and only then. -/
structure Timer.Obeyed (T : Timer S E) (step : S → E → S) : Prop where
  keeps : ∀ s e, T.fires s e = false → T.last (step s e) = T.last s
  restarts : ∀ s e, T.fires s e = true → T.last (step s e) = stamp (T.time e)

/-- The times of the last event and of the last poll. -/
structure Clock where
  now : Nat
  polled : Nat
deriving DecidableEq, Repr

def Timer.tick (T : Timer S E) (w : Clock) (e : E) : Clock :=
  ⟨T.time e, if T.polls e then T.time e else w.polled⟩

/-- Time does not go back, and nothing happens later than `gap` after a poll. -/
def Timer.Regular (T : Timer S E) (gap : Nat) (w : Clock) (es : List E) : Prop :=
  AllSteps T.tick (fun w e => w.now ≤ T.time e ∧ T.time e ≤ w.polled + gap) w es

instance (T : Timer S E) (gap : Nat) (w : Clock) (es : List E) :
    Decidable (T.Regular gap w es) :=
  inferInstanceAs (Decidable (AllSteps _ _ _ _))

/-- The time of an event at which the timer fires. -/
def Timer.fired (T : Timer S E) (s : S) (e : E) : List Nat :=
  if T.fires s e then [T.time e] else []

/-- When the timer fires in a run. -/
def Timer.firings (T : Timer S E) (step : S → E → S) (s : S) (es : List E) : List Nat :=
  trace step T.fired s es

/-- A period, and at most a gap on top. -/
def Next (period gap a b : Nat) : Prop := a + period ≤ b ∧ b < a + period + gap

instance (period gap a b : Nat) : Decidable (Next period gap a b) :=
  inferInstanceAs (Decidable (_ ∧ _))

/-- Times from zero on that follow each other so, the last of them recent. -/
def Paced (period gap now : Nat) (times : List Nat) : Prop :=
  List.IsChain (Next period gap) (0 :: times) ∧ now < (0 :: times).getLastD 0 + period + gap

section Step

variable {T : Timer S E} {step : S → E → S} {s : S} {e : E} {w : Clock} {gap t : Nat}

/-- The stamp is that of time `t`, and the last poll came before the period was over. -/
structure Timer.Set (T : Timer S E) (gap t : Nat) (s : S) (w : Clock) : Prop where
  stamped : T.last s = stamp t
  begun : t ≤ w.polled
  early : w.polled < t + T.period.toNat
  polled : w.polled ≤ w.now
  recent : w.now ≤ w.polled + gap

/-- **A poll fires** exactly when the period is over. -/
theorem fires_iff (hgap : T.period.toNat + gap ≤ 2 ^ 32) (h : T.Set gap t s w)
    (hnow : w.now ≤ T.time e) (hlate : T.time e ≤ w.polled + gap) :
    T.fires s e = true ↔ T.polls e = true ∧ t + T.period.toNat ≤ T.time e := by
  have hbegun := h.begun
  have hearly := h.early
  have hpolled := h.polled
  rw [Timer.fires, Bool.and_eq_true, decide_eq_true_iff, h.stamped,
    le_sub_stamp_iff (by omega) (by omega)]
  refine and_congr_right fun _ => ?_
  omega

/-- **Step lemma.**  The timer fires in time, or the period is not over. -/
theorem set_step (hobey : T.Obeyed step) (hgap : T.period.toNat + gap ≤ 2 ^ 32)
    (hperiod : 0 < T.period.toNat) (h : T.Set gap t s w) (hnow : w.now ≤ T.time e)
    (hlate : T.time e ≤ w.polled + gap) :
    (T.fired s e = [] ∧ T.Set gap t (step s e) (T.tick w e)) ∨
      (T.fired s e = [T.time e] ∧ Next T.period.toNat gap t (T.time e) ∧
        T.Set gap (T.time e) (step s e) (T.tick w e)) := by
  have hfires := fires_iff hgap h hnow hlate
  have hbegun := h.begun
  have hearly := h.early
  have hpolled := h.polled
  cases hf : T.fires s e with
  | true =>
      obtain ⟨hpoll, hdue⟩ := hfires.mp hf
      have hclock : T.tick w e = ⟨T.time e, T.time e⟩ := by rw [Timer.tick, if_pos hpoll]
      refine Or.inr ⟨if_pos hf, ⟨hdue, by omega⟩, ?_⟩
      rw [hclock]
      exact ⟨hobey.restarts s e hf, Nat.le_refl _, Nat.lt_add_of_pos_right hperiod, Nat.le_refl _,
        Nat.le_add_right _ _⟩
  | false =>
      have hkeeps := (hobey.keeps s e hf).trans h.stamped
      refine Or.inl ⟨if_neg (Bool.eq_false_iff.mp hf), ?_⟩
      by_cases hpoll : T.polls e = true
      · have hclock : T.tick w e = ⟨T.time e, T.time e⟩ := by rw [Timer.tick, if_pos hpoll]
        have hopen : ¬ t + T.period.toNat ≤ T.time e := by
          intro hdue
          rw [hfires.mpr ⟨hpoll, hdue⟩] at hf
          cases hf
        rw [hclock]
        refine ⟨hkeeps, ?_, ?_, Nat.le_refl _, Nat.le_add_right _ _⟩
        · show t ≤ T.time e
          omega
        · show T.time e < t + T.period.toNat
          omega
      · have hclock : T.tick w e = ⟨T.time e, w.polled⟩ := by rw [Timer.tick, if_neg hpoll]
        rw [hclock]
        refine ⟨hkeeps, hbegun, hearly, ?_, hlate⟩
        show w.polled ≤ T.time e
        omega

/-- **Run lemma.**  Firings follow each other by the period and less than a gap more, and the
    last one is no longer ago than that. -/
theorem firings_run (hobey : T.Obeyed step) (hgap : T.period.toNat + gap ≤ 2 ^ 32)
    (hperiod : 0 < T.period.toNat) (h : T.Set gap t s w) {es : List E}
    (hes : T.Regular gap w es) :
    List.IsChain (Next T.period.toNat gap) (t :: T.firings step s es) ∧
      (run T.tick w es).now < (t :: T.firings step s es).getLastD 0 + T.period.toNat + gap := by
  induction es generalizing s w t with
  | nil =>
      refine ⟨List.isChain_singleton _, ?_⟩
      show w.now < t + T.period.toNat + gap
      have hearly := h.early
      have hrecent := h.recent
      omega
  | cons e es ih =>
      obtain ⟨⟨hnow, hlate⟩, hrest⟩ := hes
      rcases set_step hobey hgap hperiod h hnow hlate with ⟨hfired, hset⟩ | ⟨hfired, hnext, hset⟩
      · have htail : T.firings step s (e :: es) = T.firings step (step s e) es := by
          rw [Timer.firings, trace_cons, hfired]
          rfl
        rw [htail]
        exact ih hset hrest
      · have htail : T.firings step s (e :: es) = T.time e :: T.firings step (step s e) es := by
          rw [Timer.firings, trace_cons, hfired]
          rfl
        obtain ⟨hchain, hfresh⟩ := ih hset hrest
        rw [htail]
        exact ⟨List.isChain_cons_cons.mpr ⟨hnext, hchain⟩, hfresh⟩

/-- The clock shows the time of the last event. -/
theorem now_run (T : Timer S E) (w : Clock) (es : List E) :
    (run T.tick w es).now = (es.map T.time).getLastD w.now := by
  induction es generalizing w with
  | nil => rfl
  | cons e es ih =>
      rw [run_cons, ih, List.map_cons, List.getLastD_cons]
      rfl

/-- What is done at the firings, with the time of each. -/
theorem trace_times {O : Type} {f : S → E → List (Nat × O)} {es : List E}
    (hf : ∀ s, ∀ e ∈ es, (f s e).map Prod.fst = T.fired s e) (s : S) :
    (trace step f s es).map Prod.fst = T.firings step s es := by
  induction es generalizing s with
  | nil => rfl
  | cons e es ih =>
      have hhead := hf s e List.mem_cons_self
      have htail := ih (fun s e he => hf s e (List.mem_cons_of_mem _ he)) (step s e)
      rw [Timer.firings, trace_cons, trace_cons, List.map_append, hhead, htail]
      rfl

end Step

end PolledTimer
