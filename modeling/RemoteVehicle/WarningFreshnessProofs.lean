import RemoteVehicle.BodyWarning
import RemoteVehicle.BodySpec

/-!
# Warnings are never stale

The sensor measures every 61 updates and a distance is held for 300.  The two timers run on
their own, and the level is looked at again only when a measurement is due; so the last
measurement that succeeded may be a little older than 300 updates when the level goes.

`Fresh k` is the state of the timers `k` updates after that measurement.  The diagnostic
routine and the check of the trouble code rewrite the distance, but neither a timer nor the
level.
-/

namespace WarningFreshness

open Runs BodyState BodyControl BodyCalls BodyWarning BodySpec

/-! ## The last measurement -/

/-- A periodic measurement succeeded, and `k` updates followed. -/
def MeasuredAgo (inp : BodyInputs) (cs : List ControlCall) (k : Nat) : Prop :=
  ∃ es now fs, cs = es ++ .update1ms now :: fs ∧ Measured now (controlRun inp es) ∧
    updates fs = k

theorem measuredAgo_snoc {inp : BodyInputs} {cs : List ControlCall} {k : Nat}
    (h : MeasuredAgo inp cs k) (c : ControlCall) :
    MeasuredAgo inp (cs ++ [c]) (k + updates [c]) := by
  obtain ⟨es, now, fs, rfl, hmeasured, rfl⟩ := h
  refine ⟨es, now, fs ++ [c], ?_, hmeasured, List.countP_append⟩
  rw [List.append_assoc, List.cons_append]

theorem measuredAgo_now {inp now : BodyInputs} {cs : List ControlCall}
    (h : Measured now (controlRun inp cs)) : MeasuredAgo inp (cs ++ [.update1ms now]) 0 :=
  ⟨cs, now, [], rfl, h, rfl⟩

/-! ## The timers -/

/-- The warning `k` updates after the last measurement that succeeded. -/
structure Fresh (k : Nat) (s : BodyControlState) : Prop where
  lampOn : s.requests.collisionWarningLampOn = true
  hold : s.ultrasonic.validHoldTimerMs = ultrasonicValidHoldMs - k
  timer : s.ultrasonic.measureTimerMs = k % (ultrasonicMeasurePeriodMs + 1)
  recent : k ≤ 304

/-- There is a level, or a distance that is held. -/
def Warned (s : BodyControlState) : Prop :=
  s.sound.level ≠ 0 ∨ s.ultrasonic.validHoldTimerMs ≠ 0

/-- **One update**: a measurement succeeds, or the last one that did is one update older, or
    the warning is gone. -/
theorem fresh_update {s : BodyControlState} {now : BodyInputs} {k : Nat}
    (hs : Warned s → Fresh k s) (hafter : Warned (update1ms now s)) :
    Measured now s ∧ Fresh 0 (update1ms now s) ∨
      Warned s ∧ Fresh (k + 1) (update1ms now s) := by
  obtain ⟨hlamp, htimer, hhold, hlevel⟩ := update_sensor now s
  rw [Warned, hlevel, hhold] at hafter
  obtain ⟨_, hnone, hzero⟩ | ⟨hon, _, hless, hwait | hfail⟩ | ⟨hok, hstart, hfull⟩ :=
    sensed_cases now s
  · exact absurd hzero (hafter.resolve_left (not_not.mpr hnone))
  · obtain ⟨hroom, hnext, hsame⟩ := hwait
    have hwarned : Warned s := by
      obtain hsome | hheld := hafter
      · exact .inl (hsame ▸ hsome)
      · refine .inr fun hgone => hheld ?_
        rw [hless, hgone]
    obtain ⟨_, hh, ht, hk⟩ := hs hwarned
    rw [ultrasonicMeasurePeriodMs] at ht hroom
    refine .inr ⟨hwarned, hlamp.trans hon, ?_, ?_, by omega⟩
    · rw [hhold, hless, hh]
      omega
    · rw [htimer, hnext, ht, ultrasonicMeasurePeriodMs]
      omega
  · obtain ⟨hdue, hnext, hgone⟩ := hfail
    -- A level survives the failure only while a distance is held.
    have hheld : s.ultrasonic.validHoldTimerMs - 1 ≠ 0 := by
      obtain hsome | hheld := hafter
      · exact fun h => hsome (hgone h)
      · exact hless ▸ hheld
    have hwarned : Warned s := .inr (by omega)
    obtain ⟨_, hh, ht, hk⟩ := hs hwarned
    rw [ultrasonicMeasurePeriodMs] at ht hdue
    rw [ultrasonicValidHoldMs] at hh
    refine .inr ⟨hwarned, hlamp.trans hon, ?_, ?_, by omega⟩
    · rw [hhold, hless, hh, ultrasonicValidHoldMs]
      omega
    · rw [htimer, hnext, ultrasonicMeasurePeriodMs]
      omega
  · exact .inl ⟨hok, hlamp.trans hok.1, hhold.trans hfull, htimer.trans hstart, Nat.zero_le _⟩

/-- A call between two updates keeps the warning or switches it off. -/
theorem fresh_between {s : BodyControlState} {c : ControlCall} {k : Nat}
    (hc : c.isUpdate = false) (hs : Warned s → Fresh k s) (hafter : Warned (controlStep s c)) :
    Warned s ∧ Fresh k (controlStep s c) := by
  obtain ⟨hreset, hzero⟩ | ⟨hsound, hhold, hlamp⟩ := between_updates s hc
  · rw [Warned, hreset, hzero] at hafter
    exact absurd rfl (hafter.resolve_left (not_not.mpr rfl))
  · rw [Warned, hsound, hhold] at hafter
    obtain ⟨hon, hh, ht, hk⟩ := hs hafter
    obtain hoff | ⟨hsame, htimer⟩ := hlamp
    · exact absurd (hoff.symm.trans hon) Bool.false_ne_true
    · exact ⟨hafter, hsame.trans hon, hhold.trans hh, htimer.trans ht, hk⟩

/-- **Every run**: as long as there is a warning, the last measurement that succeeded is as
    recent as the timers say. -/
theorem fresh_run (inp : BodyInputs) (cs : List ControlCall) (h : Warned (controlRun inp cs)) :
    ∃ k, MeasuredAgo inp cs k ∧ Fresh k (controlRun inp cs) := by
  induction cs using List.reverseRecOn with
  | nil =>
      obtain hsome | hheld := h
      · exact absurd rfl hsome
      · exact absurd rfl hheld
  | append_singleton cs c ih =>
      have hsnoc : controlRun inp (cs ++ [c]) = controlStep (controlRun inp cs) c :=
        run_snoc controlStep (init inp) cs c
      rw [hsnoc] at h ⊢
      -- The number of updates since the last measurement, whatever it is without a warning.
      obtain ⟨k, hk⟩ : ∃ k, Warned (controlRun inp cs) →
          MeasuredAgo inp cs k ∧ Fresh k (controlRun inp cs) := by
        by_cases hbefore : Warned (controlRun inp cs)
        · obtain ⟨k, hk⟩ := ih hbefore
          exact ⟨k, fun _ => hk⟩
        · exact ⟨0, fun hwarned => absurd hwarned hbefore⟩
      by_cases hupdate : c.isUpdate = true
      · cases c with
        | update1ms now =>
            obtain ⟨hmeasured, hfresh⟩ | ⟨hbefore, hfresh⟩ := fresh_update (fun h => (hk h).2) h
            · exact ⟨0, measuredAgo_now hmeasured, hfresh⟩
            · exact ⟨k + 1, measuredAgo_snoc (hk hbefore).1 _, hfresh⟩
        | _ => exact absurd hupdate Bool.false_ne_true
      · have hother := (Bool.not_eq_true _).mp hupdate
        obtain ⟨hbefore, hfresh⟩ := fresh_between hother (fun h => (hk h).2) h
        have hnone : updates [c] = 0 := by
          rw [updates, List.countP_singleton, hother]
          rfl
        have hago := measuredAgo_snoc (hk hbefore).1 c
        rw [hnone] at hago
        exact ⟨k, hago, hfresh⟩

/-- **Warnings are never stale.**  After any run, a level other than 0 means that the warning
    is enabled, and that the sensor measured successfully in the last update or in one of the
    304 before it. -/
theorem warning_fresh (inp : BodyInputs) (cs : List ControlCall)
    (h : (controlRun inp cs).sound.level ≠ 0) :
    (controlRun inp cs).requests.collisionWarningLampOn = true ∧
      ∃ es now fs, cs = es ++ .update1ms now :: fs ∧ Measured now (controlRun inp es) ∧
        updates fs ≤ 304 := by
  obtain ⟨k, ⟨es, now, fs, hcs, hmeasured, rfl⟩, hfresh⟩ := fresh_run inp cs (.inl h)
  exact ⟨hfresh.lampOn, es, now, fs, hcs, hmeasured, hfresh.recent⟩

/-- An obstacle 20 cm away. -/
def obstacle : BodyInputs := { restBodyInputs with periodicEcho := ⟨0, 100, 1160⟩ }

/-- A level appears with the first measurement, and is still there 60 updates later although
    no measurement has succeeded since. -/
theorem obstacle_fresh :
    (controlRun restBodyInputs ([.setCollisionWarningLamp true, .update1ms obstacle] ++
        List.replicate 60 (.update1ms restBodyInputs))).requests.collisionWarningLampOn = true ∧
      ∃ es now fs, [.setCollisionWarningLamp true, .update1ms obstacle] ++
        List.replicate 60 (.update1ms restBodyInputs) = es ++ .update1ms now :: fs ∧
        Measured now (controlRun restBodyInputs es) ∧ updates fs ≤ 304 := by
  refine warning_fresh restBodyInputs _ ?_
  decide +kernel

end WarningFreshness
