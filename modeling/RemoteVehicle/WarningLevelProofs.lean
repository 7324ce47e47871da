import RemoteVehicle.BodyControl
import RemoteVehicle.Hysteresis

/-!
# The warning level does not chatter

`BodyControl_ComputeCollisionWarningLevel` is written as a table of thresholds for each level.
`computeLevel_eq` says that it is a hysteresis: a distance raises the level to the one whose
entering threshold it is below, and lowers it to the one whose leaving threshold it is below.
The two thresholds of a level are 10 cm apart (`raise_le_lower`), so distances that are closer
together than that only raise or only lower the level.
-/

namespace WarningLevel

open BodyControl Hysteresis

/-! ## The two thresholds of a level -/

/-- The level that a distance raises a lower level to. -/
def enterLevel (cm : Nat) : Fin 4 :=
  if cm ≤ collisionWarningStage3Cm - collisionWarningHysteresisCm then 3
  else if cm ≤ collisionWarningStage2Cm - collisionWarningHysteresisCm then 2
  else if cm ≤ collisionWarningStage1Cm - collisionWarningHysteresisCm then 1
  else 0

/-- The level that a distance lowers a higher level to. -/
def exitLevel (cm : Nat) : Fin 4 :=
  if collisionWarningStage1Cm + collisionWarningHysteresisCm ≤ cm then 0
  else if collisionWarningStage2Cm + collisionWarningHysteresisCm ≤ cm then 1
  else if collisionWarningStage3Cm + collisionWarningHysteresisCm ≤ cm then 2
  else 3

theorem enterLevel_eq (cm : Nat) :
    enterLevel cm = if cm ≤ 5 then 3 else if cm ≤ 15 then 2 else if cm ≤ 25 then 1 else 0 := rfl

theorem exitLevel_eq (cm : Nat) :
    exitLevel cm = if 35 ≤ cm then 0 else if 25 ≤ cm then 1 else if 15 ≤ cm then 2 else 3 := rfl

/-- **The thresholds of a level are 10 cm apart.** -/
theorem enter_le_exit {d e : Nat} (h : e < d + 10) : enterLevel d ≤ exitLevel e := by
  rw [enterLevel_eq, exitLevel_eq]
  split_ifs <;> omega

theorem enterLevel_anti {d e : Nat} (h : d ≤ e) : enterLevel e ≤ enterLevel d := by
  rw [enterLevel_eq, enterLevel_eq]
  split_ifs <;> omega

theorem exitLevel_anti {d e : Nat} (h : d ≤ e) : exitLevel e ≤ exitLevel d := by
  rw [exitLevel_eq, exitLevel_eq]
  split_ifs <;> omega

/-- The hysteresis of the warning level. -/
def warningBand : Band Nat (Fin 4) where
  raise := enterLevel
  lower := exitLevel
  raise_le_lower := fun _ => enter_le_exit (Nat.lt_add_of_pos_right (by decide))

/-- **The table is the hysteresis.** -/
theorem computeLevel_eq (level : Fin 4) (cm : Nat) :
    computeCollisionWarningLevel level cm true = warningBand.step level cm := by
  have hstep : warningBand.step level cm = max (enterLevel cm) (min level (exitLevel cm)) := rfl
  rw [hstep, enterLevel_eq, exitLevel_eq]
  fin_cases level
  · have htable : computeCollisionWarningLevel 0 cm true =
        if cm ≤ 5 then 3 else if cm ≤ 15 then 2 else if cm ≤ 25 then 1 else 0 := rfl
    refine htable.trans ?_
    split_ifs <;> first | omega | decide
  · have htable : computeCollisionWarningLevel 1 cm true =
        if cm ≤ 5 then 3 else if cm ≤ 15 then 2 else if 35 ≤ cm then 0 else 1 := rfl
    refine htable.trans ?_
    split_ifs <;> first | omega | decide
  · have htable : computeCollisionWarningLevel 2 cm true =
        if cm ≤ 5 then 3 else if 35 ≤ cm then 0 else if 25 ≤ cm then 1 else 2 := rfl
    refine htable.trans ?_
    split_ifs <;> first | omega | decide
  · have htable : computeCollisionWarningLevel 3 cm true =
        if 35 ≤ cm then 0 else if 25 ≤ cm then 1 else if 15 ≤ cm then 2 else 3 := rfl
    refine htable.trans ?_
    split_ifs <;> first | omega | decide

/-! ## Sequences of distances -/

/-- The levels that follow a level, along the distances measured, the first one included. -/
def warningLevels (level : Fin 4) (distances : List Nat) : List (Fin 4) :=
  distances.scanl (fun l cm => computeCollisionWarningLevel l cm true) level

theorem warningLevels_eq (level : Fin 4) (distances : List Nat) :
    warningLevels level distances = warningBand.levels level distances := by
  have hstep : (fun l cm => computeCollisionWarningLevel l cm true) = warningBand.step := by
    ext l cm
    rw [computeLevel_eq]
  rw [warningLevels, hstep, Band.levels]

theorem steady_of_narrow {distances : List Nat}
    (h : ∀ d ∈ distances, ∀ e ∈ distances, e < d + 10) : warningBand.Steady distances :=
  fun d hd e he => enter_le_exit (h d hd e he)

/-- **The warning level has hysteresis.**  Along distances that are less than 10 cm apart it
    only rises or only falls; a distance that stays the same changes it at the first update
    only; and a greater distance never gives a higher level. -/
theorem level_hysteresis (level : Fin 4) :
    (∀ distances : List Nat, (∀ d ∈ distances, ∀ e ∈ distances, e < d + 10) →
      (warningLevels level distances).Pairwise (· ≤ ·) ∨
        (warningLevels level distances).Pairwise (· ≥ ·)) ∧
    (∀ cm n, warningLevels level (List.replicate (n + 1) cm) =
      level :: List.replicate (n + 1) (computeCollisionWarningLevel level cm true)) ∧
    ∀ d e, d ≤ e →
      computeCollisionWarningLevel level e true ≤ computeCollisionWarningLevel level d true := by
  refine ⟨?_, ?_, ?_⟩
  · intro distances hnarrow
    rw [warningLevels_eq]
    exact levels_steady (steady_of_narrow hnarrow)
  · intro cm n
    rw [warningLevels_eq, computeLevel_eq, List.replicate_succ, levels_cons, levels_const]
  · intro d e hde
    rw [computeLevel_eq, computeLevel_eq]
    exact step_mono (enterLevel_anti hde) (exitLevel_anti hde)

/-- Distances around 30 cm, while a warning of level 1 is on and while there is none. -/
theorem levels_near_30 :
    ((warningLevels 1 [26, 34, 30, 33]).Pairwise (· ≤ ·) ∨
      (warningLevels 1 [26, 34, 30, 33]).Pairwise (· ≥ ·)) ∧
    computeCollisionWarningLevel 0 30 true ≤ computeCollisionWarningLevel 0 25 true :=
  ⟨(level_hysteresis 1).1 [26, 34, 30, 33] (by decide),
    (level_hysteresis 0).2.2 25 30 (by decide)⟩

end WarningLevel
