import RemoteVehicle.UdsTrace

/-!
# Two reports of one speed

ACT reports its speed in the status frame and in data identifier 0x0100, both documented in
units of 0.01 km/h and computed by the same formula.  The second one multiplies by 100 once
more.

A value that is rounded and clamped to 16 bits agrees with its hundredfold only where both
are zero or both are clamped (`clampRound_hundred_iff`), which is what
`speed_reports_agree_iff` says about the two reports.
-/

namespace SpeedReport

open CanFrame ActSensors ActState ActUdsDiag ActCan ActLoop UdsFrame UdsAnswer UdsTrace

/-! ## Rounding to 16 bits -/

section ClampRound

variable {x y : ℚ}

/-- Below the last half the clamp does nothing. -/
theorem clampRound_of_lt (hx : 0 ≤ x) (hlt : x < 131069 / 2) :
    (clampRound x : ℤ) = ⌊x + 1 / 2⌋ := by
  have hfloor : 0 ≤ ⌊x + 1 / 2⌋ := Int.floor_nonneg.mpr (by linarith)
  have hneg : ¬ x < 0 := by linarith
  have hmax : ¬ 65535 < x := by linarith
  simp only [clampRound, if_neg hneg, if_neg hmax]
  exact Int.toNat_of_nonneg hfloor

/-- From the last half on the value is clamped. -/
theorem clampRound_of_le (hle : 131069 / 2 ≤ x) : clampRound x = 65535 := by
  have hneg : ¬ x < 0 := by linarith
  simp only [clampRound, if_neg hneg]
  have htop : ∀ y : ℚ, 131069 / 2 ≤ y → y ≤ 65535 → ⌊y + 1 / 2⌋.toNat = 65535 := by
    intro y hy hmax
    have hfloor : ⌊y + 1 / 2⌋ = 65535 := by
      rw [Int.floor_eq_iff]
      constructor
      · push_cast
        linarith
      · push_cast
        linarith
    rw [hfloor]
    rfl
  split
  · exact htop 65535 (by norm_num) le_rfl
  · rename_i hmax
    exact htop x hle (not_lt.mp hmax)

theorem clampRound_lt (hx : 0 ≤ x) (hlt : x < 131069 / 2) : clampRound x < 65535 := by
  have hfloor : ⌊x + 1 / 2⌋ < 65535 := by
    rw [Int.floor_lt]
    push_cast
    linarith
  have hround := clampRound_of_lt hx hlt
  omega

/-- A value that is larger by one is rounded to a larger one, unless it is clamped too. -/
theorem clampRound_lt_clampRound (hx : 0 ≤ x) (hlt : x < 131069 / 2) (hy : x + 1 ≤ y) :
    clampRound x < clampRound y := by
  rcases le_or_gt (131069 / 2) y with hclamp | hfree
  · rw [clampRound_of_le hclamp]
    exact clampRound_lt hx hlt
  · have hfloor : ⌊x + 1 / 2⌋ + 1 ≤ ⌊y + 1 / 2⌋ := by
      rw [← Int.floor_add_one]
      exact Int.floor_le_floor (by linarith)
    have hroundx := clampRound_of_lt hx hlt
    have hroundy := clampRound_of_lt (by linarith) hfree
    omega

/-- **A value and its hundredfold** are reported alike when both are zero or both are
    clamped. -/
theorem clampRound_hundred_iff (hx : x = 0 ∨ 1 / 99 ≤ x) :
    clampRound (x * 100) = clampRound x ↔ x = 0 ∨ 131069 / 2 ≤ x := by
  constructor
  · intro h
    rcases hx with hzero | hpos
    · exact Or.inl hzero
    · rcases le_or_gt (131069 / 2) x with hclamp | hfree
      · exact Or.inr hclamp
      · have hlt := clampRound_lt_clampRound (y := x * 100) (by linarith) hfree (by linarith)
        omega
  · rintro (rfl | hclamp)
    · rw [zero_mul]
    · rw [clampRound_of_le hclamp, clampRound_of_le (by linarith)]

end ClampRound

/-! ## The two reports -/

/-- The status frame with these values. -/
def statusFrame (speedKmhX100 : Nat) (gearState steeringState steeringAngleDeg : UInt8) :
    CanMessage :=
  fdMessage actStatusCanId actStatusCanDlcIfx
    [UInt8.ofNat (min speedKmhX100 65535), UInt8.ofNat (min speedKmhX100 65535 / 256),
      canCommLimitGearState gearState, canCommLimitSteeringState steeringState,
      steeringAngleDeg]

/-- A free buffer takes the status frame. -/
theorem sendActStatus_free (speedKmhX100 : Nat)
    (gearState steeringState steeringAngleDeg : UInt8) (s : Act) :
    (canCommSendActStatus false speedKmhX100 gearState steeringState steeringAngleDeg s).sent =
      s.sent ++ [(s.txBufferIndex,
        statusFrame speedKmhX100 gearState steeringState steeringAngleDeg)] := by
  have hmin : (if 65535 < speedKmhX100 then 65535 else speedKmhX100) = min speedKmhX100 65535 := by
    split <;> omega
  simp only [canCommSendActStatus, hmin, statusFrame, sendMessage]
  rfl

/-- The speed in a status frame, low byte first. -/
def statusSpeed (m : CanMessage) : Nat :=
  (byteAt (rxByte m) 0).toNat + 256 * (byteAt (rxByte m) 1).toNat

/-- The speed in a response to `22 01 00`, high byte first. -/
def didSpeed (resp : List UInt8) : Nat := 256 * (resp.getD 3 0).toNat + (resp.getD 4 0).toNat

/-- The status frame carries the clamped speed. -/
theorem statusSpeed_statusFrame (speedKmhX100 : Nat)
    (gearState steeringState steeringAngleDeg : UInt8) :
    statusSpeed (statusFrame speedKmhX100 gearState steeringState steeringAngleDeg) =
      min speedKmhX100 65535 := by
  rw [statusSpeed, statusFrame, rxByte_fdMessage]
  show (UInt8.ofNat _).toNat + 256 * (UInt8.ofNat _).toNat = _
  rw [UInt8.toNat_ofNat', UInt8.toNat_ofNat']
  omega

/-- The response to `22 01 00`. -/
def speedResponse (e : Encoder) : List UInt8 :=
  [0x62, 0x01, 0x00, UInt8.ofNat (udsDiagGetSpeedKmhX100 e / 256),
    UInt8.ofNat (udsDiagGetSpeedKmhX100 e)]

theorem clampRound_le (x : ℚ) : clampRound x ≤ 65535 := by
  rcases le_or_gt (131069 / 2) x with hclamp | hfree
  · exact (clampRound_of_le hclamp).le
  · rcases le_or_gt 0 x with hx | hx
    · exact (clampRound_lt hx hfree).le
    · have hzero : clampRound x = clampRound 0 := by
        have hmin : ¬ (65535 : ℚ) < 0 := by norm_num
        simp only [clampRound, if_pos hx, if_neg hmin, lt_irrefl, if_false]
      rw [hzero]
      exact (clampRound_lt le_rfl (by norm_num)).le

/-- The response carries the speed as it is computed. -/
theorem didSpeed_speedResponse (e : Encoder) :
    didSpeed (speedResponse e) = udsDiagGetSpeedKmhX100 e := by
  have hle : udsDiagGetSpeedKmhX100 e ≤ 65535 := clampRound_le _
  show 256 * (UInt8.ofNat _).toNat + (UInt8.ofNat _).toNat = _
  rw [UInt8.toNat_ofNat', UInt8.toNat_ofNat']
  omega

/-- The request is answered so in every state. -/
theorem actServe_speed (s : Act) :
    actServe false [0x22, 0x01, 0x00] s =
      udsDiagSendSingleFrame false (speedResponse s.encoder) s := by
  have hdid : ActUdsDiag.word16 0x01 0x00 = 0x0100 := by decide
  have hsid : ([0x22, 0x01, 0x00] : List UInt8).getD 0 0 = sidReadDataByIdentifier := rfl
  rw [actServe_sid hsid, if_neg (by decide), if_pos rfl]
  simp only [udsDiagHandleReadDID, List.length_cons, List.length_nil, List.getD_cons_succ,
    List.getD_cons_zero, hdid]
  rfl

theorem actResponses_speed (s : Act) :
    actResponses (actServe false [0x22, 0x01, 0x00] s) =
      actResponses s ++ [speedResponse s.encoder] := by
  have hlen : (speedResponse s.encoder).length = 5 := rfl
  rw [actServe_speed, actResponses_send (by omega) (by omega)]

/-- A rate in units of 0.01 km/h is zero, or not too close to it. -/
theorem speed_pos (pulsePerSecond : UInt32) :
    speedKmh pulsePerSecond * 100 = 0 ∨ 1 / 99 ≤ speedKmh pulsePerSecond * 100 := by
  rcases Nat.eq_zero_or_pos pulsePerSecond.toNat with hzero | hpos
  · left
    rw [speedKmh, hzero]
    norm_num
  · right
    have hone : (1 : ℚ) ≤ pulsePerSecond.toNat := by exact_mod_cast hpos
    rw [speedKmh]
    linarith

/-- **The two reports agree** exactly when the wheel stands still, or when both are clamped:
    from 882551 pulses a second on.  Whatever else the status frame carries. -/
theorem speed_reports_agree_iff (s : Act) (gearState steeringState steeringAngleDeg : UInt8) :
    ∃ resp buffer m,
      actResponses (actServe false [0x22, 0x01, 0x00] s) = actResponses s ++ [resp] ∧
      (canCommSendActStatus false (appConvertPulsePerSecondToKmhX100 s.encoder.pulsePerSecond)
        gearState steeringState steeringAngleDeg s).sent = s.sent ++ [(buffer, m)] ∧
      (didSpeed resp = statusSpeed m ↔
        s.encoder.pulsePerSecond = 0 ∨ 882551 ≤ s.encoder.pulsePerSecond) := by
  refine ⟨_, _, _, actResponses_speed s, sendActStatus_free _ _ _ _ s, ?_⟩
  have hle : appConvertPulsePerSecondToKmhX100 s.encoder.pulsePerSecond ≤ 65535 := clampRound_le _
  rw [didSpeed_speedResponse, statusSpeed_statusFrame, min_eq_left hle, udsDiagGetSpeedKmhX100,
    appConvertPulsePerSecondToKmhX100, clampRound_hundred_iff (speed_pos _)]
  have hzero : speedKmh s.encoder.pulsePerSecond * 100 = 0 ↔
      s.encoder.pulsePerSecond.toNat = 0 := by
    constructor
    · intro h
      have h : (s.encoder.pulsePerSecond.toNat : ℚ) = 0 := by
        rw [speedKmh] at h
        linarith
      exact_mod_cast h
    · intro h
      rw [speedKmh, h]
      norm_num
  -- from this count on both reports are the largest value
  have hclamp : 131069 / 2 ≤ speedKmh s.encoder.pulsePerSecond * 100 ↔
      882551 ≤ s.encoder.pulsePerSecond.toNat := by
    constructor
    · intro h
      by_contra hlt
      have hlt : (s.encoder.pulsePerSecond.toNat : ℚ) ≤ 882550 := by
        exact_mod_cast Nat.lt_succ_iff.mp (not_le.mp hlt)
      rw [speedKmh] at h
      linarith
    · intro h
      have h : (882551 : ℚ) ≤ s.encoder.pulsePerSecond.toNat := by exact_mod_cast h
      rw [speedKmh]
      linarith
  rw [hzero, hclamp, ← UInt32.toNat_inj, UInt32.le_iff_toNat_le]
  rfl

/-- An ECU whose wheel gives 100 pulses a second. -/
def rolling : Act :=
  let s := (actReset restReset).act
  { s with encoder := { s.encoder with pulsePerSecond := 100 } }

/-- **At 100 pulses a second** the status frame says 0.07 km/h and the response 7.43 km/h. -/
theorem speed_reports_differ :
    (∃ resp, actResponses (actServe false [0x22, 0x01, 0x00] rolling) = [resp] ∧
      didSpeed resp = 743) ∧
    (∃ buffer m, (canCommSendActStatus false
        (appConvertPulsePerSecondToKmhX100 rolling.encoder.pulsePerSecond) 0 1 90 rolling).sent =
      [(buffer, m)] ∧ statusSpeed m = 7) := by
  have hdid : udsDiagGetSpeedKmhX100 rolling.encoder = 743 := by decide +kernel
  have hstatus : appConvertPulsePerSecondToKmhX100 rolling.encoder.pulsePerSecond = 7 := by
    decide +kernel
  refine ⟨⟨_, actResponses_speed rolling, ?_⟩, ⟨_, _, sendActStatus_free _ 0 1 90 rolling, ?_⟩⟩
  · rw [didSpeed_speedResponse, hdid]
  · rw [statusSpeed_statusFrame, hstatus]
    rfl

end SpeedReport
