import Mathlib.Tactic

/-!
# Bytes in 32-bit words — little-endian packing

A message buffer that is read and written in 32-bit words holds four bytes a word, the
first byte in the low bits.  `packWord` is the shift-and-or that fills a word and
`wordByte` the shift-and-mask that reads one byte of it; each of the four reads gives
back the byte that was packed there.
-/

namespace ByteWords

/-- `b0 << 0 | b1 << 8 | b2 << 16 | b3 << 24`. -/
def packWord (b0 b1 b2 b3 : UInt8) : UInt32 :=
  b0.toUInt32 ||| (b1.toUInt32 <<< 8) ||| (b2.toUInt32 <<< 16) ||| (b3.toUInt32 <<< 24)

/-- `(w >> 8k) & 0xFF`. -/
def wordByte (w k : UInt32) : UInt8 := ((w >>> (8 * k)) &&& 0xFF).toUInt8

/-- The mask keeps every bit of a byte, in the word and in the byte cut from it. -/
private theorem byteMask_bit :
    ∀ i < 8, (255#32).getLsbD i = true ∧ (255#8).getLsbD i = true := by decide

@[simp] theorem wordByte_packWord_zero (b0 b1 b2 b3 : UInt8) :
    wordByte (packWord b0 b1 b2 b3) 0 = b0 := by
  apply UInt8.eq_of_toBitVec_eq
  apply BitVec.eq_of_getLsbD_eq
  intro i hi
  have hm := byteMask_bit i hi
  simp [wordByte, packWord]
  grind

@[simp] theorem wordByte_packWord_one (b0 b1 b2 b3 : UInt8) :
    wordByte (packWord b0 b1 b2 b3) 1 = b1 := by
  apply UInt8.eq_of_toBitVec_eq
  apply BitVec.eq_of_getLsbD_eq
  intro i hi
  have hm := byteMask_bit i hi
  simp [wordByte, packWord]
  grind

@[simp] theorem wordByte_packWord_two (b0 b1 b2 b3 : UInt8) :
    wordByte (packWord b0 b1 b2 b3) 2 = b2 := by
  apply UInt8.eq_of_toBitVec_eq
  apply BitVec.eq_of_getLsbD_eq
  intro i hi
  have hm := byteMask_bit i hi
  simp [wordByte, packWord]
  grind

@[simp] theorem wordByte_packWord_three (b0 b1 b2 b3 : UInt8) :
    wordByte (packWord b0 b1 b2 b3) 3 = b3 := by
  apply UInt8.eq_of_toBitVec_eq
  apply BitVec.eq_of_getLsbD_eq
  intro i hi
  have hm := byteMask_bit i hi
  simp [wordByte, packWord]
  grind

end ByteWords
